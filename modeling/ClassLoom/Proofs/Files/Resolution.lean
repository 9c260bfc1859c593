import ClassLoom.Proofs.Files.Soundness

namespace ClassLoom
namespace Files
namespace FileTree

/-!
# Where paths lead

The search for a path is a function that may fail at any segment.  What it does on its way is a
relation: `Leads` says that segments lead from one directory to another, through directories and
links that are there.  A search goes along what leads, and then looks for the segments that are left.

The place that a path stands for is found by another function, which fails on nothing but circles.
`Settles` is its relation.  It depends on the links of the tree alone, and what a search finds, or
misses, is where the path settles.

Two lemmas say how a search fares in a changed tree.  If the directories and links on the way are
still there it goes the same way.  If some of them are gone it goes the same way or finds nothing; it
never ends somewhere else.
-/

variable {tree other : FileTree}

/-- The directory in which the target of a link is searched for. -/
def linkBase (directory : Location) (target : String) : Location :=
  if target.startsWith "/" then [] else directory

/-- What a search does at a link, as long as it may follow links. -/
def followLink (tree : FileTree) (follow : Bool) :
    Nat → Location → String → List String → Except Cause Spot
  | 0 => fun _ _ _ => .error .linkLoop
  | links + 1 => fun directory target rest =>
      search tree follow links (linkBase directory target) (rawSegments target ++ rest)

theorem search_eq_walk (tree : FileTree) (follow : Bool) (links : Nat) (here : Location)
    (rest : List String) :
    search tree follow links here rest = walk tree follow (followLink tree follow links) here rest := by
  cases links with
  | zero => rfl
  | succ links => rfl

section Steps

variable {follow : Bool} {links : Nat} {here : Location} {segment : String} {rest : List String}

theorem search_nil : search tree follow links here [] = .ok (.found here .directory) := by
  rw [search_eq_walk, walk]

theorem search_idle (idle : isIdle segment = true) :
    search tree follow links here (segment :: rest) = search tree follow links here rest := by
  rw [search_eq_walk, search_eq_walk, walk, if_pos idle]

theorem search_up :
    search tree follow links here (".." :: rest) = search tree follow links here.dropLast rest := by
  rw [search_eq_walk, search_eq_walk, walk, if_neg (by decide), if_pos rfl]

theorem search_name (busy : isIdle segment = false) (proper : segment ≠ "..") :
    search tree follow links here (segment :: rest) =
      if 255 < segment.utf8ByteSize then .error .nameTooLong
      else
        match tree.at? (here ++ [segment]) with
        | none =>
          if rest.isEmpty && tree.at? here = some .directory then .ok (.missing here segment)
          else .error .notFound
        | some (.file file) =>
          if rest.isEmpty then .ok (.found (here ++ [segment]) (.file file)) else .error .notDirectory
        | some .directory => search tree follow links (here ++ [segment]) rest
        | some (.link target) =>
          if rest.isEmpty && !follow then .ok (.found (here ++ [segment]) (.link target))
          else followLink tree follow links here target rest := by
  rw [search_eq_walk, walk, if_neg (by simp [busy]), if_neg proper]
  cases held : tree.at? (here ++ [segment]) with
  | none => simp only [held]
  | some entry =>
      cases entry with
      | file file => simp only [held]
      | directory => simp only [held, search_eq_walk]
      | link target => simp only [held]

end Steps

/-! ## The way of a search -/

/-- Segments that lead from one directory to another; of the links that may be followed, some are
left. -/
inductive Leads (tree : FileTree) : Nat → Location → List String → Nat → Location → Prop
  | done {links : Nat} {here : Location} : Leads tree links here [] links here
  | idle {links left : Nat} {here there : Location} {segment : String} {rest : List String} :
      isIdle segment = true → Leads tree links here rest left there →
      Leads tree links here (segment :: rest) left there
  | up {links left : Nat} {here there : Location} {rest : List String} :
      Leads tree links here.dropLast rest left there → Leads tree links here (".." :: rest) left there
  | down {links left : Nat} {here there : Location} {segment : String} {rest : List String} :
      isIdle segment = false → segment ≠ ".." → segment.utf8ByteSize ≤ 255 →
      tree.at? (here ++ [segment]) = some .directory →
      Leads tree links (here ++ [segment]) rest left there →
      Leads tree links here (segment :: rest) left there
  | link {links left : Nat} {here there : Location} {segment target : String} {rest : List String} :
      isIdle segment = false → segment ≠ ".." → segment.utf8ByteSize ≤ 255 →
      tree.at? (here ++ [segment]) = some (.link target) →
      Leads tree links (linkBase here target) (rawSegments target ++ rest) left there →
      Leads tree (links + 1) here (segment :: rest) left there

/-- A search goes along what leads. -/
theorem Leads.search_append {follow : Bool} {links left : Nat} {here there : Location}
    {front tail : List String} (leads : Leads tree links here front left there) (more : tail ≠ []) :
    search tree follow links here (front ++ tail) = search tree follow left there tail := by
  have open_ : ∀ rest : List String, (rest ++ tail).isEmpty = false := fun rest => by simp [more]
  induction leads with
  | done => rfl
  | idle idle _ inductionHypothesis => rw [List.cons_append, search_idle idle, inductionHypothesis]
  | up _ inductionHypothesis => rw [List.cons_append, search_up, inductionHypothesis]
  | down busy proper short held _ inductionHypothesis =>
      rw [List.cons_append, search_name busy proper, if_neg (by omega), held]
      exact inductionHypothesis
  | @link links left here there segment target rest busy proper short held _ inductionHypothesis =>
      rw [List.cons_append, search_name busy proper, if_neg (by omega), held]
      simp only [open_ rest, Bool.false_and, Bool.false_eq_true, if_false]
      rw [List.append_assoc] at inductionHypothesis
      exact inductionHypothesis

/-- One more link is followed only by a search that goes on from its target. -/
theorem exists_leads_of_followLink {follow : Bool} {links : Nat} {tail : List String} {spot : Spot}
    (more : tail ≠ [])
    (onward : ∀ {directory : Location} {target : String} {rest : List String},
      followLink tree follow links directory target (rest ++ tail) = .ok spot →
      ∃ fewer left there, links = fewer + 1 ∧
        Leads tree fewer (linkBase directory target) (rawSegments target ++ rest) left there ∧
        search tree follow left there tail = .ok spot)
    {here : Location} {front : List String}
    (done : search tree follow links here (front ++ tail) = .ok spot) :
    ∃ left there, Leads tree links here front left there ∧
      search tree follow left there tail = .ok spot := by
  induction front generalizing here with
  | nil => exact ⟨links, here, .done, done⟩
  | cons segment rest inductionHypothesis =>
      have open_ : (rest ++ tail).isEmpty = false := by simp [more]
      rw [List.cons_append] at done
      by_cases idle : isIdle segment = true
      · rw [search_idle idle] at done
        obtain ⟨left, there, leads, last⟩ := inductionHypothesis done
        exact ⟨left, there, .idle idle leads, last⟩
      have busy : isIdle segment = false := by simpa using idle
      by_cases up : segment = ".."
      · subst up
        rw [search_up] at done
        obtain ⟨left, there, leads, last⟩ := inductionHypothesis done
        exact ⟨left, there, .up leads, last⟩
      rw [search_name busy up] at done
      split at done
      · simp at done
      next short =>
        have short : segment.utf8ByteSize ≤ 255 := by omega
        cases held : tree.at? (here ++ [segment]) with
        | none => simp [held, more] at done
        | some entry =>
            rw [held] at done
            cases entry with
            | file file => simp [more] at done
            | directory =>
                obtain ⟨left, there, leads, last⟩ := inductionHypothesis done
                exact ⟨left, there, .down busy up short held leads, last⟩
            | link target =>
                simp only [open_, Bool.false_and, Bool.false_eq_true, if_false] at done
                obtain ⟨fewer, left, there, rfl, leads, last⟩ := onward done
                exact ⟨left, there, .link busy up short held leads, last⟩

/-- A search that does not fail has been led to where its last segments are. -/
theorem exists_leads {follow : Bool} {links : Nat} {here : Location} {front tail : List String}
    {spot : Spot} (more : tail ≠ []) (done : search tree follow links here (front ++ tail) = .ok spot) :
    ∃ left there, Leads tree links here front left there ∧
      search tree follow left there tail = .ok spot := by
  induction links generalizing here front with
  | zero =>
      refine exists_leads_of_followLink more ?_ done
      intro directory target rest refused
      simp [followLink] at refused
  | succ links inductionHypothesis =>
      refine exists_leads_of_followLink more ?_ done
      intro directory target rest further
      simp only [followLink, ← List.append_assoc] at further
      obtain ⟨left, there, leads, last⟩ := inductionHypothesis further
      exact ⟨links, left, there, rfl, leads, last⟩

/-! ## The way in a changed tree -/

/-- Whatever leads on in one tree is there in the other. -/
def Carries (tree other : FileTree) : Prop :=
  ∀ {place : Location} {entry : Entry}, tree.at? place = some entry → Entry.isFile entry = false →
    other.at? place = some entry

/-- Whatever leads on in one tree does so in the other, or leads nowhere in the other. -/
def Narrows (tree other : FileTree) : Prop :=
  ∀ {place : Location} {entry : Entry}, tree.at? place = some entry → Entry.isFile entry = false →
    other.at? place = some entry ∨ other.at? place = none ∨
      ∃ file, other.at? place = some (.file file)

theorem Leads.mono (carries : Carries tree other) {links left : Nat} {here there : Location}
    {front : List String} (leads : Leads tree links here front left there) :
    Leads other links here front left there := by
  induction leads with
  | done => exact .done
  | idle idle _ inductionHypothesis => exact .idle idle inductionHypothesis
  | up _ inductionHypothesis => exact .up inductionHypothesis
  | down busy proper short held _ inductionHypothesis =>
      exact .down busy proper short (carries held rfl) inductionHypothesis
  | link busy proper short held _ inductionHypothesis =>
      exact .link busy proper short (carries held rfl) inductionHypothesis

/-- Causes that say that nothing is there. -/
def IsAbsence (cause : Cause) : Prop := cause = .notFound ∨ cause = .notDirectory

/-- A search finds nothing behind a name that leads nowhere. -/
theorem search_of_lost {follow : Bool} {links : Nat} {here : Location} {segment : String}
    {rest tail : List String} (busy : isIdle segment = false) (proper : segment ≠ "..")
    (short : segment.utf8ByteSize ≤ 255)
    (lost : tree.at? (here ++ [segment]) = none ∨
      ∃ file, tree.at? (here ++ [segment]) = some (.file file))
    (more : tail ≠ []) :
    ∃ cause, IsAbsence cause ∧
      search tree follow links here (segment :: rest ++ tail) = .error cause := by
  rw [List.cons_append, search_name busy proper, if_neg (by omega)]
  rcases lost with gone | ⟨file, gone⟩
  · exact ⟨.notFound, .inl rfl, by simp [gone, more]⟩
  · exact ⟨.notDirectory, .inr rfl, by simp [gone, more]⟩

/-- In a narrower tree, segments lead to the same directory or nowhere. -/
theorem Leads.narrowed (narrows : Narrows tree other) {links left : Nat} {here there : Location}
    {front : List String} (leads : Leads tree links here front left there) :
    Leads other links here front left there ∨
      ∀ (follow : Bool) (tail : List String), tail ≠ [] →
        ∃ cause, IsAbsence cause ∧ search other follow links here (front ++ tail) = .error cause := by
  induction leads with
  | done => exact .inl .done
  | idle idle _ inductionHypothesis =>
      rcases inductionHypothesis with same | lost
      · exact .inl (.idle idle same)
      · refine .inr fun follow tail more => ?_
        rw [List.cons_append, search_idle idle]
        exact lost follow tail more
  | up _ inductionHypothesis =>
      rcases inductionHypothesis with same | lost
      · exact .inl (.up same)
      · refine .inr fun follow tail more => ?_
        rw [List.cons_append, search_up]
        exact lost follow tail more
  | @down links left here there segment rest busy proper short held _ inductionHypothesis =>
      rcases narrows held rfl with same | lost
      · rcases inductionHypothesis with onward | lost
        · exact .inl (.down busy proper short same onward)
        · refine .inr fun follow tail more => ?_
          rw [List.cons_append, search_name busy proper, if_neg (by omega), same]
          exact lost follow tail more
      · exact .inr fun follow tail more => search_of_lost busy proper short lost more
  | @link links left here there segment target rest busy proper short held _ inductionHypothesis =>
      rcases narrows held rfl with same | lost
      · rcases inductionHypothesis with onward | lost
        · exact .inl (.link busy proper short same onward)
        · refine .inr fun follow tail more => ?_
          have onward := lost follow tail more
          rw [List.append_assoc] at onward
          rw [List.cons_append, search_name busy proper, if_neg (by omega), same]
          simpa [more, followLink] using onward
      · exact .inr fun follow tail more => search_of_lost busy proper short lost more

/-! ## Paths with a name at their end -/

/-- The directory from which a path is searched for. -/
def base (tree : FileTree) (path : Path) : Location := if path.root = "" then tree.start else []

/-- The segments of a path lead to a directory. -/
def Reaches (tree : FileTree) (path : Path) (directory : Location) : Prop :=
  ∃ left, Leads tree linkLimit (tree.base path) path.parts left directory

/-- A name in a path is no longer than names and paths may be. -/
structure Fits (path : Path) (name : String) : Prop where
  short : name.utf8ByteSize ≤ 255
  whole : (path.child name).toString.utf8ByteSize ≤ pathLimit

section Named

variable {path : Path} {name : String} {directory : Location} {follow : Bool}

/-- A path is looked for along its segments. -/
theorem find_eq_search (proper : path.Proper) (follow : Bool) :
    tree.find follow path.toString =
      if pathLimit < path.toString.utf8ByteSize then .error .nameTooLong
      else search tree follow linkLimit (tree.base path) path.parts := by
  have top : (if path.toString.startsWith "/" = true then [] else tree.start) = tree.base path := by
    have starts := Path.startsWith_toString proper
    by_cases bare : path.root = ""
    · rw [if_neg fun starting => starts.1 starting bare, base, if_pos bare]
    · rw [if_pos (starts.2 bare), base, if_neg bare]
  have along : search tree follow linkLimit (tree.base path) (rawSegments path.toString) =
      search tree follow linkLimit (tree.base path) path.parts := by
    by_cases bare : path.parts = []
    · have spelled := Path.toString_of_bare bare
      rw [bare, search_nil]
      rcases proper.root with root | root | root
      · have shown : rawSegments path.toString = ["."] := by rw [spelled, root]; decide +kernel
        rw [shown, search_idle (by decide), search_nil]
      · have shown : rawSegments path.toString = [] := by rw [spelled, root]; decide +kernel
        rw [shown, search_nil]
      · have shown : rawSegments path.toString = [] := by rw [spelled, root]; decide +kernel
        rw [shown, search_nil]
    · have whole := Path.rawSegments_child proper.parent (proper.name bare)
      have kept : path.parent.parts ++ [path.name] = path.parts :=
        congrArg Path.parts (Path.parent_child_name bare)
      rw [Path.parent_child_name bare, kept] at whole
      rw [whole]
  unfold find
  rw [if_neg (Path.toString_ne_empty proper)]
  simp only [top, along]

theorem find_child (proper : path.Proper) (segment : IsSegment name) :
    tree.find follow (path.child name).toString =
      if pathLimit < (path.child name).toString.utf8ByteSize then .error .nameTooLong
      else search tree follow linkLimit (tree.base path) (path.parts ++ [name]) :=
  find_eq_search (proper.child segment) follow

theorem Reaches.find_eq (reaches : tree.Reaches path directory) (follow : Bool) (proper : path.Proper)
    (named : IsName name) (fits : Fits path name) :
    ∃ left, tree.find follow (path.child name).toString =
      match tree.at? (directory ++ [name]) with
      | none =>
        if tree.at? directory = some .directory then .ok (.missing directory name)
        else .error .notFound
      | some (.link target) =>
        if follow then followLink tree true left directory target []
        else .ok (.found (directory ++ [name]) (.link target))
      | some entry => .ok (.found (directory ++ [name]) entry) := by
  obtain ⟨left, leads⟩ := reaches
  have short := fits.short
  have size := fits.whole
  refine ⟨left, ?_⟩
  rw [find_child proper named.1, if_neg (by omega), leads.search_append (by simp),
    search_name named.1.2 named.2, if_neg (by omega)]
  cases held : tree.at? (directory ++ [name]) with
  | none => simp
  | some entry =>
      cases entry with
      | file file => simp
      | directory => simp [search_nil]
      | link target => cases follow <;> simp

theorem Reaches.find_false (reaches : tree.Reaches path directory) (proper : path.Proper)
    (named : IsName name) (fits : Fits path name) :
    tree.find false (path.child name).toString =
      match tree.at? (directory ++ [name]) with
      | none =>
        if tree.at? directory = some .directory then .ok (.missing directory name)
        else .error .notFound
      | some entry => .ok (.found (directory ++ [name]) entry) := by
  obtain ⟨left, found⟩ := reaches.find_eq false proper named fits
  rw [found]
  cases held : tree.at? (directory ++ [name]) with
  | none => rfl
  | some entry => cases entry <;> rfl

/-- What is no link is found whether or not links are followed. -/
theorem Reaches.find_of_plain (reaches : tree.Reaches path directory) (follow : Bool)
    (proper : path.Proper) (named : IsName name) (fits : Fits path name) {entry : Entry}
    (held : tree.at? (directory ++ [name]) = some entry) (plain : Entry.isLink entry = false) :
    tree.find follow (path.child name).toString = .ok (.found (directory ++ [name]) entry) := by
  obtain ⟨left, found⟩ := reaches.find_eq follow proper named fits
  rw [found, held]
  cases entry with
  | link target => cases plain
  | file file => rfl
  | directory => rfl

/-- What is found or missing at the end of a path was looked for in a directory. -/
theorem exists_reaches {spot : Spot} (proper : path.Proper) (named : IsName name)
    (done : tree.find follow (path.child name).toString = .ok spot) :
    ∃ directory, tree.Reaches path directory ∧ Fits path name := by
  rw [find_child proper named.1] at done
  split at done
  · simp at done
  next size =>
    obtain ⟨left, directory, leads, last⟩ := exists_leads (by simp) done
    rw [search_name named.1.2 named.2] at last
    split at last
    · simp at last
    next short => exact ⟨directory, ⟨left, leads⟩, by omega, by omega⟩

theorem Reaches.mono (carries : Carries tree other) (start : other.start = tree.start)
    (reaches : tree.Reaches path directory) : other.Reaches path directory := by
  obtain ⟨left, leads⟩ := reaches
  refine ⟨left, ?_⟩
  rw [base, start]
  exact leads.mono carries

/-- A path leads to a directory, or nothing can be found at its end. -/
def Tracks (tree : FileTree) (path : Path) (name : String) (directory : Location) : Prop :=
  tree.Reaches path directory ∨ ∀ follow, ∃ cause, (Fits path name → IsAbsence cause) ∧
    tree.find follow (path.child name).toString = .error cause

/-- In a narrower tree a path leads to the same directory, or what is looked for at its end is not
found. -/
theorem Reaches.narrowed (narrows : Narrows tree other) (start : other.start = tree.start)
    (reaches : tree.Reaches path directory) (proper : path.Proper) (segment : IsSegment name) :
    other.Tracks path name directory := by
  obtain ⟨left, leads⟩ := reaches
  have from_ : other.base path = tree.base path := by rw [base, base, start]
  rcases leads.narrowed narrows with same | lost
  · exact .inl ⟨left, from_ ▸ same⟩
  · refine .inr fun follow => ?_
    obtain ⟨cause, absence, failed⟩ := lost follow [name] (by simp)
    rw [find_child proper segment, from_, failed]
    by_cases long : pathLimit < (path.child name).toString.utf8ByteSize
    · exact ⟨.nameTooLong, fun fits => absurd fits.whole (by omega), if_pos long⟩
    · exact ⟨cause, fun _ => absence, if_neg long⟩

/-- What is found at the end of a path that leads somewhere, if it leads anywhere, is found there. -/
theorem Tracks.reaches {spot : Spot} (tracks : tree.Tracks path name directory)
    (found : tree.find follow (path.child name).toString = .ok spot) :
    tree.Reaches path directory := by
  rcases tracks with reaches | lost
  · exact reaches
  · obtain ⟨cause, _, missed⟩ := lost follow
    rw [missed] at found
    cases found

/-- What is found without following links is in the directory that the path leads to. -/
theorem Tracks.found (tracks : tree.Tracks path name directory) (proper : path.Proper)
    (named : IsName name) {place : Location} {entry : Entry}
    (found : tree.find false (path.child name).toString = .ok (.found place entry)) :
    place = directory ++ [name] ∧ tree.at? (directory ++ [name]) = some entry := by
  obtain ⟨_, _, fits⟩ := exists_reaches proper named found
  rw [(tracks.reaches found).find_false proper named fits] at found
  split at found
  · split at found <;> simp at found
  next held =>
    obtain ⟨rfl, rfl⟩ := Spot.found.inj (Except.ok.inj found)
    exact ⟨rfl, held⟩

end Named

end FileTree
end Files
end ClassLoom
