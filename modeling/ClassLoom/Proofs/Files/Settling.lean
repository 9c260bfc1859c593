import ClassLoom.Proofs.Files.Resolution

namespace ClassLoom
namespace Files
namespace FileTree

/-!
# Where paths settle

The place that a path stands for is found by taking segments that do not exist as they are.  As a
relation it depends on the links of the tree alone.  What a search finds, and the place at which a
search misses a name, are where the path settles.  So a path that was seen to settle below some
directory is found below it as long as no link changes, whatever else has been made since.
-/

variable {tree other : FileTree}

/-- Segments settle at a place, looked for from a directory. -/
inductive Settles (tree : FileTree) : Location → List String → Location → Prop
  | done {here : Location} : Settles tree here [] here
  | idle {here there : Location} {segment : String} {rest : List String} :
      isIdle segment = true → Settles tree here rest there → Settles tree here (segment :: rest) there
  | up {here there : Location} {rest : List String} :
      Settles tree here.dropLast rest there → Settles tree here (".." :: rest) there
  | name {here there : Location} {segment : String} {rest : List String} :
      isIdle segment = false → segment ≠ ".." →
      (∀ target, tree.at? (here ++ [segment]) ≠ some (.link target)) →
      Settles tree (here ++ [segment]) rest there → Settles tree here (segment :: rest) there
  | link {here middle there : Location} {segment target : String} {rest : List String} :
      isIdle segment = false → segment ≠ ".." →
      tree.at? (here ++ [segment]) = some (.link target) →
      Settles tree (linkBase here target) (segments target) middle →
      Settles tree middle rest there → Settles tree here (segment :: rest) there

namespace Settles

/-- Segments settle at one place only. -/
theorem unique {here first second : Location} {parts : List String}
    (settles : Settles tree here parts first) (again : Settles tree here parts second) :
    first = second := by
  induction settles generalizing second with
  | done =>
      cases again
      rfl
  | idle idle _ inductionHypothesis =>
      cases again with
      | idle _ further => exact inductionHypothesis further
      | up _ => exact absurd idle (by decide)
      | name busy _ _ _ => exact absurd (idle.symm.trans busy) Bool.noConfusion
      | link busy _ _ _ _ => exact absurd (idle.symm.trans busy) Bool.noConfusion
  | up _ inductionHypothesis =>
      cases again with
      | idle idle _ => exact absurd idle (by decide)
      | up further => exact inductionHypothesis further
      | name _ proper _ _ => exact absurd rfl proper
      | link _ proper _ _ _ => exact absurd rfl proper
  | name busy proper plain _ inductionHypothesis =>
      cases again with
      | idle idle _ => exact absurd (idle.symm.trans busy) Bool.noConfusion
      | up _ => exact absurd rfl proper
      | name _ _ _ further => exact inductionHypothesis further
      | link _ _ held _ _ => exact absurd held (plain _)
  | link busy proper held _ _ targetHypothesis inductionHypothesis =>
      cases again with
      | idle idle _ => exact absurd (idle.symm.trans busy) Bool.noConfusion
      | up _ => exact absurd rfl proper
      | name _ _ plain _ => exact absurd held (plain _)
      | link _ _ heldAgain target further =>
          obtain rfl := Entry.link.inj (Option.some.inj (held.symm.trans heldAgain))
          obtain rfl := targetHypothesis target
          exact inductionHypothesis further

theorem append {here middle there : Location} {front rest : List String}
    (first : Settles tree here front middle) (second : Settles tree middle rest there) :
    Settles tree here (front ++ rest) there := by
  induction first with
  | done => exact second
  | idle idle _ inductionHypothesis => exact .idle idle (inductionHypothesis second)
  | up _ inductionHypothesis => exact .up (inductionHypothesis second)
  | name busy proper plain _ inductionHypothesis =>
      exact .name busy proper plain (inductionHypothesis second)
  | link busy proper held target _ _ inductionHypothesis =>
      exact .link busy proper held target (inductionHypothesis second)

theorem split {here there : Location} {front rest : List String}
    (settles : Settles tree here (front ++ rest) there) :
    ∃ middle, Settles tree here front middle ∧ Settles tree middle rest there := by
  induction front generalizing here with
  | nil => exact ⟨here, .done, settles⟩
  | cons segment front inductionHypothesis =>
      rw [List.cons_append] at settles
      cases settles with
      | idle idle further =>
          obtain ⟨middle, first, second⟩ := inductionHypothesis further
          exact ⟨middle, .idle idle first, second⟩
      | up further =>
          obtain ⟨middle, first, second⟩ := inductionHypothesis further
          exact ⟨middle, .up first, second⟩
      | name busy proper plain further =>
          obtain ⟨middle, first, second⟩ := inductionHypothesis further
          exact ⟨middle, .name busy proper plain first, second⟩
      | link busy proper held target further =>
          obtain ⟨middle, first, second⟩ := inductionHypothesis further
          exact ⟨middle, .link busy proper held target first, second⟩

/-- Only links matter. -/
theorem congr (links : ∀ {place : Location} {target : String},
      tree.at? place = some (.link target) ↔ other.at? place = some (.link target))
    {here there : Location} {parts : List String} (settles : Settles tree here parts there) :
    Settles other here parts there := by
  induction settles with
  | done => exact .done
  | idle idle _ inductionHypothesis => exact .idle idle inductionHypothesis
  | up _ inductionHypothesis => exact .up inductionHypothesis
  | name busy proper plain _ inductionHypothesis =>
      exact .name busy proper (fun target held => plain target (links.2 held)) inductionHypothesis
  | link busy proper held _ _ targetHypothesis inductionHypothesis =>
      exact .link busy proper (links.1 held) targetHypothesis inductionHypothesis

/-- Segments that name nothing do not matter. -/
theorem filter {here there : Location} {parts : List String} :
    Settles tree here (parts.filter fun s => !isIdle s) there ↔ Settles tree here parts there := by
  induction parts generalizing here with
  | nil => exact Iff.rfl
  | cons segment rest inductionHypothesis =>
      cases idle : isIdle segment with
      | true =>
          rw [List.filter_cons_of_neg (by simp [idle]), inductionHypothesis]
          refine ⟨.idle idle, fun settles => ?_⟩
          cases settles with
          | idle _ further => exact further
          | up _ => exact absurd idle (by decide)
          | name busy _ _ _ => exact absurd (idle.symm.trans busy) Bool.noConfusion
          | link busy _ _ _ _ => exact absurd (idle.symm.trans busy) Bool.noConfusion
      | false =>
          rw [List.filter_cons_of_pos (by simp [idle])]
          constructor
          · intro settles
            cases settles with
            | idle named _ => exact absurd (named.symm.trans idle) Bool.noConfusion
            | up further => exact .up (inductionHypothesis.1 further)
            | name busy proper plain further =>
                exact .name busy proper plain (inductionHypothesis.1 further)
            | link busy proper held target further =>
                exact .link busy proper held target (inductionHypothesis.1 further)
          · intro settles
            cases settles with
            | idle named _ => exact absurd (named.symm.trans idle) Bool.noConfusion
            | up further => exact .up (inductionHypothesis.2 further)
            | name busy proper plain further =>
                exact .name busy proper plain (inductionHypothesis.2 further)
            | link busy proper held target further =>
                exact .link busy proper held target (inductionHypothesis.2 further)

/-- Names settle one below the other where no link is in the way. -/
theorem straight {here : Location} {parts : List String} (named : ∀ part ∈ parts, IsName part)
    (plain : ∀ front, front <+: parts → ∀ target, tree.at? (here ++ front) ≠ some (.link target)) :
    Settles tree here parts (here ++ parts) := by
  induction parts generalizing here with
  | nil =>
      rw [List.append_nil]
      exact .done
  | cons segment rest inductionHypothesis =>
      have first := named segment List.mem_cons_self
      have further : Settles tree (here ++ [segment]) rest (here ++ [segment] ++ rest) := by
        refine inductionHypothesis (fun part member => named part (List.mem_cons_of_mem _ member)) ?_
        intro front whole target
        rw [List.append_assoc]
        exact plain (segment :: front) ((List.prefix_cons_inj segment).2 whole) target
      rw [List.append_assoc] at further
      exact .name first.1.2 first.2 (plain [segment] ⟨rest, rfl⟩) (by simpa using further)

end Settles

theorem filter_rawSegments (raw : String) :
    (rawSegments raw).filter (fun s => !isIdle s) = (segments raw).filter fun s => !isIdle s := by
  have idleEmpty : isIdle "" = true := by decide
  have idleDot : isIdle "." = true := by decide
  have kept : ((segments raw).filter (· ≠ "")).filter (fun s => !isIdle s) =
      (segments raw).filter fun s => !isIdle s := by
    rw [List.filter_filter]
    refine List.filter_congr fun s _ => ?_
    by_cases empty : s = ""
    · simp [empty, idleEmpty]
    · simp [empty]
  unfold rawSegments
  simp only
  split
  · rw [List.filter_append, kept]
    simp [idleDot]
  · exact kept

theorem settles_rawSegments {here there : Location} {raw : String} :
    Settles tree here (rawSegments raw) there ↔ Settles tree here (segments raw) there := by
  rw [← Settles.filter, filter_rawSegments, Settles.filter]

/-- The function that settles paths answers where they settle. -/
theorem settles_of_settleFrom {onLink : Location → String → Option Location}
    (answers : ∀ {directory place : Location} {target : String}, onLink directory target = some place →
      Settles tree (linkBase directory target) (segments target) place)
    {here place : Location} {parts : List String}
    (settled : settleFrom tree onLink here parts = some place) : Settles tree here parts place := by
  induction parts generalizing here with
  | nil =>
      obtain rfl := Option.some.inj settled
      exact .done
  | cons segment rest inductionHypothesis =>
      rw [settleFrom] at settled
      split at settled
      next idle => exact .idle idle (inductionHypothesis settled)
      next busy =>
        have busy : isIdle segment = false := by simpa using busy
        split at settled
        next up =>
          subst up
          exact .up (inductionHypothesis settled)
        next proper =>
          split at settled
          next target held =>
            split at settled
            next middle found =>
              exact .link busy proper held (answers found) (inductionHypothesis settled)
            next => simp at settled
          next plain =>
            exact .name busy proper (fun target held => plain target held)
              (inductionHypothesis settled)

theorem settles_of_settle {depth : Nat} {here place : Location} {parts : List String}
    (settled : tree.settle depth here parts = some place) : Settles tree here parts place := by
  induction depth generalizing here place parts with
  | zero => exact settles_of_settleFrom (fun found => by simp at found) settled
  | succ depth inductionHypothesis =>
      exact settles_of_settleFrom (fun found => inductionHypothesis found) settled

theorem settles_of_resolve {path : Path} {place : Location}
    (resolved : tree.resolve? path = some place) : Settles tree (tree.base path) path.parts place := by
  have settles := settles_of_settle resolved
  simpa [base] using settles

/-! ## What a search finds is where its path settles -/

theorem Leads.settles {links left : Nat} {here there : Location} {front : List String}
    (leads : Leads tree links here front left there) : Settles tree here front there := by
  induction leads with
  | done => exact .done
  | idle idle _ inductionHypothesis => exact .idle idle inductionHypothesis
  | up _ inductionHypothesis => exact .up inductionHypothesis
  | down busy proper _ held _ inductionHypothesis =>
      exact .name busy proper (by simp [held]) inductionHypothesis
  | link busy proper _ held _ inductionHypothesis =>
      obtain ⟨middle, target, further⟩ := inductionHypothesis.split
      exact .link busy proper held (settles_rawSegments.1 target) further

/-- A name that is no link settles in the directory that the path before it leads to. -/
theorem Reaches.settles {path : Path} {directory : Location} {name : String}
    (reaches : tree.Reaches path directory) (named : IsName name)
    (plain : ∀ target, tree.at? (directory ++ [name]) ≠ some (.link target)) :
    Settles tree (tree.base path) (path.parts ++ [name]) (directory ++ [name]) := by
  obtain ⟨_, leads⟩ := reaches
  exact leads.settles.append (.name named.1.2 named.2 plain .done)

/-- The end of a search that follows links, and the place that it is about. -/
inductive Sighted (tree : FileTree) : Spot → Location → Prop
  | found {place : Location} {entry : Entry} : tree.at? place = some entry →
      Entry.isLink entry = false → Sighted tree (.found place entry) place
  | missing {directory : Location} {name : String} : tree.at? directory = some .directory →
      IsName name → tree.at? (directory ++ [name]) = none →
      Sighted tree (.missing directory name) (directory ++ [name])

theorem slashless_rawSegments {raw segment : String} (member : segment ∈ rawSegments raw) :
    '/' ∉ segment.toList := by
  unfold rawSegments at member
  simp only at member
  split at member
  · rcases List.mem_append.1 member with listed | dot
    · exact slashless_of_mem_segments (List.mem_of_mem_filter listed)
    · rw [List.mem_singleton.1 dot]
      decide
  · exact slashless_of_mem_segments (List.mem_of_mem_filter member)

theorem Sound.at?_dropLast (sound : tree.Sound) {here : Location}
    (alive : tree.at? here = some .directory) : tree.at? here.dropLast = some .directory := by
  by_cases top : here = []
  · rw [top]
    rfl
  · exact sound.rooted alive

theorem Sound.at?_linkBase (sound : tree.Sound) {here : Location} {name target : String}
    (held : tree.at? (here ++ [name]) = some (.link target)) :
    tree.at? (linkBase here target) = some .directory := by
  unfold linkBase
  split
  · rfl
  · simpa using sound.rooted held

/-- What is said of a search holds of it if it holds of the searches behind its links. -/
theorem settles_of_followLink (sound : tree.Sound) {links : Nat} {spot : Spot}
    (onward : ∀ {directory : Location} {target : String} {rest : List String},
      tree.at? (linkBase directory target) = some .directory →
      (∀ s ∈ rest, '/' ∉ s.toList) → followLink tree true links directory target rest = .ok spot →
      ∃ place, Settles tree (linkBase directory target) (rawSegments target ++ rest) place ∧
        Sighted tree spot place)
    {here : Location} {parts : List String} (alive : tree.at? here = some .directory)
    (slashless : ∀ s ∈ parts, '/' ∉ s.toList)
    (done : search tree true links here parts = .ok spot) :
    ∃ place, Settles tree here parts place ∧ Sighted tree spot place := by
  induction parts generalizing here with
  | nil =>
      rw [search_nil] at done
      obtain rfl := Except.ok.inj done
      exact ⟨here, .done, .found alive rfl⟩
  | cons segment rest inductionHypothesis =>
      have restSlashless : ∀ s ∈ rest, '/' ∉ s.toList :=
        fun s member => slashless s (List.mem_cons_of_mem _ member)
      by_cases idle : isIdle segment = true
      · rw [search_idle idle] at done
        obtain ⟨place, settles, sighted⟩ := inductionHypothesis alive restSlashless done
        exact ⟨place, .idle idle settles, sighted⟩
      have busy : isIdle segment = false := by simpa using idle
      by_cases up : segment = ".."
      · subst up
        rw [search_up] at done
        obtain ⟨place, settles, sighted⟩ :=
          inductionHypothesis (sound.at?_dropLast alive) restSlashless done
        exact ⟨place, .up settles, sighted⟩
      have named : IsName segment := ⟨⟨slashless segment List.mem_cons_self, busy⟩, up⟩
      rw [search_name busy up] at done
      split at done
      · simp at done
      cases held : tree.at? (here ++ [segment]) with
      | none =>
          simp only [held, alive, decide_true, Bool.and_true] at done
          split at done
          next last =>
            obtain rfl := Except.ok.inj done
            obtain rfl := List.isEmpty_iff.1 last
            exact ⟨here ++ [segment], .name busy up (by simp [held]) .done,
              .missing alive named held⟩
          next => simp at done
      | some entry =>
          rw [held] at done
          cases entry with
          | file file =>
              simp only at done
              split at done
              next last =>
                obtain rfl := Except.ok.inj done
                obtain rfl := List.isEmpty_iff.1 last
                exact ⟨here ++ [segment], .name busy up (by simp [held]) .done, .found held rfl⟩
              next => simp at done
          | directory =>
              obtain ⟨place, settles, sighted⟩ := inductionHypothesis held restSlashless done
              exact ⟨place, .name busy up (by simp [held]) settles, sighted⟩
          | link target =>
              simp only [Bool.not_true, Bool.and_false, Bool.false_eq_true, if_false] at done
              obtain ⟨place, settles, sighted⟩ :=
                onward (sound.at?_linkBase held) restSlashless done
              obtain ⟨middle, first, second⟩ := settles.split
              exact ⟨place, .link busy up held (settles_rawSegments.1 first) second, sighted⟩

theorem settles_of_search (sound : tree.Sound) {links : Nat} {spot : Spot} {here : Location}
    {parts : List String} (alive : tree.at? here = some .directory)
    (slashless : ∀ s ∈ parts, '/' ∉ s.toList)
    (done : search tree true links here parts = .ok spot) :
    ∃ place, Settles tree here parts place ∧ Sighted tree spot place := by
  induction links generalizing here parts with
  | zero =>
      refine settles_of_followLink sound ?_ alive slashless done
      intro directory target rest _ _ refused
      simp [followLink] at refused
  | succ links inductionHypothesis =>
      refine settles_of_followLink sound ?_ alive slashless done
      intro directory target rest based restSlashless further
      refine inductionHypothesis based ?_ further
      intro s member
      rcases List.mem_append.1 member with first | second
      · exact slashless_rawSegments first
      · exact restSlashless s second

/-- What is found or missing at the end of a path is where the path settles. -/
theorem settles_of_find (sound : tree.Sound) {path : Path} {name : String} {spot : Spot}
    (proper : path.Proper) (named : IsName name)
    (done : tree.find true (path.child name).toString = .ok spot) :
    ∃ place, Settles tree (tree.base path) (path.parts ++ [name]) place ∧ Sighted tree spot place := by
  obtain ⟨directory, reaches, fits⟩ := exists_reaches proper named done
  obtain ⟨left, found⟩ := reaches.find_eq true proper named fits
  have above : Settles tree (tree.base path) path.parts directory := by
    obtain ⟨_, leads⟩ := reaches
    exact leads.settles
  rw [found] at done
  cases held : tree.at? (directory ++ [name]) with
  | none =>
      simp only [held] at done
      split at done
      next alive =>
        obtain rfl := Except.ok.inj done
        exact ⟨directory ++ [name], above.append (.name named.1.2 named.2 (by simp [held]) .done),
          .missing alive named held⟩
      next => simp at done
  | some entry =>
      rw [held] at done
      cases entry with
      | link target =>
          simp only [if_true] at done
          cases left with
          | zero => simp [followLink] at done
          | succ left =>
              simp only [followLink, List.append_nil] at done
              obtain ⟨place, settles, sighted⟩ := settles_of_search sound (sound.at?_linkBase held)
                (fun s => slashless_rawSegments) done
              exact ⟨place, above.append
                (.link named.1.2 named.2 held (settles_rawSegments.1 settles) .done), sighted⟩
      | file file =>
          obtain rfl := Except.ok.inj done
          exact ⟨directory ++ [name], above.append (.name named.1.2 named.2 (by simp [held]) .done),
            .found held rfl⟩
      | directory =>
          obtain rfl := Except.ok.inj done
          exact ⟨directory ++ [name], above.append (.name named.1.2 named.2 (by simp [held]) .done),
            .found held rfl⟩

end FileTree
end Files
end ClassLoom
