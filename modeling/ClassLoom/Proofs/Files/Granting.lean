import ClassLoom.Proofs.Files.Guarded
import ClassLoom.Proofs.Files.Shapes
import ClassLoom.Proofs.Rebuild.Keys

namespace ClassLoom
namespace Files
namespace FileTree

/-!
# What the file system grants

An operation is refused for few reasons: the path is too long or holds a NUL, its way leads through
something that is no directory, or the wrong thing is at its end.  Where none of these is the case,
looking, listing, writing, making directories and renaming succeed.

Paths are given as names below a path that is known to lead to a directory.
-/

open Rebuild (under child_under)

variable {tree after : FileTree} {root path : Path} {top here there middle : Location}
  {names front : List String} {name : String}

/-! ## Paths within the limits -/

/-- A path that can be asked for: without a NUL, and no longer than paths and names may be. -/
structure Askable (path : Path) : Prop where
  clean : hasNul path.toString = false
  size : path.toString.utf8ByteSize ≤ pathLimit
  short : ∀ part ∈ path.parts, part.utf8ByteSize ≤ 255

theorem toString_child (path : Path) (name : String) :
    (path.child name).toString =
      (if path.parts = [] then path.root else path.toString ++ "/") ++ name := by
  have nonempty : (path.child name).parts ≠ [] := by simp [Path.child]
  rw [Path.toString_of_parts nonempty]
  split
  next bare => simp [Path.child, bare]
  next filled =>
    rw [Path.toString_of_parts filled]
    simp only [Path.child]
    rw [intercalate_concat filled]
    simp only [String.append_assoc]

theorem hasNul_append (first second : String) :
    hasNul (first ++ second) = (hasNul first || hasNul second) := by
  simp [hasNul]

namespace Askable

theorem fits (askable : Askable (path.child name)) : Fits path name :=
  ⟨askable.short name (by simp [Path.child]), askable.size⟩

theorem parent (askable : Askable (path.child name)) : Askable path := by
  have clean := askable.clean
  have size := askable.size
  rw [toString_child] at clean size
  rw [hasNul_append, Bool.or_eq_false_iff] at clean
  rw [String.utf8ByteSize_append] at size
  by_cases bare : path.parts = []
  · rw [if_pos bare] at clean size
    have spelled := Path.toString_of_bare bare
    refine ⟨?_, ?_, by simp [bare]⟩
    · rw [spelled]
      split
      · decide
      · exact clean.1
    · rw [spelled]
      split
      · decide
      · omega
  · rw [if_neg bare, hasNul_append, Bool.or_eq_false_iff] at clean
    rw [if_neg bare, String.utf8ByteSize_append] at size
    exact ⟨clean.1.1, by omega, fun part member => askable.short part (by simp [Path.child, member])⟩

theorem of_prefix (askable : Askable (under root names)) (start : front <+: names) :
    Askable (under root front) := by
  obtain ⟨further, rfl⟩ := start
  induction further using List.reverseRecOn with
  | nil => rwa [List.append_nil] at askable
  | append_singleton further name inductionHypothesis =>
      rw [← List.append_assoc, ← child_under] at askable
      exact inductionHypothesis askable.parent

end Askable

/-- Only so many names can be below each other. -/
theorem Askable.length_lt (askable : Askable path) (proper : path.Proper) :
    path.parts.length < pathLimit := by
  have size := askable.size
  have long := Path.two_mul_length_le proper
  have limit : pathLimit = 4095 := rfl
  omega

/-- A path that can be asked for from the top can be asked for from where relative paths start. -/
theorem Askable.of_absolute (askable : Askable (tree.absolute path)) : Askable path := by
  by_cases relative : path.root = ""
  · have whole : tree.absolute path = ⟨"/", tree.start ++ path.parts⟩ := by
      rw [FileTree.absolute, Path.from_, if_pos (beq_iff_eq.2 relative), pathOf]
    rw [whole] at askable
    by_cases bare : path.parts = []
    · refine ⟨?_, ?_, by simp [bare]⟩
      · rw [Path.toString_of_bare bare, if_pos relative]
        decide
      · rw [Path.toString_of_bare bare, if_pos relative]
        decide
    · obtain ⟨start, spelled⟩ : ∃ start,
          (⟨"/", tree.start ++ path.parts⟩ : Path).toString = start ++ path.toString := by
        rw [Path.toString_of_parts (by simp [bare]), Path.toString_of_parts bare, relative]
        by_cases top : tree.start = []
        · exact ⟨"/", by simp [top]⟩
        · refine ⟨"/" ++ "/".intercalate tree.start ++ "/", ?_⟩
          simp only [String.intercalate_append_of_ne_nil top bare, String.append_assoc, String.empty_append]
      have clean := askable.clean
      have size := askable.size
      rw [spelled, hasNul_append, Bool.or_eq_false_iff] at clean
      rw [spelled, String.utf8ByteSize_append] at size
      exact ⟨clean.2, by omega, fun part member => askable.short part (by simp [member])⟩
  · have whole : tree.absolute path = path := by
      rw [FileTree.absolute, Path.from_, if_neg (by simpa using relative)]
    rwa [whole] at askable

/-! ## The way down -/

theorem Leads.append {links left last : Nat} {rest : List String}
    (first : Leads tree links here front left middle) (second : Leads tree left middle rest last there) :
    Leads tree links here (front ++ rest) last there := by
  induction first with
  | done => exact second
  | idle idle _ inductionHypothesis => exact .idle idle (inductionHypothesis second)
  | up _ inductionHypothesis => exact .up (inductionHypothesis second)
  | down busy proper short held _ inductionHypothesis =>
      exact .down busy proper short held (inductionHypothesis second)
  | link busy proper short held _ inductionHypothesis =>
      have onward := inductionHypothesis second
      rw [List.append_assoc] at onward
      exact .link busy proper short held onward

/-- What leads somewhere is no longer than names may be. -/
theorem Leads.short {links left : Nat} (leads : Leads tree links here front left there) :
    ∀ part ∈ front, part.utf8ByteSize ≤ 255 := by
  induction leads with
  | done => simp
  | idle idle _ inductionHypothesis =>
      intro part member
      rcases List.mem_cons.1 member with rfl | later
      · rcases isIdle_eq_true.1 idle with rfl | rfl <;> decide
      · exact inductionHypothesis part later
  | up _ inductionHypothesis =>
      intro part member
      rcases List.mem_cons.1 member with rfl | later
      · decide
      · exact inductionHypothesis part later
  | down _ _ short _ _ inductionHypothesis =>
      intro part member
      rcases List.mem_cons.1 member with rfl | later
      · exact short
      · exact inductionHypothesis part later
  | link _ _ short _ _ inductionHypothesis =>
      intro part member
      rcases List.mem_cons.1 member with rfl | later
      · exact short
      · exact inductionHypothesis part (List.mem_append_right _ later)

theorem Reaches.askable {directory : Location} (reaches : tree.Reaches path directory)
    (fits : Fits path name) (clean : hasNul (path.child name).toString = false) :
    Askable (path.child name) where
  clean := clean
  size := fits.whole
  short part member := by
    obtain ⟨left, leads⟩ := reaches
    rcases List.mem_append.1 member with above | last
    · exact leads.short part above
    · exact List.mem_singleton.1 last ▸ fits.short

/-- Above what is there, there are directories. -/
theorem Sound.alive_of_prefix (sound : tree.Sound) {entry : Entry}
    (held : tree.at? (here ++ names) = some entry) (start : front <+: names) (proper : front ≠ names) :
    tree.at? (here ++ front) = some .directory := by
  refine sound.at?_above held (isBelow_iff.2 ?_) fun same => proper (List.append_cancel_left same).symm
  exact (List.prefix_append_right_inj here).2 start

/-- Names lead from a directory to a directory below it. -/
theorem Sound.leads_down (sound : tree.Sound) (links : Nat)
    (alive : tree.at? (here ++ names) = some .directory)
    (short : ∀ name ∈ names, name.utf8ByteSize ≤ 255) : Leads tree links here names links (here ++ names) := by
  induction names generalizing here with
  | nil =>
      rw [List.append_nil]
      exact .done
  | cons name rest inductionHypothesis =>
      have whole : here ++ name :: rest = here ++ [name] ++ rest := by simp
      have named : IsName name := sound.named alive name (by simp)
      have first : tree.at? (here ++ [name]) = some .directory := by
        cases rest with
        | nil => exact alive
        | cons second further =>
            exact sound.alive_of_prefix alive (List.prefix_append [name] _) (by simp)
      rw [whole] at alive ⊢
      exact .down named.1.2 named.2 (short name List.mem_cons_self) first
        (inductionHypothesis alive fun other member => short other (List.mem_cons_of_mem _ member))

theorem Reaches.under (reaches : tree.Reaches root top) (sound : tree.Sound)
    (alive : tree.at? (top ++ names) = some .directory)
    (short : ∀ name ∈ names, name.utf8ByteSize ≤ 255) :
    tree.Reaches (Rebuild.under root names) (top ++ names) := by
  obtain ⟨left, leads⟩ := reaches
  exact ⟨left, leads.append (sound.leads_down left alive short)⟩

/-- The path of a place leads there. -/
theorem Sound.reaches_pathOf (sound : tree.Sound) (alive : tree.at? top = some .directory)
    (short : ∀ name ∈ top, name.utf8ByteSize ≤ 255) : tree.Reaches (pathOf top) top :=
  ⟨linkLimit, sound.leads_down linkLimit alive short⟩

/-- Names below a path stand below it also when it is written from the top. -/
theorem absolute_under (tree : FileTree) (root : Path) (names : List String) :
    tree.absolute (Rebuild.under root names) = Rebuild.under (tree.absolute root) names := by
  unfold FileTree.absolute Path.from_ Rebuild.under
  by_cases relative : (root.root == "") = true
  · simp only [if_pos relative, pathOf, List.append_assoc]
  · simp only [if_neg relative]

/-- A path leads to the same directory when it is written from the top. -/
theorem Reaches.absolute (reaches : tree.Reaches root top) (sound : tree.Sound)
    (started : tree.at? tree.start = some .directory)
    (short : ∀ part ∈ (tree.absolute root).parts, part.utf8ByteSize ≤ 255) :
    tree.Reaches (tree.absolute root) top := by
  unfold FileTree.absolute Path.from_ at short ⊢
  by_cases relative : root.root = ""
  · rw [if_pos (beq_iff_eq.2 relative)] at short ⊢
    obtain ⟨left, leads⟩ := reaches
    rw [base, if_pos relative] at leads
    have start : Leads tree linkLimit [] tree.start linkLimit tree.start :=
      sound.leads_down linkLimit (by rwa [List.nil_append]) fun name member =>
        short name (List.mem_append_left _ member)
    exact ⟨left, start.append leads⟩
  · rwa [if_neg (by simpa using relative)]

/-! ## Looking -/

section Looking

variable {entry : Entry}

/-- What is some names below a directory is found there. -/
theorem Reaches.stat_under (reaches : tree.Reaches root top) (sound : tree.Sound)
    (alive : tree.at? top = some .directory) (proper : root.Proper)
    (askable : Askable (Rebuild.under root names)) (held : tree.at? (top ++ names) = some entry)
    (plain : Entry.isLink entry = false) :
    tree.stat true (Rebuild.under root names).toString = .ok (top ++ names, entry) := by
  refine stat_eq_ok_iff.2 ⟨askable.clean, ?_⟩
  induction names using List.reverseRecOn with
  | nil =>
      rw [List.append_nil] at held ⊢
      obtain rfl : entry = .directory := Option.some.inj (held.symm.trans alive)
      have same : Rebuild.under root [] = root := by simp [Rebuild.under]
      rw [same] at askable ⊢
      exact (find_directory_iff proper).2 ⟨askable.size, reaches⟩
  | append_singleton names name _ =>
      have below := askable
      rw [← child_under] at below ⊢
      have above : tree.at? (top ++ names) = some .directory :=
        sound.alive_of_prefix held (List.prefix_append names [name]) (by simp)
      have named : ∀ part ∈ names ++ [name], IsName part := fun part member =>
        sound.named held part (List.mem_append_right top member)
      have short : ∀ part ∈ names, part.utf8ByteSize ≤ 255 := fun part member =>
        askable.short part (by simp [Rebuild.under, member])
      have properUnder : (Rebuild.under root names).Proper := by
        refine ⟨proper.root, fun part member => ?_⟩
        rcases List.mem_append.1 member with upper | lower
        · exact proper.parts part upper
        · exact (named part (List.mem_append_left _ lower)).1
      rw [← List.append_assoc] at held ⊢
      exact (reaches.under sound above short).find_of_plain true properUnder (named name (by simp))
        below.fits held plain

/-- What is found some names below a directory is there, if no link is on the way. -/
theorem Reaches.at?_of_stat (reaches : tree.Reaches root top) (sound : tree.Sound)
    (alive : tree.at? top = some .directory) (proper : (Rebuild.under root names).Proper)
    (named : ∀ name ∈ names, IsName name)
    (plain : ∀ front, front <+: names → ∀ target, tree.at? (top ++ front) ≠ some (.link target))
    {place : Location} (found : tree.stat true (Rebuild.under root names).toString = .ok (place, entry)) :
    tree.at? (top ++ names) = some entry := by
  obtain ⟨_, searched⟩ := stat_eq_ok_iff.1 found
  obtain ⟨left, leads⟩ := reaches
  rw [find_eq_search proper] at searched
  split at searched
  · cases searched
  have along : search tree true left top names = .ok (.found place entry) := by
    cases names with
    | nil =>
        simp only [Rebuild.under, List.append_nil] at searched
        have ended := leads.search_directory
        exact search_nil.trans (ended.symm.trans searched)
    | cons name rest => exact (leads.search_append (by simp)).symm.trans searched
  obtain ⟨there, settles, sighted⟩ :=
    settles_of_search sound alive (fun name member => (named name member).1.1) along
  obtain rfl : there = top ++ names := settles.unique (.straight named plain)
  cases sighted with
  | found held _ => exact held

theorem list_of_stat {raw : String} {place : Location}
    (found : tree.stat true raw = .ok (place, .directory)) :
    tree.list raw = .ok (inOrder (tree.children place)) := by
  rw [list, found]

theorem openFile_of_stat {raw : String} {place : Location} {file : File}
    (found : tree.stat true raw = .ok (place, .file file)) : tree.openFile raw = .ok (place, file) := by
  rw [openFile, found]

theorem read_of_stat {raw : String} {place : Location} {file : File}
    (found : tree.stat true raw = .ok (place, .file file)) : tree.read raw = .ok file.content := by
  rw [read, openFile_of_stat found]
  rfl

/-- Where nothing is, nothing is found. -/
theorem Reaches.exists_absent {directory : Location} (reaches : tree.Reaches path directory)
    (proper : path.Proper) (named : IsName name) (fits : Fits path name)
    (absent : tree.at? (directory ++ [name]) = none) : tree.exists? (path.child name) = .ok false :=
  (reaches.unfound true proper named fits absent).test

/-- A search below a directory passes over directories to nothing. -/
theorem search_absent (follow : Bool) (links : Nat) (alive : tree.at? here = some .directory)
    (named : ∀ name ∈ names, IsName name) (short : ∀ name ∈ names, name.utf8ByteSize ≤ 255)
    (plain : ∀ front, front <+: names → ∀ target, tree.at? (here ++ front) ≠ some (.link target))
    (absent : tree.at? (here ++ names) = none) :
    (∃ directory name, search tree follow links here names = .ok (.missing directory name)) ∨
      ∃ cause, IsAbsence cause ∧ search tree follow links here names = .error cause := by
  induction names generalizing here with
  | nil =>
      rw [List.append_nil, alive] at absent
      cases absent
  | cons name rest inductionHypothesis =>
      have whole : here ++ name :: rest = here ++ [name] ++ rest := by simp
      have busy := (named name List.mem_cons_self).1.2
      have proper := (named name List.mem_cons_self).2
      rw [search_name busy proper, if_neg (by have := short name List.mem_cons_self; omega)]
      cases held : tree.at? (here ++ [name]) with
      | none =>
          simp only
          split
          · exact .inl ⟨here, name, rfl⟩
          · exact .inr ⟨.notFound, .inl rfl, rfl⟩
      | some entry =>
          cases entry with
          | link target => exact absurd held (plain [name] ⟨rest, rfl⟩ target)
          | file file =>
              cases rest with
              | nil =>
                  rw [absent] at held
                  cases held
              | cons second further => exact .inr ⟨.notDirectory, .inr rfl, rfl⟩
          | directory =>
              apply inductionHypothesis held
                (fun other member => named other (List.mem_cons_of_mem name member))
                (fun other member => short other (List.mem_cons_of_mem name member))
              · intro front start
                have above : here ++ [name] ++ front = here ++ name :: front := by simp
                rw [above]
                exact plain (name :: front) ((List.prefix_cons_inj name).mpr start)
              · rw [← whole]
                exact absent

/-- Where nothing is some names below a directory, nothing is found, if no link is on the way. -/
theorem Reaches.unfound_under (reaches : tree.Reaches root top)
    (alive : tree.at? top = some .directory) (proper : (Rebuild.under root names).Proper)
    (askable : Askable (Rebuild.under root names)) (named : ∀ name ∈ names, IsName name)
    (plain : ∀ front, front <+: names → ∀ target, tree.at? (top ++ front) ≠ some (.link target))
    (absent : tree.at? (top ++ names) = none) (follow : Bool) :
    Unfound tree follow (Rebuild.under root names).toString := by
  have size : ¬pathLimit < (Rebuild.under root names).toString.utf8ByteSize := by
    have fits := askable.size
    omega
  have nonempty : names ≠ [] := by
    rintro rfl
    rw [List.append_nil, alive] at absent
    cases absent
  have short : ∀ name ∈ names, name.utf8ByteSize ≤ 255 := fun name member =>
    askable.short name (by simp [Rebuild.under, member])
  obtain ⟨left, leads⟩ := reaches
  have base : tree.base (Rebuild.under root names) = tree.base root := rfl
  rw [Unfound, find_eq_search proper, if_neg size, base]
  change (∃ directory name, search tree follow linkLimit _ (root.parts ++ names) = _) ∨
    ∃ cause, _ ∧ search tree follow linkLimit _ (root.parts ++ names) = _
  rw [leads.search_append nonempty]
  exact search_absent follow left alive named short plain absent

/-- What is at the end of a path, and no link, is found there. -/
theorem Reaches.stat_child {directory : Location} (reaches : tree.Reaches path directory) (follow : Bool)
    (proper : path.Proper) (named : IsName name) (askable : Askable (path.child name))
    (held : tree.at? (directory ++ [name]) = some entry) (plain : Entry.isLink entry = false) :
    tree.stat follow (path.child name).toString = .ok (directory ++ [name], entry) :=
  stat_eq_ok_iff.2 ⟨askable.clean, reaches.find_of_plain follow proper named askable.fits held plain⟩

end Looking

/-! ## Writing -/

section Writing

variable {directory : Location}

/-- A file can be written where a file or nothing is. -/
theorem Reaches.exists_write (reaches : tree.Reaches path directory) (sound : tree.Sound)
    (alive : tree.at? directory = some .directory) (proper : path.Proper) (named : IsName name)
    (askable : Askable (path.child name))
    (bare : tree.at? (directory ++ [name]) = none ∨ ∃ file, tree.at? (directory ++ [name]) = some (.file file))
    (content : Bytes) :
    ∃ after, tree.write (path.child name).toString content = .ok after ∧
      Written tree after (directory ++ [name]) content := by
  have slashless := Path.not_endsWith_slash_child proper named.1
  obtain ⟨left, found⟩ := reaches.find_eq true proper named askable.fits
  obtain ⟨after, done⟩ : ∃ after, tree.write (path.child name).toString content = .ok after := by
    unfold write
    rw [if_neg (by simp [askable.clean])]
    simp only [slashless, Bool.false_eq_true, if_false, found]
    rcases bare with absent | ⟨file, held⟩
    · rw [absent, alive]
      simp
    · rw [held]
      simp
  have plain : ∀ target, tree.at? (directory ++ [name]) ≠ some (.link target) := by
    rcases bare with absent | ⟨file, held⟩
    · rw [absent]
      exact nofun
    · rw [held]
      exact nofun
  obtain ⟨_, place, _, settles, _, written⟩ := exists_written sound proper named.1 done
  obtain rfl : place = directory ++ [name] := settles.unique (reaches.settles named plain)
  exact ⟨after, done, written⟩

/-- The same some names below a directory. -/
theorem Reaches.exists_write_under (reaches : tree.Reaches root top) (sound : tree.Sound)
    (proper : root.Proper) (nonempty : names ≠ []) (named : ∀ name ∈ names, IsName name)
    (askable : Askable (Rebuild.under root names))
    (above : tree.at? (top ++ names.dropLast) = some .directory)
    (bare : tree.at? (top ++ names) = none ∨ ∃ file, tree.at? (top ++ names) = some (.file file))
    (content : Bytes) :
    ∃ after, tree.write (Rebuild.under root names).toString content = .ok after ∧
      Written tree after (top ++ names) content := by
  obtain ⟨front, name, rfl⟩ : ∃ front name, names = front ++ [name] :=
    ⟨names.dropLast, names.getLast nonempty, (List.dropLast_append_getLast nonempty).symm⟩
  rw [List.dropLast_concat] at above
  have properAbove : (Rebuild.under root front).Proper := by
    refine ⟨proper.root, fun part member => ?_⟩
    rcases List.mem_append.1 member with upper | lower
    · exact proper.parts part upper
    · exact (named part (List.mem_append_left _ lower)).1
  have short : ∀ part ∈ front, part.utf8ByteSize ≤ 255 := fun part member =>
    askable.short part (by simp [Rebuild.under, member])
  rw [← List.append_assoc] at bare ⊢
  rw [← child_under] at askable ⊢
  exact (reaches.under sound above short).exists_write sound above properAbove (named name (by simp)) askable
    bare content

theorem exists_setModified {raw : String} {place : Location} {file : File} (moment : Moment)
    (found : tree.stat true raw = .ok (place, .file file)) :
    ∃ after, tree.setModified raw moment = .ok after := by
  rw [setModified, found]
  exact ⟨_, rfl⟩

end Writing

/-! ## Making directories -/

theorem withoutTrailing_slash {raw : String} (shown : ∃ c ∈ raw.toList, c ≠ '/') :
    withoutTrailing (raw ++ "/") = withoutTrailing raw := by
  obtain ⟨c, member, other⟩ := shown
  have slash : ("/" : String).toList = ['/'] := by decide
  have kept : (raw ++ "/").toList.reverse.dropWhile (· == '/') = raw.toList.reverse.dropWhile (· == '/') := by
    rw [String.toList_append, slash, List.reverse_append]
    rfl
  have visible : (raw.toList.reverse.dropWhile (· == '/')) ≠ [] := by
    intro gone
    have slashes := List.dropWhile_eq_nil_iff.1 gone c (List.mem_reverse.2 member)
    exact other (by simpa using slashes)
  unfold withoutTrailing
  simp only [kept, List.isEmpty_iff, List.reverse_eq_nil_iff, visible, if_false]

/-- Before the last segment of a path stands the path above, or nothing. -/
theorem headAndTail_fst (proper : path.Proper) (segment : IsSegment name) :
    (headAndTail (path.child name).toString).1 =
      if path.parts = [] ∧ path.root = "" then "" else path.toString := by
  have slash : ("/" : String).toList = ['/'] := by decide
  have inside : ∀ c ∈ name.toList.reverse, (c != '/') = true := by
    intro c member
    have other : c ≠ '/' := fun same => segment.1 (same ▸ List.mem_reverse.1 member)
    simpa using other
  have head : (splitLast (path.child name).toString).1 =
      if path.parts = [] ∧ path.root = "" then "" else path.toString := by
    unfold splitLast
    rw [toString_child, String.toList_append, List.reverse_append]
    simp only [List.dropWhile_append_of_pos inside]
    by_cases bare : path.parts = []
    · have spelled := Path.toString_of_bare bare
      rcases proper.root with root | root | root
      · simp [bare, root]
      · rw [spelled]
        simp only [bare, root]
        decide
      · rw [spelled]
        simp only [bare, root]
        decide
    · obtain ⟨front, shown, _⟩ := Path.exists_toList_child proper.parent path.name
      have last := proper.name bare
      rw [Path.parent_child_name bare] at shown
      obtain ⟨c, rest, letters⟩ := List.exists_cons_of_ne_nil last.toList_ne_nil
      have member : c ∈ path.toString.toList := by simp [shown, letters]
      have other : c ≠ '/' := fun same => last.1 (by simp [letters, same])
      have kept : ((path.toString ++ "/").toList.reverse.dropWhile (· != '/')).reverse =
          (path.toString ++ "/").toList := by
        rw [String.toList_append, slash, List.reverse_append]
        simp
      have spoken : (path.toString ++ "/").toList.all (· == '/') = false := by
        rw [List.all_eq_false]
        exact ⟨c, by simp [member], by simpa using other⟩
      rw [if_neg bare, kept, spoken, if_neg (by simp), String.ofList_toList,
        withoutTrailing_slash ⟨c, member, other⟩, Path.withoutTrailing_toString proper,
        if_neg (by simp [bare])]
  unfold headAndTail
  have tail := Path.splitLast_child proper segment
  rcases pair : splitLast (path.child name).toString with ⟨first, second⟩
  rw [pair] at head tail
  simp only at head tail ⊢
  rw [if_neg (by simpa [tail] using segment.ne_empty), head]

/-- A tree in which directories lead along some names to a directory, and which is otherwise the
same. -/
structure Paved (before after : FileTree) (top : Location) (names : List String) : Prop where
  alive : after.at? (top ++ names) = some .directory
  places : ∀ place, after.at? place = before.at? place ∨
    before.at? place = none ∧ after.at? place = some .directory ∧
      ∃ front, front <+: names ∧ place = top ++ front
  grown : Grown before after
  clock : after.clock = before.clock

namespace Paved

theorem refl (alive : tree.at? (top ++ names) = some .directory) : Paved tree tree top names :=
  ⟨alive, fun _ => .inl rfl, .refl tree, rfl⟩

/-- One more directory at the end. -/
theorem concat {before middle after : FileTree} (paved : Paved before middle top names)
    (made : Paved middle after (top ++ names) [name]) : Paved before after top (names ++ [name]) := by
  refine ⟨by rw [← List.append_assoc]; exact made.alive, fun place => ?_, paved.grown.trans made.grown,
    made.clock.trans paved.clock⟩
  rcases made.places place with same | ⟨absent, held, front, start, rfl⟩
  · rw [same]
    rcases paved.places place with old | ⟨absent, held, front, start, whole⟩
    · exact .inl old
    · exact .inr ⟨absent, held, front, start.trans (List.prefix_append names [name]), whole⟩
  · refine .inr ⟨?_, held, names ++ front, (List.prefix_append_right_inj names).2 start, by simp⟩
    rcases paved.places (top ++ names ++ front) with old | ⟨first, _⟩
    · rwa [old] at absent
    · exact first

end Paved

section Making

variable {directory : Location}

/-- The last directory is made where a directory or nothing is. -/
theorem Reaches.makeLastDirectory_run (reaches : tree.Reaches path directory) (sound : tree.Sound)
    (alive : tree.at? directory = some .directory) (proper : path.Proper) (named : IsName name)
    (askable : Askable (path.child name))
    (free : tree.at? (directory ++ [name]) = none ∨ tree.at? (directory ++ [name]) = some .directory) :
    ∃ after, tree.makeLastDirectory (path.child name).toString = (after, none) ∧
      Paved tree after directory [name] := by
  have spelled := Path.withoutTrailing_toString (proper.child named.1)
  have found := reaches.find_false proper named askable.fits
  rcases free with absent | held
  · rw [absent, alive] at found
    simp only [if_true] at found
    have made : tree.makeDirectory (path.child name).toString =
        .ok (tree.put (directory ++ [name]) .directory) := by
      rw [makeDirectory, if_neg (by simp [askable.clean]), spelled, found]
    refine ⟨_, by rw [makeLastDirectory, made], ?_, fun place => ?_, grown_of_makeDirectory made, rfl⟩
    · rw [at?_put (by simp), if_pos rfl]
    · rw [at?_put (by simp)]
      split
      next here => exact .inr ⟨here ▸ absent, rfl, [name], List.prefix_refl _, here⟩
      next => exact .inl rfl
  · rw [held] at found
    have refused : tree.makeDirectory (path.child name).toString =
        .error (.on (path.child name).toString .alreadyExists) := by
      rw [makeDirectory, if_neg (by simp [askable.clean]), spelled, found]
    have seen : tree.stat true (path.child name).toString = .ok (directory ++ [name], .directory) :=
      reaches.stat_under sound alive proper askable held rfl
    refine ⟨tree, ?_, .refl held⟩
    rw [makeLastDirectory, refused, FileError.on]
    simp only [seen]

theorem makeDirectories_of_present {fuel : Nat} {raw : String}
    (idle : (headAndTail raw).1 = "" ∨ tree.present (headAndTail raw).1 = true) :
    tree.makeDirectories (fuel + 1) raw = tree.makeLastDirectory raw := by
  unfold makeDirectories
  rcases ends : headAndTail raw with ⟨head, tail⟩
  rw [ends] at idle
  rcases idle with rfl | there
  · simp
  · simp only at there
    simp [there]

theorem makeDirectories_of_climbed {fuel : Nat} {raw : String} {middle : FileTree}
    (filled : (headAndTail raw).1 ≠ "") (named : IsName (headAndTail raw).2)
    (missing : tree.present (headAndTail raw).1 = false)
    (made : tree.makeDirectories fuel (headAndTail raw).1 = (middle, none)) :
    tree.makeDirectories (fuel + 1) raw = middle.makeLastDirectory raw := by
  have dotless : (headAndTail raw).2 ≠ "." := fun dot => by simpa [dot, isIdle] using named.1.2
  have proper := named.1.ne_empty
  unfold makeDirectories
  rcases ends : headAndTail raw with ⟨head, tail⟩
  rw [ends] at filled dotless proper missing made
  simp only at filled dotless proper missing made
  simp [filled, dotless, proper, missing, made, passExisting]

/-- Directories are made along names where directories or nothing is. -/
theorem Reaches.makeDirectories_run (reaches : tree.Reaches root top) (sound : tree.Sound)
    (alive : tree.at? top = some .directory) (proper : root.Proper) (nonempty : names ≠ [])
    (named : ∀ name ∈ names, IsName name) (askable : Askable (Rebuild.under root names))
    (free : ∀ front, front <+: names →
      tree.at? (top ++ front) = none ∨ tree.at? (top ++ front) = some .directory)
    {fuel : Nat} (enough : names.length ≤ fuel) :
    ∃ after, tree.makeDirectories fuel (Rebuild.under root names).toString = (after, none) ∧
      Paved tree after top names := by
  induction names using List.reverseRecOn generalizing fuel with
  | nil => exact absurd rfl nonempty
  | append_singleton names name inductionHypothesis =>
      obtain ⟨rest, rfl⟩ : ∃ rest, fuel = rest + 1 := ⟨fuel - 1, by simp at enough; omega⟩
      have start : names <+: names ++ [name] := List.prefix_append names [name]
      have last : IsName name := named name (by simp)
      have above : Askable (Rebuild.under root names) := askable.of_prefix start
      have properAbove : (Rebuild.under root names).Proper := by
        refine ⟨proper.root, fun part member => ?_⟩
        rcases List.mem_append.1 member with upper | lower
        · exact proper.parts part upper
        · exact (named part (List.mem_append_left _ lower)).1
      have short : ∀ part ∈ names, part.utf8ByteSize ≤ 255 := fun part member =>
        above.short part (by simp [Rebuild.under, member])
      have tail := headAndTail_child properAbove last.1
      have head := headAndTail_fst properAbove last.1
      rw [child_under] at tail head
      -- What is above the last name is there, or it is made first.
      obtain ⟨middle, paved, made⟩ : ∃ middle, Paved tree middle top names ∧
          tree.makeDirectories (rest + 1) (Rebuild.under root (names ++ [name])).toString =
            middle.makeLastDirectory (Rebuild.under root (names ++ [name])).toString := by
        rcases free names start with absent | held
        · have filled : names ≠ [] := by
            rintro rfl
            rw [List.append_nil, alive] at absent
            cases absent
          have shown : (headAndTail (Rebuild.under root (names ++ [name])).toString).1 =
              (Rebuild.under root names).toString := by
            rw [head, if_neg (by simp [Rebuild.under, filled])]
          obtain ⟨middle, done, paved⟩ := inductionHypothesis filled
            (fun part member => named part (List.mem_append_left _ member)) above
            (fun front before => free front (before.trans start)) (by simp at enough; omega)
          refine ⟨middle, paved, makeDirectories_of_climbed ?_ ?_ ?_ ?_⟩
          · rw [shown]
            exact Path.toString_ne_empty properAbove
          · rw [tail]
            exact last
          · rw [shown, present]
            cases seen : tree.stat true (Rebuild.under root names).toString with
            | error error => rfl
            | ok found =>
                have plain : ∀ front, front <+: names → ∀ target,
                    tree.at? (top ++ front) ≠ some (.link target) := by
                  intro front before target linked
                  rcases free front (before.trans start) with none | some
                  · simp [none] at linked
                  · simp [some] at linked
                have held := reaches.at?_of_stat sound alive properAbove
                  (fun part member => named part (List.mem_append_left _ member)) plain seen
                rw [absent] at held
                cases held
          · rw [shown]
            exact done
        · refine ⟨tree, .refl held, makeDirectories_of_present ?_⟩
          rw [head]
          split
          · exact .inl rfl
          · refine .inr ?_
            rw [present, reaches.stat_under sound alive proper above held rfl]
            rfl
      have soundMiddle := paved.grown.sound sound
      have reachesMiddle : middle.Reaches (Rebuild.under root names) (top ++ names) :=
        (reaches.mono paved.grown.carries paved.grown.start).under soundMiddle paved.alive short
      have freeLast : middle.at? (top ++ names ++ [name]) = none ∨
          middle.at? (top ++ names ++ [name]) = some .directory := by
        rcases paved.grown.places (top ++ names ++ [name]) with same | ⟨_, held⟩
        · rw [same, List.append_assoc]
          exact free _ (List.prefix_refl _)
        · exact .inr held
      rw [← child_under] at askable made ⊢
      obtain ⟨after, done, further⟩ := reachesMiddle.makeLastDirectory_run soundMiddle paved.alive
        properAbove last askable freeLast
      exact ⟨after, made.trans done, paved.concat further⟩

theorem length_le_toString (named : ∀ name ∈ names, IsName name) :
    names.length ≤ (Rebuild.under root names).toString.length := by
  induction names using List.reverseRecOn with
  | nil => simp
  | append_singleton names name inductionHypothesis =>
      have shorter := inductionHypothesis fun part member => named part (List.mem_append_left _ member)
      have filled : name.length ≠ 0 := by
        rw [← String.length_toList]
        simpa using (named name (by simp)).1.ne_empty
      rw [← child_under, toString_child, String.length_append]
      by_cases bare : (Rebuild.under root names).parts = []
      · obtain rfl : names = [] := by simpa [Rebuild.under] using (List.append_eq_nil_iff.1 bare).2
        simp
        omega
      · rw [if_neg bare, String.length_append]
        simp
        omega

end Making

/-! ## Renaming -/

theorem lastSegment_child (proper : path.Proper) (segment : IsSegment name) :
    lastSegment (path.child name).toString = name := by
  obtain ⟨front, shown, _⟩ := Path.segments_toString (proper.child segment) (by simp [Path.child])
  rw [lastSegment, Path.withoutTrailing_toString (proper.child segment), shown]
  simp [Path.child]

section Renaming

variable {directory : Location} {first second : String}

theorem dotless_name (named : IsName name) : (isIdle name || name == "..") = false := by
  simpa [named.1.2] using named.2

theorem filled_child (proper : path.Proper) (named : IsName name) :
    ((path.child name).toString == "") = false := by
  simpa using Path.toString_ne_empty (proper.child named.1)

/-- Whatever has a name is renamed where nothing has the new name. -/
theorem Reaches.rename_run {entry : Entry} (reaches : tree.Reaches path directory)
    (alive : tree.at? directory = some .directory) (proper : path.Proper) (firstNamed : IsName first)
    (secondNamed : IsName second) (askableFirst : Askable (path.child first))
    (askableSecond : Askable (path.child second)) (held : tree.at? (directory ++ [first]) = some entry)
    (absent : tree.at? (directory ++ [second]) = none) :
    tree.rename (path.child first).toString (path.child second).toString =
      .ok (tree.move (directory ++ [first]) (directory ++ [second])) := by
  have apart : first ≠ second := by
    rintro rfl
    rw [held] at absent
    cases absent
  have origin := reaches.find_false proper firstNamed askableFirst.fits
  have aim := reaches.find_false proper secondNamed askableSecond.fits
  rw [held] at origin
  rw [absent, alive] at aim
  simp only [if_true] at origin aim
  unfold rename
  simp only [Path.withoutTrailing_toString (proper.child firstNamed.1),
    Path.withoutTrailing_toString (proper.child secondNamed.1), askableFirst.clean, askableSecond.clean,
    lastSegment_child proper firstNamed.1, lastSegment_child proper secondNamed.1, origin, aim,
    dotless_name firstNamed, dotless_name secondNamed, Path.not_endsWith_slash_child proper firstNamed.1,
    Path.not_endsWith_slash_child proper secondNamed.1, not_isBelow_sibling apart.symm [],
    filled_child proper firstNamed, filled_child proper secondNamed, Bool.or_self, Bool.and_false,
    Bool.false_eq_true, if_false]

/-- Nothing is renamed where nothing is. -/
theorem Reaches.rename_absent (reaches : tree.Reaches path directory)
    (alive : tree.at? directory = some .directory) (proper : path.Proper) (firstNamed : IsName first)
    (secondNamed : IsName second) (askableFirst : Askable (path.child first))
    (askableSecond : Askable (path.child second)) (gone : tree.at? (directory ++ [first]) = none)
    (absent : tree.at? (directory ++ [second]) = none) :
    tree.rename (path.child first).toString (path.child second).toString =
      .error (.system ⟨.notFound, some (path.child first).toString, some (path.child second).toString⟩) := by
  have origin := reaches.find_false proper firstNamed askableFirst.fits
  have aim := reaches.find_false proper secondNamed askableSecond.fits
  rw [gone, alive] at origin
  rw [absent, alive] at aim
  simp only [if_true] at origin aim
  unfold rename
  simp only [Path.withoutTrailing_toString (proper.child firstNamed.1),
    Path.withoutTrailing_toString (proper.child secondNamed.1), askableFirst.clean, askableSecond.clean,
    lastSegment_child proper firstNamed.1, lastSegment_child proper secondNamed.1, origin, aim,
    dotless_name firstNamed, dotless_name secondNamed, filled_child proper firstNamed,
    filled_child proper secondNamed, Bool.or_self, Bool.false_eq_true, if_false]

/-- Renaming a file to a new name takes nothing from any way. -/
theorem Renamed.carries {source target : Location} {file : File}
    (renamed : Renamed tree after source target (.file file)) (absent : tree.at? target = none) :
    Carries tree after := by
  intro place entry held leadsOn
  rw [renamed.places, if_neg, if_neg]
  · exact held
  · rintro rfl
    rw [renamed.held] at held
    obtain rfl := Option.some.inj held
    cases leadsOn
  · rintro rfl
    rw [absent] at held
    cases held

end Renaming

/-! ## Deleting -/

section Deleting

variable {directory : Location}

/-- What leads somewhere without a directory leads there whatever is taken from the directory. -/
theorem Eroded.reaches {spot : Location} (eroded : Eroded tree after spot)
    (apart : (tree.drop spot).Reaches path directory) : after.Reaches path directory := by
  have carries : Carries (tree.drop spot) after := by
    intro place entry kept _
    by_cases root : place = []
    · subst root
      exact kept
    rw [at?_drop] at kept
    split at kept
    · cases kept
    next outside => rw [eroded.at?_of_outside (by simpa [root] using outside), kept]
  exact apart.mono carries eroded.start

/-- Nothing leads through a file. -/
theorem Eroded.reaches_of_file {spot : Location} {file : File} (eroded : Eroded tree after spot)
    (sound : tree.Sound) (held : tree.at? spot = some (.file file)) (reaches : tree.Reaches path directory) :
    after.Reaches path directory := by
  refine reaches.mono (fun {place entry} found leadsOn => ?_) eroded.start
  rcases eroded.places place with same | ⟨below, _⟩
  · exact same.trans found
  · by_cases here : place = spot
    · rw [here, held] at found
      obtain rfl := Option.some.inj found
      cases leadsOn
    · rw [sound.at?_above found below here] at held
      cases held

/-- A directory is deleted with all that is in it, if the way to it does not lead through it. -/
theorem Reaches.removeDirectory_run (reaches : tree.Reaches path directory) (sound : tree.Sound)
    (apart : (tree.drop (directory ++ [name])).Reaches path directory) (proper : path.Proper)
    (named : IsName name) (askable : Askable (path.child name))
    (held : tree.at? (directory ++ [name]) = some .directory) :
    ∃ after, tree.removeDirectory (path.child name).toString = (after, none) ∧
      after.at? (directory ++ [name]) = none := by
  have self : (tree.emptied (directory ++ [name])).at? (directory ++ [name]) = some .directory := by
    rw [at?_emptied sound, if_neg (fun both => both.2 rfl), held]
  have seen := reaches.stat_child false proper named askable held rfl
  have again := ((eroded_emptied tree _).reaches apart).stat_child false proper named askable self rfl
  have plain : isIdle name = false := named.1.2
  have inside : (name == "..") = false := by simpa using named.2
  refine ⟨(tree.emptied (directory ++ [name])).drop (directory ++ [name]), ?_, ?_⟩
  · rw [removeDirectory, seen]
    simp only [again, lastSegment_child proper named.1, plain, inside, List.append_eq_nil_iff,
      List.cons_ne_nil, and_false, Bool.false_eq_true, if_false]
  · rw [at?_drop, if_pos ⟨by simp, isBelow_refl _⟩]

theorem unlink_of_stat {raw : String} {place : Location} {file : File}
    (found : tree.stat false raw = .ok (place, .file file)) : tree.unlink raw = .ok (tree.drop place) := by
  rw [unlink, found]

end Deleting

end FileTree

/-! ## Work on files -/

namespace FileWork

open FileTree

variable {tree : FileTree} {root path : Path} {top : Location} {names : List String}

theorem change_of_ok {action : FileAction} {operation : FileTree → Except FileError FileTree}
    {after : FileTree} (done : operation tree = .ok after) :
    change action operation tree = (.ok (), after) := by
  rw [change, get_bind, done]
  rfl

theorem touch_of_ok {raw : String} {after : FileTree}
    (done : tree.setModified raw tree.clock = .ok after) : touch raw none tree = (.ok true, after) := by
  rw [touch, get_bind, Option.getD_none, done]
  rfl

theorem createDirectory_run (reaches : tree.Reaches root top) (sound : tree.Sound)
    (alive : tree.at? top = some .directory) (proper : root.Proper) (nonempty : names ≠ [])
    (named : ∀ name ∈ names, IsName name) (askable : Askable (Rebuild.under root names))
    (free : ∀ front, front <+: names →
      tree.at? (top ++ front) = none ∨ tree.at? (top ++ front) = some .directory) :
    ∃ after, createDirectory (Rebuild.under root names).toString tree = (.ok (), after) ∧
      Paved tree after top names := by
  have enough := @length_le_toString root _ named
  obtain ⟨after, made, paved⟩ := reaches.makeDirectories_run sound alive proper nonempty named askable free
    (Nat.le_succ_of_le enough)
  refine ⟨after, ?_, paved⟩
  rw [createDirectory, reach, get_bind, askable.clean]
  simp only [Bool.false_eq_true, if_false, made]
  rfl

section Renaming

variable {directory : Location} {first second : String}

theorem renameFile_of_absent (reaches : tree.Reaches path directory) (proper : path.Proper)
    (named : IsName second) (askable : Askable (path.child second))
    (absent : tree.at? (directory ++ [second]) = none) (source : String) :
    renameFile source (path.child second).toString tree =
      change (.rename source (path.child second).toString)
        (fun tree => tree.rename source (path.child second).toString) tree := by
  have unseen := reaches.exists_absent proper named askable.fits absent
  have asked : ask (·.exists? (path.child second)) tree = (.ok false, tree) := by
    rw [ask, get_bind, unseen]
    rfl
  rw [renameFile, Path.ofString_toString (proper.child named.1), run_bind, asked]
  rfl

/-- Whatever has a name is renamed to a name that nothing has. -/
theorem renameFile_run {entry : Entry} (reaches : tree.Reaches path directory) (sound : tree.Sound)
    (alive : tree.at? directory = some .directory) (proper : path.Proper) (firstNamed : IsName first)
    (secondNamed : IsName second) (askableFirst : Askable (path.child first))
    (askableSecond : Askable (path.child second)) (held : tree.at? (directory ++ [first]) = some entry)
    (absent : tree.at? (directory ++ [second]) = none) :
    ∃ after, renameFile (path.child first).toString (path.child second).toString tree = (.ok (), after) ∧
      Moved tree after (directory ++ [first]) (directory ++ [second]) := by
  have apart : first ≠ second := by
    rintro rfl
    rw [held] at absent
    cases absent
  have done := reaches.rename_run alive proper firstNamed secondNamed askableFirst askableSecond held absent
  refine ⟨_, ?_, sound.moved alive secondNamed apart absent⟩
  rw [renameFile_of_absent reaches proper secondNamed askableSecond absent]
  exact change_of_ok done

/-- Where nothing is, the renaming is refused. -/
theorem renameFile_refused (reaches : tree.Reaches path directory)
    (alive : tree.at? directory = some .directory) (proper : path.Proper) (firstNamed : IsName first)
    (secondNamed : IsName second) (askableFirst : Askable (path.child first))
    (askableSecond : Askable (path.child second)) (gone : tree.at? (directory ++ [first]) = none)
    (absent : tree.at? (directory ++ [second]) = none) :
    ∃ failure, renameFile (path.child first).toString (path.child second).toString tree =
      (.error (.fileOperation failure), tree) := by
  have refused := reaches.rename_absent alive proper firstNamed secondNamed askableFirst askableSecond gone
    absent
  refine ⟨⟨.rename (path.child first).toString (path.child second).toString, some ⟨.notFound,
    some (path.child first).toString, some (path.child second).toString⟩⟩, ?_⟩
  rw [renameFile_of_absent reaches proper secondNamed askableSecond absent, change, get_bind, refused]
  rfl

end Renaming

/-- What is at the end of a path, and no link, is deleted, if the way to it does not lead through it. -/
theorem deleteTree_run {directory : Location} {name : String} {entry : Entry}
    (reaches : tree.Reaches path directory) (sound : tree.Sound)
    (apart : entry = .directory → (tree.drop (directory ++ [name])).Reaches path directory)
    (proper : path.Proper) (named : IsName name) (askable : Askable (path.child name))
    (held : tree.at? (directory ++ [name]) = some entry) (plain : Entry.isLink entry = false) :
    ∃ after, deleteTree (path.child name).toString tree = (.ok (), after) ∧
      after.at? (directory ++ [name]) = none := by
  have seen := reaches.stat_child true proper named askable held plain
  have seenLink := reaches.stat_child false proper named askable held plain
  have present : ask (·.exists? (path.child name)) tree = (.ok true, tree) := by
    rw [ask, get_bind, exists_of_stat seen]
    rfl
  have kind : ∀ isDirectory, Entry.isDirectory entry = isDirectory →
      answer (.delete (path.child name).toString) (tree.isDirectory? (path.child name)) tree =
        (.ok isDirectory, tree) := by
    rintro _ rfl
    rw [isDirectory?, test_of_stat seen]
    rfl
  have link : answer (.delete (path.child name).toString) (tree.isLink? (path.child name)) tree =
      (.ok false, tree) := by
    rw [isLink_of_stat seenLink, plain]
    rfl
  unfold deleteTree
  simp only [Path.ofString_toString (proper.child named.1)]
  rw [run_bind, present]
  simp only [if_true, pure_bind, Bool.or_false]
  rw [get_bind, run_bind]
  cases entry with
  | link target => cases plain
  | file file =>
      refine ⟨tree.drop (directory ++ [name]), ?_, ?_⟩
      · rw [kind false rfl]
        exact change_of_ok (unlink_of_stat seenLink)
      · rw [at?_drop, if_pos ⟨by simp, isBelow_refl _⟩]
  | directory =>
      obtain ⟨after, removed, gone⟩ :=
        reaches.removeDirectory_run sound (apart rfl) proper named askable held
      refine ⟨after, ?_, gone⟩
      rw [kind true rfl]
      simp only [if_true]
      rw [get_bind, run_bind, link]
      simp only [Bool.not_false, Bool.and_self, if_true]
      rw [reach, get_bind, removed]
      rfl

end FileWork

end Files
end ClassLoom
