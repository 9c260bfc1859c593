import ClassLoom.Files.Operations
import ClassLoom.Names
import Mathlib

namespace ClassLoom
namespace Files

/-!
# How paths are spelled

The file system is asked by texts, while the tool computes with paths.  A path that was read from a
text, or that was made of such a path and further segments, is spelled in a way that the file system
reads back segment by segment.  This is what carries every statement about paths over to the texts
that are looked up.
-/

/-- What can stand between two slashes of a path and names something. -/
def IsSegment (text : String) : Prop := '/' ∉ text.toList ∧ isIdle text = false

/-- What can be the name of something in a directory. -/
def IsName (text : String) : Prop := IsSegment text ∧ text ≠ ".."

instance (text : String) : Decidable (IsSegment text) :=
  inferInstanceAs (Decidable ('/' ∉ text.toList ∧ isIdle text = false))

instance (text : String) : Decidable (IsName text) :=
  inferInstanceAs (Decidable (IsSegment text ∧ text ≠ ".."))

theorem IsSegment.ne_empty {text : String} (segment : IsSegment text) : text ≠ "" := by
  rintro rfl
  exact absurd segment.2 (by decide)

theorem IsSegment.toList_ne_nil {text : String} (segment : IsSegment text) : text.toList ≠ [] :=
  fun empty => segment.ne_empty (String.toList_eq_nil_iff.1 empty)

theorem isIdle_eq_true {text : String} : isIdle text = true ↔ text = "" ∨ text = "." := by
  simp [isIdle]

/-- A text that is longer than a single character and is no segment of dots is a name. -/
theorem IsName.of_two_lt_length {text : String} (slashless : '/' ∉ text.toList)
    (long : 2 < text.length) : IsName text := by
  refine ⟨⟨slashless, ?_⟩, ?_⟩
  · cases idle : isIdle text with
    | false => rfl
    | true =>
        rcases isIdle_eq_true.1 idle with rfl | rfl
        · exact absurd long (by decide)
        · exact absurd long (by decide)
  · rintro rfl
    exact absurd long (by decide)

/-! ## Pieces between separators -/

theorem splitAt_ne_nil (separator : Char) (text : List Char) : splitAt separator text ≠ [] := by
  cases text with
  | nil => simp [splitAt]
  | cons c rest =>
      unfold splitAt
      split
      · simp
      · split <;> simp

theorem splitAt_of_notMem {separator : Char} {text : List Char} (absent : separator ∉ text) :
    splitAt separator text = [text] := by
  induction text with
  | nil => rfl
  | cons c rest inductionHypothesis =>
      have differs : (c == separator) = false := by
        simpa using fun same : c = separator => absent (same ▸ List.mem_cons_self)
      have restLacks : separator ∉ rest := fun held => absent (List.mem_cons_of_mem c held)
      simp [splitAt, differs, inductionHypothesis restLacks]

theorem splitAt_append_cons {separator : Char} {piece : List Char} (absent : separator ∉ piece)
    (rest : List Char) :
    splitAt separator (piece ++ separator :: rest) = piece :: splitAt separator rest := by
  induction piece with
  | nil => simp [splitAt]
  | cons c tail inductionHypothesis =>
      have differs : (c == separator) = false := by
        simpa using fun same : c = separator => absent (same ▸ List.mem_cons_self)
      have tailLacks : separator ∉ tail := fun held => absent (List.mem_cons_of_mem c held)
      simp [splitAt, differs, inductionHypothesis tailLacks]

theorem splitAt_cons_self (separator : Char) (rest : List Char) :
    splitAt separator (separator :: rest) = [] :: splitAt separator rest :=
  splitAt_append_cons List.not_mem_nil rest

/-- What is split at a separator that it holds is split on both sides of it. -/
theorem splitAt_append_separator (separator : Char) (first rest : List Char) :
    splitAt separator (first ++ separator :: rest) = splitAt separator first ++ splitAt separator rest := by
  induction first with
  | nil => exact splitAt_cons_self separator rest
  | cons c first inductionHypothesis =>
      obtain ⟨piece, others, pieces⟩ := List.exists_cons_of_ne_nil (splitAt_ne_nil separator first)
      rw [List.cons_append, splitAt, splitAt, inductionHypothesis, pieces]
      by_cases here : (c == separator) = true
      · rw [if_pos here, if_pos here]
        rfl
      · rw [if_neg here, if_neg here]
        rfl

theorem notMem_of_mem_splitAt {separator : Char} {text piece : List Char}
    (member : piece ∈ splitAt separator text) : separator ∉ piece := by
  induction text generalizing piece with
  | nil =>
      have empty : piece = [] := by simpa [splitAt] using member
      simp [empty]
  | cons c rest inductionHypothesis =>
      unfold splitAt at member
      split at member
      · rcases List.mem_cons.1 member with rfl | later
        · simp
        · exact inductionHypothesis later
      next differs =>
        have different : separator ≠ c := fun same => differs (by simp [same])
        split at member
        next none => exact absurd none (splitAt_ne_nil separator rest)
        next first others pieces =>
          have firstLacks : separator ∉ first :=
            inductionHypothesis (pieces ▸ List.mem_cons_self)
          rcases List.mem_cons.1 member with rfl | later
          · simp [different, firstLacks]
          · exact inductionHypothesis (pieces ▸ List.mem_cons_of_mem first later)

/-- Joining pieces by a separator that none of them holds, and splitting again. -/
theorem splitAt_intercalate {separator : Char} {pieces : List (List Char)} (nonempty : pieces ≠ [])
    (lack : ∀ piece ∈ pieces, separator ∉ piece) :
    splitAt separator ([separator].intercalate pieces) = pieces := by
  induction pieces with
  | nil => exact absurd rfl nonempty
  | cons first others inductionHypothesis =>
      have firstLacks := lack first List.mem_cons_self
      cases others with
      | nil => simpa using splitAt_of_notMem firstLacks
      | cons second rest =>
          have joined := inductionHypothesis (List.cons_ne_nil _ _)
            fun piece member => lack piece (List.mem_cons_of_mem first member)
          rw [List.intercalate_cons_cons, List.append_assoc, List.singleton_append,
            splitAt_append_cons firstLacks, joined]

/-- Splitting, and joining the pieces again. -/
theorem intercalate_splitAt (separator : Char) (text : List Char) :
    [separator].intercalate (splitAt separator text) = text := by
  induction text with
  | nil => rfl
  | cons c rest inductionHypothesis =>
      unfold splitAt
      obtain ⟨first, others, pieces⟩ := List.exists_cons_of_ne_nil (splitAt_ne_nil separator rest)
      rw [pieces] at inductionHypothesis ⊢
      split
      next same =>
        rw [List.intercalate_cons_cons, inductionHypothesis, beq_iff_eq.mp same]
        rfl
      next =>
        cases others with
        | nil =>
            rw [List.intercalate_singleton] at inductionHypothesis ⊢
            rw [inductionHypothesis]
        | cons second others =>
            rw [List.intercalate_cons_cons] at inductionHypothesis ⊢
            rw [List.cons_append, List.cons_append, inductionHypothesis]

/-- A piece of a text with an ending that is not split: it is from the front, or has the ending. -/
theorem mem_splitAt_append {separator : Char} {front ending piece : List Char}
    (absent : separator ∉ ending) (member : piece ∈ splitAt separator (front ++ ending)) :
    piece ⊆ front ∨ ending <:+ piece := by
  induction front generalizing piece with
  | nil =>
      rw [List.nil_append, splitAt_of_notMem absent, List.mem_singleton] at member
      exact .inr (member ▸ List.suffix_refl ending)
  | cons c rest inductionHypothesis =>
      have later : ∀ {piece}, piece ∈ splitAt separator (rest ++ ending) →
          piece ⊆ c :: rest ∨ ending <:+ piece := by
        intro piece among
        apply (inductionHypothesis among).imp_left
        intro inside
        exact List.subset_cons_of_subset c inside
      rw [List.cons_append] at member
      unfold splitAt at member
      split at member
      · rcases List.mem_cons.mp member with rfl | among
        · exact .inl (List.nil_subset _)
        · exact later among
      · split at member
        next none => exact absurd none (splitAt_ne_nil separator _)
        next first others pieces =>
          rcases List.mem_cons.mp member with rfl | among
          · rcases inductionHypothesis (pieces ▸ List.mem_cons_self) with inside | ended
            · exact .inl (List.cons_subset_cons c inside)
            · exact .inr (ended.trans (List.suffix_cons c first))
          · exact later (pieces ▸ List.mem_cons_of_mem first among)

/-- A text ends in its last piece, so an ending that is not split is at the end of that. -/
theorem splitAt_append_of_notMem {separator : Char} {ending : List Char} (absent : separator ∉ ending)
    (front : List Char) :
    ∃ pieces last, splitAt separator (front ++ ending) = pieces ++ [last] ∧ ending <:+ last := by
  induction front with
  | nil => exact ⟨[], ending, splitAt_of_notMem absent, List.suffix_refl ending⟩
  | cons c rest inductionHypothesis =>
      obtain ⟨pieces, last, split, ended⟩ := inductionHypothesis
      rw [List.cons_append, splitAt, split]
      by_cases here : (c == separator) = true
      · rw [if_pos here]
        exact ⟨[] :: pieces, last, rfl, ended⟩
      · rw [if_neg here]
        cases pieces with
        | nil => exact ⟨[], c :: last, rfl, ended.trans (List.suffix_cons c last)⟩
        | cons first others => exact ⟨(c :: first) :: others, last, rfl, ended⟩

theorem slashless_of_mem_segments {text segment : String} (member : segment ∈ segments text) :
    '/' ∉ segment.toList := by
  obtain ⟨piece, listed, rfl⟩ := List.mem_map.1 member
  simpa using notMem_of_mem_splitAt listed

theorem segments_intercalate {parts : List String} (nonempty : parts ≠ [])
    (lack : ∀ part ∈ parts, '/' ∉ part.toList) : segments ("/".intercalate parts) = parts := by
  have slash : ("/" : String).toList = ['/'] := by decide
  have lackLists : ∀ piece ∈ parts.map String.toList, '/' ∉ piece := by
    intro piece member
    obtain ⟨part, listed, rfl⟩ := List.mem_map.1 member
    exact lack part listed
  unfold segments
  rw [String.toList_intercalate, slash,
    splitAt_intercalate (by simpa using nonempty) lackLists, List.map_map]
  have same : String.ofList ∘ String.toList = id := by
    funext text
    simp
  rw [same, List.map_id]

theorem intercalate_segments (text : String) : "/".intercalate (segments text) = text := by
  have slash : ("/" : String).toList = ['/'] := by decide
  have same : String.toList ∘ String.ofList = id := by
    funext piece
    simp
  apply String.toList_injective
  rw [String.toList_intercalate, slash, segments, List.map_map, same, List.map_id, intercalate_splitAt]

theorem intercalate_concat {front : List String} (nonempty : front ≠ []) (name : String) :
    "/".intercalate (front ++ [name]) = "/".intercalate front ++ "/" ++ name := by
  have joined : "/".intercalate (front ++ [name]) =
      "/".intercalate front ++ "/" ++ "/".intercalate [name] :=
    String.intercalate_append_of_ne_nil nonempty (List.cons_ne_nil _ _)
  rw [joined, String.intercalate_singleton]

theorem isSegment_of_mem_filter {text segment : String}
    (member : segment ∈ (segments text).filter fun s => !isIdle s) : IsSegment segment := by
  obtain ⟨listed, named⟩ := List.mem_filter.1 member
  exact ⟨slashless_of_mem_segments listed, by simpa using named⟩

/-- Joined segments start with a character of the first of them. -/
theorem intercalate_eq_cons {parts : List String} (nonempty : parts ≠ [])
    (named : ∀ part ∈ parts, IsSegment part) :
    ∃ c rest, ("/".intercalate parts).toList = c :: rest ∧ c ≠ '/' := by
  obtain ⟨part, others, shape⟩ := List.exists_cons_of_ne_nil nonempty
  have segment := named part (shape ▸ List.mem_cons_self)
  obtain ⟨c, tail, head⟩ := List.exists_cons_of_ne_nil segment.toList_ne_nil
  have other : c ≠ '/' := fun slash => segment.1 (by
    rw [head, slash]
    exact List.mem_cons_self)
  rw [shape]
  cases others with
  | nil => exact ⟨c, tail, by simpa using head, other⟩
  | cons second rest =>
      refine ⟨c, tail ++ ("/" ++ "/".intercalate (second :: rest)).toList, ?_, other⟩
      rw [String.intercalate_cons_cons, String.append_assoc, String.toList_append, head,
        List.cons_append]

/-! ## Proper paths -/

namespace Path

/-- A path as it comes from reading a text: one of the three beginnings, and segments. -/
structure Proper (path : Path) : Prop where
  root : path.root = "" ∨ path.root = "/" ∨ path.root = "//"
  parts : ∀ part ∈ path.parts, IsSegment part

theorem Proper.child {path : Path} (proper : path.Proper) {segment : String}
    (named : IsSegment segment) : (path.child segment).Proper := by
  refine ⟨proper.root, fun part member => ?_⟩
  rcases List.mem_append.1 member with above | last
  · exact proper.parts part above
  · exact List.mem_singleton.1 last ▸ named

theorem Proper.parent {path : Path} (proper : path.Proper) : path.parent.Proper :=
  ⟨proper.root, fun part member => proper.parts part (List.dropLast_subset _ member)⟩

theorem Proper.descend {path : Path} (proper : path.Proper) {below : List String}
    (named : ∀ part ∈ below, IsSegment part) : (path.descend below).Proper := by
  refine ⟨proper.root, fun part member => ?_⟩
  rcases List.mem_append.1 member with above | later
  · exact proper.parts part above
  · exact named part (List.mem_of_mem_filter later)

theorem ofString_proper (text : String) : (ofString text).Proper := by
  refine ⟨?_, fun part member => isSegment_of_mem_filter member⟩
  unfold ofString
  simp only
  split
  · exact .inl rfl
  · split
    · exact .inr (.inr rfl)
    · exact .inr (.inl rfl)

theorem toString_of_parts {path : Path} (nonempty : path.parts ≠ []) :
    path.toString = path.root ++ "/".intercalate path.parts := by
  have shown : path.parts.isEmpty = false := by simpa using nonempty
  simp [toString, shown]

theorem toString_of_bare {path : Path} (bare : path.parts = []) :
    path.toString = if path.root = "" then "." else path.root := by
  simp [toString, bare]

theorem name_eq_getLast {path : Path} (nonempty : path.parts ≠ []) :
    path.name = path.parts.getLast nonempty := by
  simp [name, List.getLast?_eq_some_getLast nonempty]

theorem Proper.name {path : Path} (proper : path.Proper) (nonempty : path.parts ≠ []) :
    IsSegment path.name :=
  name_eq_getLast nonempty ▸ proper.parts _ (List.getLast_mem nonempty)

theorem parent_child_name {path : Path} (nonempty : path.parts ≠ []) :
    path.parent.child path.name = path := by
  cases path with
  | mk root parts =>
      have joined : parts.dropLast ++ [parts.getLast nonempty] = parts := List.dropLast_append_getLast nonempty
      simp only [parent, child, name_eq_getLast nonempty, joined]

/-- Paths in one directory are spelled alike up to their last segments, and these stand at the beginning
or behind a slash. -/
theorem exists_toString_child (path : Path) :
    ∃ before : String, (∀ segment, (path.child segment).toString = before ++ segment) ∧
      (path.Proper → before = "" ∨ ∃ further, before.toList = further ++ ['/']) := by
  by_cases above : path.parts = []
  · refine ⟨path.root, fun segment => ?_, fun proper => ?_⟩
    · rw [toString_of_parts (by simp [child])]
      simp [child, above]
    · rcases proper.root with root | root | root
      · exact .inl root
      · exact .inr ⟨[], by rw [root]; rfl⟩
      · exact .inr ⟨['/'], by rw [root]; rfl⟩
  · refine ⟨path.root ++ "/".intercalate path.parts ++ "/", fun segment => ?_, fun _ => ?_⟩
    · rw [toString_of_parts (by simp [child])]
      simp only [child, intercalate_concat above, String.append_assoc]
    · exact .inr ⟨(path.root ++ "/".intercalate path.parts).toList, String.toList_append⟩

theorem toString_child_injective (path : Path) :
    Function.Injective fun segment => (path.child segment).toString := by
  obtain ⟨before, spelled, _⟩ := exists_toString_child path
  intro first second same
  simp only [spelled] at same
  apply String.toList_injective
  have letters := congrArg String.toList same
  rw [String.toList_append, String.toList_append] at letters
  exact List.append_cancel_left letters

/-- The last segment stands at the end of the spelling, at its beginning or behind a slash. -/
theorem exists_toList_child {path : Path} (proper : path.Proper) (segment : String) :
    ∃ before : List Char, (path.child segment).toString.toList = before ++ segment.toList ∧
      (before = [] ∨ ∃ further, before = further ++ ['/']) := by
  obtain ⟨before, spelled, boundary⟩ := exists_toString_child path
  refine ⟨before.toList, by rw [spelled, String.toList_append], ?_⟩
  rcases boundary proper with rfl | ends
  · exact .inl rfl
  · exact .inr ends

theorem endsWith_slash_iff {text : String} : text.endsWith "/" = true ↔ ['/'] <:+ text.toList := by
  have slash : ("/" : String).toList = ['/'] := by decide
  simp [← String.endsWith_toSlice, slash]

theorem not_endsWith_slash_child {path : Path} (proper : path.Proper) {segment : String}
    (named : IsSegment segment) : (path.child segment).toString.endsWith "/" = false := by
  obtain ⟨before, spelled, _⟩ := exists_toList_child proper segment
  rw [Bool.eq_false_iff, ne_eq, endsWith_slash_iff, spelled]
  rintro ⟨front, whole⟩
  have last : segment.toList.getLast named.toList_ne_nil = '/' := by
    have right : (before ++ segment.toList).getLast (by simp [named.toList_ne_nil]) = '/' := by
      simp [← whole]
    rwa [List.getLast_append_of_ne_nil _ named.toList_ne_nil] at right
  exact named.1 (last ▸ List.getLast_mem named.toList_ne_nil)

/-- Between slashes, a spelling holds the segments of the path behind empty ones. -/
theorem segments_toString {path : Path} (proper : path.Proper) (nonempty : path.parts ≠ []) :
    ∃ front : List String, segments path.toString = front ++ path.parts ∧
      ∀ piece ∈ front, piece = "" := by
  have joined : segments ("/".intercalate path.parts) = path.parts :=
    segments_intercalate nonempty fun part member => (proper.parts part member).1
  rw [toString_of_parts nonempty]
  unfold segments at joined ⊢
  rw [String.toList_append]
  rcases proper.root with root | root | root
  · exact ⟨[], by simpa [root] using joined, by simp⟩
  · have one : ("/" : String).toList = ['/'] := by decide
    refine ⟨[""], ?_, by simp⟩
    rw [root, one, List.singleton_append, splitAt_cons_self, List.map_cons, joined]
    rfl
  · have two : ("//" : String).toList = ['/', '/'] := by decide
    refine ⟨["", ""], ?_, by simp⟩
    rw [root, two, List.cons_append, List.singleton_append, splitAt_cons_self,
      splitAt_cons_self, List.map_cons, List.map_cons, joined]
    rfl

/-- The segments that the file system reads are those of the path. -/
theorem rawSegments_child {path : Path} (proper : path.Proper) {segment : String}
    (named : IsSegment segment) :
    FileTree.rawSegments (path.child segment).toString = path.parts ++ [segment] := by
  have whole := proper.child named
  obtain ⟨front, read, blank⟩ := segments_toString whole (by simp [child])
  have noSlash := not_endsWith_slash_child proper named
  have frontGone : front.filter (· ≠ "") = [] :=
    List.filter_eq_nil_iff.2 fun piece member => by simp [blank piece member]
  have partsKept : (path.child segment).parts.filter (· ≠ "") = (path.child segment).parts :=
    List.filter_eq_self.2 fun part member => by simpa using (whole.parts part member).ne_empty
  unfold FileTree.rawSegments
  simp only [noSlash, Bool.false_and, Bool.false_eq_true, if_false]
  rw [read, List.filter_append, frontGone, partsKept]
  rfl

theorem toString_ne_empty {path : Path} (proper : path.Proper) : path.toString ≠ "" := by
  by_cases bare : path.parts = []
  · rcases proper.root with root | root | root <;> simp [toString, root, bare]
  · intro empty
    obtain ⟨before, spelled, _⟩ := exists_toList_child proper.parent path.name
    rw [parent_child_name bare, empty] at spelled
    simp [(proper.name bare).ne_empty] at spelled

theorem withoutTrailing_toString {path : Path} (proper : path.Proper) :
    FileTree.withoutTrailing path.toString = path.toString := by
  by_cases bare : path.parts = []
  · have spelled := toString_of_bare bare
    rcases proper.root with root | root | root <;> rw [spelled, root] <;> decide
  · obtain ⟨before, spelled, _⟩ := exists_toList_child proper.parent path.name
    have segment := proper.name bare
    rw [parent_child_name bare] at spelled
    have kept : (path.toString.toList.reverse.dropWhile (· == '/')) =
        path.toString.toList.reverse := by
      rw [spelled, List.reverse_append]
      cases reversed : path.name.toList.reverse with
      | nil => exact absurd (List.reverse_eq_nil_iff.1 reversed) segment.toList_ne_nil
      | cons c rest =>
          have other : c ≠ '/' := fun slash => segment.1 (by
            rw [← List.mem_reverse, reversed, slash]
            exact List.mem_cons_self)
          rw [List.cons_append, List.dropWhile_cons_of_neg (by simpa using other)]
    have visible : path.toString.toList ≠ [] :=
      fun empty => toString_ne_empty proper (String.toList_eq_nil_iff.1 empty)
    unfold FileTree.withoutTrailing
    simp only [kept, List.reverse_reverse]
    rw [if_neg (by simpa using visible), String.ofList_toList]

theorem splitLast_child {path : Path} (proper : path.Proper) {segment : String}
    (named : IsSegment segment) :
    (FileTree.splitLast (path.child segment).toString).2 = segment := by
  obtain ⟨before, spelled, boundary⟩ := exists_toList_child proper segment
  have taken : (before ++ segment.toList).reverse.takeWhile (· != '/') =
      segment.toList.reverse := by
    have inside : ∀ c ∈ segment.toList.reverse, (c != '/') = true := by
      intro c member
      have other : c ≠ '/' := fun slash => named.1 (slash ▸ List.mem_reverse.1 member)
      simpa using other
    rw [List.reverse_append, List.takeWhile_append_of_pos inside]
    rcases boundary with rfl | ⟨further, rfl⟩
    · simp
    · simp
  unfold FileTree.splitLast
  simp only [spelled, taken, List.reverse_reverse, String.ofList_toList]

theorem startsWith_slash_iff {text : String} :
    text.startsWith "/" = true ↔ ['/'] <+: text.toList := by
  have slash : ("/" : String).toList = ['/'] := by decide
  rw [String.startsWith_string_iff, slash]

/-- The first character of a spelling tells whether the path starts at the top. -/
theorem startsWith_toString {path : Path} (proper : path.Proper) :
    path.toString.startsWith "/" = true ↔ path.root ≠ "" := by
  rw [startsWith_slash_iff]
  by_cases bare : path.parts = []
  · have spelled := toString_of_bare bare
    rcases proper.root with root | root | root <;> rw [spelled, root] <;> decide
  · rw [toString_of_parts bare, String.toList_append]
    rcases proper.root with root | root | root
    · obtain ⟨c, rest, head, other⟩ := intercalate_eq_cons bare proper.parts
      simp [root, head, Ne.symm other]
    · have one : ("/" : String).toList = ['/'] := by decide
      simp [root, one]
    · have two : ("//" : String).toList = ['/', '/'] := by decide
      simp [root, two]

/-- Reading the spelling of a path gives the path back. -/
theorem ofString_toString {path : Path} (proper : path.Proper) : ofString path.toString = path := by
  by_cases bare : path.parts = []
  · have spelled := toString_of_bare bare
    cases path with
    | mk root parts =>
        simp only at bare
        subst bare
        rcases proper.root with given | given | given <;> simp only at given <;> subst given <;>
          rw [spelled] <;> decide
  · obtain ⟨front, read, blank⟩ := segments_toString proper bare
    have frontGone : front.filter (fun s => !isIdle s) = [] :=
      List.filter_eq_nil_iff.2 fun piece member => by simp [blank piece member, isIdle]
    have partsKept : path.parts.filter (fun s => !isIdle s) = path.parts :=
      List.filter_eq_self.2 fun part member => by simp [(proper.parts part member).2]
    obtain ⟨c, rest, head, other⟩ := intercalate_eq_cons bare proper.parts
    have rootRead : (if (path.toString.toList.takeWhile (· == '/')).length = 0 then ""
        else if (path.toString.toList.takeWhile (· == '/')).length = 2 then "//" else "/") =
        path.root := by
      rw [toString_of_parts bare, String.toList_append, head]
      have one : ("/" : String).toList = ['/'] := by decide
      have two : ("//" : String).toList = ['/', '/'] := by decide
      rcases proper.root with root | root | root <;> simp [root, one, two, other]
    unfold ofString
    simp only [rootRead, read, List.filter_append, frontGone, partsKept, List.nil_append]

/-- Every segment of a path takes two octets, for itself and for a slash. -/
theorem two_mul_length_le {path : Path} (proper : path.Proper) :
    2 * path.parts.length ≤ path.toString.utf8ByteSize + 1 := by
  have joined : ∀ parts : List String, (∀ part ∈ parts, IsSegment part) →
      2 * parts.length ≤ ("/".intercalate parts).utf8ByteSize + 1 := by
    intro parts named
    induction parts with
    | nil => simp
    | cons part rest inductionHypothesis =>
        have some : part.utf8ByteSize ≠ 0 := fun zero =>
          (named part List.mem_cons_self).ne_empty (String.utf8ByteSize_eq_zero_iff.1 zero)
        have further := inductionHypothesis fun other member => named other (List.mem_cons_of_mem _ member)
        cases rest with
        | nil =>
            rw [String.intercalate_singleton, List.length_singleton]
            omega
        | cons next rest =>
            have slash : ("/" : String).utf8ByteSize = 1 := by decide
            rw [String.intercalate_cons_cons, String.utf8ByteSize_append, String.utf8ByteSize_append,
              List.length_cons, slash]
            omega
  by_cases bare : path.parts = []
  · simp [bare]
  · rw [toString_of_parts bare, String.utf8ByteSize_append]
    have size := joined path.parts proper.parts
    omega

end Path
end Files
end ClassLoom
