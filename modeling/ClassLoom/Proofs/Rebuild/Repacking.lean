import ClassLoom.Pattern.PathFilter
import ClassLoom.Proofs.Names
import ClassLoom.Proofs.Rebuild.Keys
import ClassLoom.Proofs.Work
import ClassLoom.Rebuild.Serializing
import Mathlib.Data.List.Basic
import Mathlib.Data.List.Forall2
import Mathlib.Data.List.Sort
import Mathlib.Order.Lattice

namespace ClassLoom

/-!
# Archives in which nothing is changed

What a run writes whose transformer changes no class is a function of the octets of the archive: the
manifest comes first, the other entries follow in the order of their paths, and an accepted class has
the content of the entry in which its class is looked for.

An archive that was written in this way is already in that order, has attributes throughout, and holds
under the name of every accepted class what is looked for there.  So it is written again as it is, if
what is written can be read back.
-/

open Files (Path)

/-! ## Reading back -/

theorem Bytes.ofText_injective {text other : String} (same : Bytes.ofText text = Bytes.ofText other) :
    text = other := by
  have encoded : text.toList.utf8Encode = other.toList.utf8Encode := by
    rw [List.utf8Encode, List.utf8Encode]
    exact congrArg List.toByteArray same
  rw [← String.toByteArray_inj]
  simpa using encoded

namespace Zip

deriving instance DecidableEq for Record

/-- The method that an entry of a name is written with. -/
def methodOf (name : String) : Nat := if isDirectoryName name then methodStored else methodDeflated

/-- What can be read of an entry, as a record. -/
def Member.rewritten (bytes : Bytes) (member : Member) : Option Record :=
  (member.read bytes).toOption.map
    (.ofContent member.name member.stamp (methodOf member.name) member.attributes)

/-- What can be read of an archive file, as records: names, dates, attributes and contents. -/
def rewritten (bytes : Bytes) : Option (List Record) := do
  let archive ← (Archive.ofBytes bytes).toOption
  archive.members.mapM (Member.rewritten bytes)

/-- Records that are equal spell the same content, however it is called. -/
theorem Record.content_congr {name other : String} {stamp stampOther : Timestamp} {method : Nat}
    {attributes attributesOther : Attributes} {content contentOther : Bytes}
    (same : Record.ofContent name stamp method attributes content =
      .ofContent other stampOther method attributesOther contentOther)
    (called : String) (dated : Timestamp) (given : Attributes) :
    Record.ofContent called dated method given content =
      .ofContent called dated method given contentOther := by
  injection same with _ _ _ _ _ crc size packed
  simp only [Record.ofContent, crc, size, packed]

theorem Record.ofContent_inj {name other : String} {stamp stampOther : Timestamp}
    {method methodOther : Nat} {attributes attributesOther : Attributes} {content contentOther : Bytes}
    (same : Record.ofContent name stamp method attributes content =
      .ofContent other stampOther methodOther attributesOther contentOther) :
    name = other ∧ stamp = stampOther ∧ method = methodOther ∧ attributes = attributesOther := by
  injection same with names _ _ method stamp _ _ _ attributes
  exact ⟨Bytes.ofText_injective names, stamp, method, attributes⟩

end Zip

/-- All items come to something, one after another. -/
theorem mapM_eq_some_iff {α β : Type} {f : α → Option β} {items : List α} {results : List β} :
    items.mapM f = some results ↔ List.Forall₂ (fun item result => f item = some result) items results := by
  induction items generalizing results with
  | nil => simp [eq_comm]
  | cons item rest inductionHypothesis =>
      rw [List.mapM_cons]
      cases first : f item with
      | none => cases results <;> simp [first]
      | some result =>
          cases others : rest.mapM f with
          | none => cases results <;> simp [first, ← inductionHypothesis, others]
          | some found => cases results <;> simp [first, ← inductionHypothesis, others]

/-! ## The resource of a class -/

theorem getLast?_classSuffix : classSuffix.getLast? = some 's' := by decide

theorem isClassName_resourceOfClass (className : String) :
    isClassName (resourceOfClass className) = true := by
  have dir : isDirectoryName (resourceOfClass className) = false := by
    rw [isDirectoryName, Bool.eq_false_iff, ne_eq, Files.Path.endsWith_slash_iff, toList_resourceOfClass]
    rintro ⟨front, same⟩
    have ends := congrArg List.getLast? same
    rw [List.getLast?_concat, List.getLast?_append, getLast?_classSuffix] at ends
    cases ends
  have cls : (resourceOfClass className).endsWith ".class" = true := by
    have suffix : (".class" : String).toList = classSuffix := rfl
    simp [← String.endsWith_toSlice, suffix, toList_resourceOfClass]
  simp [isClassName, dir, cls]

theorem isManifestName_resourceOfClass (className : String) :
    isManifestName (resourceOfClass className) = false := by
  rw [isManifestName, beq_eq_false_iff_ne, ne_eq, Text.upper, toList_resourceOfClass]
  intro same
  have ends := congrArg (fun text : String => text.toList.getLast?) same
  have suffix : (classSuffix.flatMap Text.capital).getLast? = some 'S' := by decide
  have manifest : manifestName.toList.getLast? = some 'F' := by decide
  simp only [String.toList_ofList, List.flatMap_append, List.getLast?_append, suffix, manifest] at ends
  cases ends

namespace Rebuild

/-! ## Writing an archive again -/

section Repacking

variable (filter : Pattern.PathFilter) (root : Path) (archive : Zip.Archive) (bytes : Bytes)

/-- The entries that are staged. -/
def ordinaryMembers : List Zip.Member :=
  archive.members.filter fun member => !isManifestName member.name

/-- The entries that are staged, in the order of their paths. -/
def orderedMembers : List Zip.Member :=
  (ordinaryMembers archive).insertionSort fun first second =>
    nameParts first.name ≤ nameParts second.name

/-- The entry from which an entry has its content: an accepted class has that of the entry in which it is
looked for. -/
def sourceOf (member : Zip.Member) : Option Zip.Member :=
  if isClassName member.name && filter.accepts (root.descend (nameParts member.name)).toString then
    archive.find? (resourceOfClass (classOfResource member.name))
  else some member

/-- The record that is written for an entry. -/
def recordOf (member : Zip.Member) : Option Zip.Record :=
  if isDirectoryName member.name then
    some (.ofContent member.name member.stamp Zip.methodStored
      (attributesOr member.attributes directoryAttributes) [])
  else do
    let source ← sourceOf filter root archive member
    let content ← (source.read bytes).toOption
    return .ofContent member.name member.stamp Zip.methodDeflated
      (attributesOr member.attributes fileAttributes) content

/-- The record of the manifest, if there is one: the last of those that could be it. -/
def manifestRecords : Option (List Zip.Record) :=
  match (archive.members.filter fun member => isManifestName member.name).getLast? with
  | none => some []
  | some member => do
    let content ← (member.read bytes).toOption
    return [Manifest.record ⟨member, content⟩]

/-- The records of an archive file that is written again with no class changed; nothing if it cannot be
read. -/
def repacked : Option (List Zip.Record) := do
  let archive ← (Zip.Archive.ofBytes bytes).toOption
  let first ← manifestRecords archive bytes
  let rest ← (orderedMembers archive).mapM (recordOf filter root archive bytes)
  return first ++ rest

end Repacking

variable {filter : Pattern.PathFilter} {root : Path} {archive : Zip.Archive} {bytes : Bytes}
  {member : Zip.Member} {record : Zip.Record} {first records : List Zip.Record}

theorem attributesOr_idem (attributes default : Zip.Attributes) :
    attributesOr (attributesOr attributes default) default = attributesOr attributes default := by
  by_cases none : attributes = 0
  · simp [attributesOr, none]
  · simp [attributesOr, none]

theorem recordOf_of_directory (folder : isDirectoryName member.name = true) :
    recordOf filter root archive bytes member = some (.ofContent member.name member.stamp
      Zip.methodStored (attributesOr member.attributes directoryAttributes) []) := by
  rw [recordOf, if_pos folder]

theorem recordOf_eq_some_iff (leaf : isDirectoryName member.name = false) :
    recordOf filter root archive bytes member = some record ↔
      ∃ source content, sourceOf filter root archive member = some source ∧
        source.read bytes = .ok content ∧
        .ofContent member.name member.stamp Zip.methodDeflated
          (attributesOr member.attributes fileAttributes) content = record := by
  simp [recordOf, leaf, Option.bind_eq_some_iff, toOption_eq_some_iff]

theorem rewritten_eq_some_iff : member.rewritten bytes = some record ↔
    ∃ content, member.read bytes = .ok content ∧
      .ofContent member.name member.stamp (Zip.methodOf member.name) member.attributes content =
        record := by
  simp [Zip.Member.rewritten, toOption_eq_some_iff]

theorem repacked_eq_some_iff : repacked filter root bytes = some records ↔
    ∃ archive first rest, Zip.Archive.ofBytes bytes = .ok archive ∧
      manifestRecords archive bytes = some first ∧
      List.Forall₂ (fun member record => recordOf filter root archive bytes member = some record)
        (orderedMembers archive) rest ∧ first ++ rest = records := by
  simp only [repacked, Option.bind_eq_bind, Option.bind_eq_some_iff, toOption_eq_some_iff,
    mapM_eq_some_iff, Option.pure_def, Option.some.injEq]
  constructor
  · rintro ⟨archive, read, first, manifest, rest, others, whole⟩
    exact ⟨archive, first, rest, read, manifest, others, whole⟩
  · rintro ⟨archive, first, rest, read, manifest, others, whole⟩
    exact ⟨archive, read, first, manifest, rest, others, whole⟩

/-! ### Names -/

/-- No two entries that are staged have the same path. -/
def Distinct (archive : Zip.Archive) : Prop :=
  ((ordinaryMembers archive).map fun member => nameParts member.name).Nodup

theorem mem_ordinaryMembers_iff : member ∈ ordinaryMembers archive ↔
    member ∈ archive.members ∧ isManifestName member.name = false := by
  simp [ordinaryMembers]

theorem perm_orderedMembers (archive : Zip.Archive) :
    (orderedMembers archive).Perm (ordinaryMembers archive) := List.perm_insertionSort _ _

theorem mem_orderedMembers_iff : member ∈ orderedMembers archive ↔ member ∈ ordinaryMembers archive :=
  (perm_orderedMembers archive).mem_iff

/-- An entry is the one that its name finds. -/
theorem Distinct.find?_eq (distinct : Distinct archive) (among : member ∈ ordinaryMembers archive) :
    archive.find? member.name = some member := by
  obtain ⟨held, ordinary⟩ := mem_ordinaryMembers_iff.1 among
  cases search : archive.find? member.name with
  | none =>
      have missed := List.find?_eq_none.1 search member (List.mem_reverse.2 held)
      simp at missed
  | some found =>
      have named : found.name = member.name := by simpa using List.find?_some search
      have listed : found ∈ ordinaryMembers archive :=
        mem_ordinaryMembers_iff.2 ⟨List.mem_reverse.1 (List.mem_of_find?_eq_some search), named ▸ ordinary⟩
      rw [List.inj_on_of_nodup_map distinct listed among (congrArg nameParts named)]

theorem find?_ordinary {className : String}
    (found : archive.find? (resourceOfClass className) = some member) :
    member ∈ ordinaryMembers archive ∧ member.name = resourceOfClass className := by
  have named : member.name = resourceOfClass className := by simpa using List.find?_some found
  refine ⟨mem_ordinaryMembers_iff.2 ⟨List.mem_reverse.1 (List.mem_of_find?_eq_some found), ?_⟩, named⟩
  rw [named]
  exact isManifestName_resourceOfClass className

/-! ### One entry -/

section Again

variable {again source : Zip.Member} {old new content : Bytes} {archiveAgain : Zip.Archive}

/-- An entry reads as it was written for another entry. -/
def Rereads (filter : Pattern.PathFilter) (root : Path) (archive : Zip.Archive) (old new : Bytes)
    (member again : Zip.Member) : Prop :=
  ∃ record, recordOf filter root archive old member = some record ∧ again.rewritten new = some record

/-- Contents that are spelled alike in the record of a file. -/
def Interchangeable (content other : Bytes) : Prop :=
  ∀ (name : String) (stamp : Zip.Timestamp) (attributes : Zip.Attributes),
    Zip.Record.ofContent name stamp Zip.methodDeflated attributes content =
      .ofContent name stamp Zip.methodDeflated attributes other

theorem Rereads.name (rereads : Rereads filter root archive old new member again) :
    again.name = member.name := by
  obtain ⟨record, written, read⟩ := rereads
  obtain ⟨contentAgain, _, rfl⟩ := rewritten_eq_some_iff.1 read
  cases folder : isDirectoryName member.name with
  | true =>
      rw [recordOf_of_directory folder, Option.some.injEq] at written
      exact (Zip.Record.ofContent_inj written).1.symm
  | false =>
      obtain ⟨_, _, _, _, same⟩ := (recordOf_eq_some_iff folder).1 written
      exact (Zip.Record.ofContent_inj same).1.symm

/-- A file has its date, attributes, and a content that spells what was written. -/
theorem Rereads.file (rereads : Rereads filter root archive old new member again)
    (leaf : isDirectoryName member.name = false) (from_ : sourceOf filter root archive member = some source)
    (read : source.read old = .ok content) :
    again.stamp = member.stamp ∧ again.attributes = attributesOr member.attributes fileAttributes ∧
      ∃ contentAgain, again.read new = .ok contentAgain ∧ Interchangeable content contentAgain := by
  obtain ⟨record, written, rewritten⟩ := rereads
  obtain ⟨contentAgain, readAgain, rfl⟩ := rewritten_eq_some_iff.1 rewritten
  obtain ⟨other, contentOther, fromOther, readOther, same⟩ := (recordOf_eq_some_iff leaf).1 written
  obtain rfl := Option.some.inj (from_.symm.trans fromOther)
  obtain rfl := Except.ok.inj (read.symm.trans readOther)
  obtain ⟨_, stamp, method, attributes⟩ := Zip.Record.ofContent_inj same
  rw [← method] at same
  exact ⟨stamp.symm, attributes.symm, contentAgain, readAgain, Zip.Record.content_congr same⟩


/-- Whatever an entry has its content from in the new archive spells what was written. -/
theorem exists_sourceOf (distinct : Distinct archive) (distinctAgain : Distinct archiveAgain)
    (rereads : ∀ member ∈ ordinaryMembers archive, ∃ again ∈ ordinaryMembers archiveAgain,
      Rereads filter root archive old new member again)
    (pair : Rereads filter root archive old new member again)
    (leaf : isDirectoryName member.name = false) (from_ : sourceOf filter root archive member = some source)
    (read : source.read old = .ok content) :
    ∃ sourceAgain contentAgain, sourceOf filter root archiveAgain again = some sourceAgain ∧
      sourceAgain.read new = .ok contentAgain ∧ Interchangeable content contentAgain := by
  have name := pair.name
  by_cases accepted : (isClassName member.name &&
      filter.accepts (root.descend (nameParts member.name)).toString) = true
  · rw [sourceOf, if_pos accepted] at from_
    obtain ⟨among, sourceName⟩ := find?_ordinary from_
    obtain ⟨sourceAgain, amongAgain, sourcePair⟩ := rereads source among
    have sourceLeaf : isDirectoryName source.name = false := by
      have isClass := isClassName_resourceOfClass (classOfResource member.name)
      rw [← sourceName, isClassName, Bool.and_eq_true, Bool.not_eq_true'] at isClass
      exact isClass.1
    -- A resource is looked for where it is.
    have itself : sourceOf filter root archive source = some source := by
      rw [sourceOf]
      split
      · rw [sourceName, resourceOfClass_idem, ← sourceName]
        exact distinct.find?_eq among
      · rfl
    obtain ⟨_, _, contentAgain, readAgain, alike⟩ := sourcePair.file sourceLeaf itself read
    refine ⟨sourceAgain, contentAgain, ?_, readAgain, alike⟩
    rw [sourceOf, name, if_pos accepted, ← sourceName, ← sourcePair.name]
    exact distinctAgain.find?_eq amongAgain
  · have itself := from_
    rw [sourceOf, if_neg accepted] at from_
    obtain rfl := Option.some.inj from_
    obtain ⟨_, _, contentAgain, readAgain, alike⟩ := pair.file leaf itself read
    refine ⟨again, contentAgain, ?_, readAgain, alike⟩
    rw [sourceOf, name, if_neg accepted]

/-- An entry that reads as it was written is written as it was. -/
theorem recordOf_again (distinct : Distinct archive) (distinctAgain : Distinct archiveAgain)
    (rereads : ∀ member ∈ ordinaryMembers archive, ∃ again ∈ ordinaryMembers archiveAgain,
      Rereads filter root archive old new member again)
    (written : recordOf filter root archive old member = some record)
    (rewritten : again.rewritten new = some record) :
    recordOf filter root archiveAgain new again = some record := by
  have pair : Rereads filter root archive old new member again := ⟨record, written, rewritten⟩
  have name := pair.name
  cases folder : isDirectoryName member.name with
  | true =>
      rw [recordOf_of_directory folder] at written
      obtain rfl := Option.some.inj written
      obtain ⟨_, _, same⟩ := rewritten_eq_some_iff.1 rewritten
      obtain ⟨_, stamp, _, attributes⟩ := Zip.Record.ofContent_inj same
      rw [recordOf_of_directory (name ▸ folder), name, stamp, attributes, attributesOr_idem]
  | false =>
      obtain ⟨source, content, from_, read, rfl⟩ := (recordOf_eq_some_iff folder).1 written
      obtain ⟨stamp, attributes, _⟩ := pair.file folder from_ read
      obtain ⟨sourceAgain, contentAgain, fromAgain, readAgain, alike⟩ :=
        exists_sourceOf distinct distinctAgain rereads pair folder from_ read
      refine (recordOf_eq_some_iff (name ▸ folder)).2 ⟨sourceAgain, contentAgain, fromAgain, readAgain, ?_⟩
      rw [name, stamp, attributes, attributesOr_idem]
      exact (alike _ _ _).symm

end Again

/-! ### The whole archive -/

/-- What two lists have in common with a third they have in common with each other. -/
theorem forall₂_of_common {α β γ : Type} {related : α → γ → Prop} {other : β → γ → Prop}
    {items : List α} {others : List β} {results : List γ} (first : List.Forall₂ related items results)
    (second : List.Forall₂ other others results) :
    List.Forall₂ (fun item twin => ∃ result, related item result ∧ other twin result) items others := by
  induction first generalizing others with
  | nil => cases second; exact .nil
  | cons here _ inductionHypothesis =>
      cases second with
      | cons there rest => exact .cons ⟨_, here, there⟩ (inductionHypothesis rest)

theorem exists_of_forall₂ {α β : Type} {related : α → β → Prop} {items : List α} {others : List β}
    (pairs : List.Forall₂ related items others) {item : α} (among : item ∈ items) :
    ∃ other ∈ others, related item other := by
  induction pairs with
  | nil => cases among
  | cons here _ inductionHypothesis =>
      rcases List.mem_cons.1 among with rfl | later
      · exact ⟨_, List.mem_cons_self, here⟩
      · obtain ⟨other, otherAmong, there⟩ := inductionHypothesis later
        exact ⟨other, List.mem_cons_of_mem _ otherAmong, there⟩

theorem exists_split {α β : Type} {related : α → β → Prop} {items : List α} {front back : List β}
    (pairs : List.Forall₂ related items (front ++ back)) :
    ∃ head tail, items = head ++ tail ∧ List.Forall₂ related head front ∧ List.Forall₂ related tail back :=
  ⟨items.take front.length, items.drop front.length, (List.take_append_drop _ _).symm,
    List.forall₂_take_append items front back pairs, List.forall₂_drop_append items front back pairs⟩

section Whole

variable {old new : Bytes} {archiveAgain : Zip.Archive} {head tail : List Zip.Member}
  {rest : List Zip.Record}

/-- The manifest is one entry, or none, and reads as it was written. -/
theorem manifestRecords_cases (kept : manifestRecords archive bytes = some first) :
    first = [] ∨ ∃ member content, isManifestName member.name = true ∧
      first = [Manifest.record ⟨member, content⟩] := by
  unfold manifestRecords at kept
  split at kept
  · exact .inl (Option.some.inj kept).symm
  next member last =>
    obtain ⟨content, _, same⟩ := Option.bind_eq_some_iff.1 kept
    exact .inr ⟨member, content, (List.mem_filter.1 (List.mem_of_getLast? last)).2,
      (Option.some.inj same).symm⟩

theorem names_of_manifest (kept : manifestRecords archive bytes = some first)
    (reads : List.Forall₂ (fun member record => member.rewritten new = some record) head first) :
    ∀ member ∈ head, isManifestName member.name = true := by
  rcases manifestRecords_cases kept with rfl | ⟨member, content, named, rfl⟩
  · cases reads
    exact nofun
  · obtain ⟨_, _, here, nothing, rfl⟩ := List.forall₂_cons_right_iff.1 reads
    obtain rfl := List.forall₂_nil_right_iff.1 nothing
    obtain ⟨_, _, same⟩ := rewritten_eq_some_iff.1 here
    rw [List.forall_mem_singleton, (Zip.Record.ofContent_inj same).1]
    exact named

theorem manifestRecords_again (kept : manifestRecords archive bytes = some first)
    (reads : List.Forall₂ (fun member record => member.rewritten new = some record) head first)
    (manifests : (archiveAgain.members.filter fun member => isManifestName member.name) = head) :
    manifestRecords archiveAgain new = some first := by
  rw [manifestRecords, manifests]
  rcases manifestRecords_cases kept with rfl | ⟨member, content, named, rfl⟩
  · cases reads
    rfl
  · obtain ⟨again, _, here, nothing, rfl⟩ := List.forall₂_cons_right_iff.1 reads
    obtain rfl := List.forall₂_nil_right_iff.1 nothing
    obtain ⟨contentAgain, read, same⟩ := rewritten_eq_some_iff.1 here
    obtain ⟨name, stamp, method, attributes⟩ := Zip.Record.ofContent_inj same
    rw [method] at same
    have alike := Zip.Record.content_congr same
    simp only [List.getLast?_singleton, read, Except.toOption, Option.bind_eq_bind, Option.bind_some,
      Option.pure_def, Manifest.record, name, stamp, attributes, attributesOr_idem, alike]

/-- Entries that are read back are in the order in which they were written. -/
theorem orderedMembers_again
    (names : tail.map Zip.Member.name = (orderedMembers archive).map Zip.Member.name)
    (others : ordinaryMembers archiveAgain = tail) : orderedMembers archiveAgain = tail := by
  have sorted : (orderedMembers archive).Pairwise fun first second =>
      nameParts first.name ≤ nameParts second.name := List.pairwise_insertionSort _ _
  rw [← List.pairwise_map (f := Zip.Member.name) (R := fun first second =>
    nameParts first ≤ nameParts second), ← names, List.pairwise_map] at sorted
  rw [orderedMembers, others]
  exact sorted.insertionSort_eq

/-- An archive that has been written with no class changed is written again as it is. -/
theorem repacked_again (repacks : repacked filter root old = some records)
    (distinct : ∀ archive, Zip.Archive.ofBytes old = .ok archive → Distinct archive)
    (reads : Zip.rewritten new = some records) : repacked filter root new = some records := by
  obtain ⟨archive, first, rest, opened, kept, others, rfl⟩ := repacked_eq_some_iff.1 repacks
  obtain ⟨archiveAgain, openedAgain, all⟩ := Option.bind_eq_some_iff.1 reads
  rw [toOption_eq_some_iff] at openedAgain
  obtain ⟨head, tail, members, manifests, entries⟩ := exists_split (mapM_eq_some_iff.1 all)
  have pairs : List.Forall₂ (Rereads filter root archive old new) (orderedMembers archive) tail :=
    forall₂_of_common others entries
  have names : tail.map Zip.Member.name = (orderedMembers archive).map Zip.Member.name := by
    refine (List.forall₂_eq_eq_eq ▸ ?_ : (orderedMembers archive).map Zip.Member.name =
      tail.map Zip.Member.name).symm
    exact List.forall₂_map_left_iff.2 (List.forall₂_map_right_iff.2 (pairs.imp fun _ _ pair => pair.name.symm))
  have manifestNames := names_of_manifest kept manifests
  have ordinaryNames : ∀ member ∈ tail, isManifestName member.name = false := by
    intro member among
    have named : member.name ∈ (orderedMembers archive).map Zip.Member.name :=
      names ▸ List.mem_map_of_mem among
    obtain ⟨twin, listed, same⟩ := List.mem_map.1 named
    rw [← same]
    exact (mem_ordinaryMembers_iff.1 (mem_orderedMembers_iff.1 listed)).2
  have asManifests : (archiveAgain.members.filter fun member => isManifestName member.name) = head := by
    rw [members, List.filter_append, List.filter_eq_self.2 manifestNames,
      List.filter_eq_nil_iff.2 (by simpa using ordinaryNames), List.append_nil]
  have asOthers : ordinaryMembers archiveAgain = tail := by
    rw [ordinaryMembers, members, List.filter_append, List.filter_eq_nil_iff.2 (by simpa using manifestNames),
      List.filter_eq_self.2 (by simpa using ordinaryNames), List.nil_append]
  have distinct' := distinct archive opened
  have distinctAgain : Distinct archiveAgain := by
    have paths := congrArg (List.map nameParts) names
    rw [List.map_map, List.map_map, Function.comp_def] at paths
    rw [Distinct, asOthers, paths, ((perm_orderedMembers archive).map _).nodup_iff]
    exact distinct'
  have rereads : ∀ member ∈ ordinaryMembers archive, ∃ again ∈ ordinaryMembers archiveAgain,
      Rereads filter root archive old new member again := by
    intro member among
    rw [asOthers]
    exact exists_of_forall₂ pairs (mem_orderedMembers_iff.2 among)
  refine repacked_eq_some_iff.2 ⟨archiveAgain, first, rest, openedAgain,
    manifestRecords_again kept manifests asManifests, ?_, rfl⟩
  have written : ∀ record ∈ rest, ∃ member ∈ orderedMembers archive,
      recordOf filter root archive old member = some record :=
    fun record among => exists_of_forall₂ (List.Forall₂.flip others) among
  rw [orderedMembers_again names asOthers]
  refine (List.Forall₂.flip ((List.forall₂_and_left rest tail).2 ⟨written, List.Forall₂.flip entries⟩)).imp ?_
  rintro again record ⟨⟨member, _, writtenHere⟩, rewritten⟩
  exact recordOf_again distinct' distinctAgain rereads writtenHere rewritten

end Whole

end Rebuild
end ClassLoom
