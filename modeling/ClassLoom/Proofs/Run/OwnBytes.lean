import ClassLoom.Proofs.Classpath.Front
import ClassLoom.Proofs.Names
import ClassLoom.Proofs.Run.Laying

namespace ClassLoom
namespace Run

/-!
# The bytes that a class is handed with

An accepted class is looked up by its name, and not by its entry.  The two agree where the entry is
spelled as the resource of its class, because the archive of a run stands first on its classpath, and
because entries of one name are refused.  An entry with a dot before its ending is spelled otherwise:
what it is handed is what another entry or another element holds.
-/

open Files (FileTree Path)

variable {host : Host} {context : Context} {opened : Classpath.OpenArchive}

/-! ## The resource of a class -/

/-- A resource without a dot before its ending is the resource of the class that it stores. -/
theorem resource_of_classOfResource {stem : List Char} (dotless : '.' ∉ stem) :
    resourceOfClass (classOfResource (String.ofList (stem ++ classSuffix))) =
      String.ofList (stem ++ classSuffix) := by
  rw [resourceOfClass_classOfResource, String.toList_ofList, stemOf_append,
    (replaceCharacter_eq_self_iff (by decide)).mpr dotless]

/-! ## The entry of a class -/

/-- Where no two entries are staged under one key, an entry is the one that its name finds. -/
theorem find?_of_once {visits : List Visit} (members : visits.map Visit.member = opened.archive.members)
    (once : ((ordinary visits).map Visit.key).Nodup) {visit : Visit} (among : visit ∈ visits)
    (isEntry : visit.isManifest = false) :
    opened.archive.find? visit.member.name = some visit.member := by
  have listed : ∀ {other : Visit}, other ∈ visits → other.member.name = visit.member.name →
      other ∈ ordinary visits := by
    intro other member same
    refine List.mem_filter.2 ⟨member, ?_⟩
    rw [Visit.isManifest, same]
    simpa [Visit.isManifest] using isEntry
  have held : visit.member ∈ opened.archive.members := members ▸ List.mem_map_of_mem among
  cases search : opened.archive.find? visit.member.name with
  | none =>
      have missed := List.find?_eq_none.1 search visit.member (List.mem_reverse.2 held)
      simp at missed
  | some found =>
      have named : found.name = visit.member.name := by simpa using List.find?_some search
      have member : found ∈ visits.map Visit.member :=
        members ▸ List.mem_reverse.1 (List.mem_of_find?_eq_some search)
      obtain ⟨other, otherAmong, rfl⟩ := List.mem_map.1 member
      have key : other.key = visit.key := by rw [Visit.key, Visit.key, Visit.isDirectory,
        Visit.isDirectory, named]
      rw [List.inj_on_of_nodup_map once (listed otherAmong named) (listed among rfl) key]

/-! ## What is handed on -/

section Handing

variable {visit : Visit} {jar : Path} {rest : List Classpath.Root} {archive : Bytes}

/-- A class is handed its own bytes if its entry is spelled as its resource. -/
theorem Processed.own {target : Path} {last : Workspace} {source : Classpath.Source}
    {answer : Transformer.Answer}
    (processed : Processed host context (classOfResource visit.member.name) target visit.state last
      source answer)
    (spelled : resourceOfClass (classOfResource visit.member.name) = visit.member.name)
    (fronted : Classpath.Fronted context.classpath jar opened rest visit.state)
    (found : opened.archive.find? visit.member.name = some visit.member)
    (content : visit.state.files.contentOf opened.file = some archive) :
    visit.member.read archive = .ok source.content := by
  obtain ⟨_, _, _, resolved, _⟩ := processed
  obtain ⟨read, _⟩ := fronted.resolve (by rw [spelled, found]) resolved
  rw [Classpath.OpenArchive.read, content, Option.getD_some] at read
  split at read
  next _ own => rw [own, Except.ok.inj read]
  next => cases read

/-- An entry that is staged without new content is staged with its own. -/
theorem Visit.Content.own {root : Path} {bytes : Bytes}
    (content : visit.Content host context archive root false bytes)
    (spelled : resourceOfClass (classOfResource visit.member.name) = visit.member.name)
    (fronted : Classpath.Fronted context.classpath jar opened rest visit.state)
    (found : opened.archive.find? visit.member.name = some visit.member)
    (held : visit.state.files.contentOf opened.file = some archive) :
    visit.member.read archive = .ok bytes := by
  generalize old : false = transformed at content
  cases content with
  | copied _ read => exact read
  | @processed source answer _ _ processed =>
      have nothing : substance answer.content = none :=
        Option.isNone_iff_eq_none.1 (Option.isSome_eq_false_iff.1 old.symm)
      rw [nothing, Option.getD_none]
      exact processed.own spelled fronted found held

end Handing

end Run
end ClassLoom
