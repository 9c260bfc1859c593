import ClassLoom.Proofs.Files.Spelling

namespace ClassLoom

/-!
# From classes to resources and back

A class is looked up by a resource, and an entry is named after the class that it stores.  Both maps
replace one separator by the other, so neither can be undone on all texts: the way there and back makes
every separator the one that it ends with.  It leaves a class name alone if that holds no slash, and a
resource if that has the ending of a class file and no other dot.
-/

variable {old new : Char} {text : List Char}

/-! ## Replacing characters -/

theorem notMem_replaceCharacter (differ : new ≠ old) : old ∉ replaceCharacter old new text := by
  intro present
  obtain ⟨c, _, same⟩ := List.mem_map.mp present
  by_cases isOld : c = old
  · rw [if_pos isOld] at same
    exact differ same
  · rw [if_neg isOld] at same
    exact isOld same

/-- Replacing back also replaces what has not come from the first replacement. -/
theorem replaceCharacter_back (old new : Char) (text : List Char) :
    replaceCharacter new old (replaceCharacter old new text) = replaceCharacter new old text := by
  rw [replaceCharacter, replaceCharacter, replaceCharacter, List.map_map]
  apply List.map_congr_left
  intro c _
  rw [Function.comp_apply]
  by_cases isOld : c = old
  · rw [if_pos isOld, if_pos rfl, isOld, ite_self]
  · rw [if_neg isOld]

theorem replaceCharacter_eq_self_iff (differ : new ≠ old) :
    replaceCharacter old new text = text ↔ old ∉ text := by
  constructor
  · intro same
    rw [← same]
    exact notMem_replaceCharacter differ
  · intro absent
    have kept : replaceCharacter old new (replaceCharacter new old text) = text :=
      replaceCharacter_inverse absent
    rwa [replaceCharacter_back] at kept

/-! ## There and back -/

@[simp] theorem stemOf_append (stem : List Char) : stemOf (stem ++ classSuffix) = stem := by
  rw [stemOf, if_pos (by simp), List.length_append, Nat.add_sub_cancel, List.take_left]

theorem toList_resourceOfClass (className : String) : (resourceOfClass className).toList =
    replaceCharacter '.' '/' className.toList ++ classSuffix := by
  rw [resourceOfClass, String.toList_ofList]

theorem classOfResource_resourceOfClass (className : String) :
    classOfResource (resourceOfClass className) =
      String.ofList (replaceCharacter '/' '.' className.toList) := by
  rw [classOfResource, toList_resourceOfClass, stemOf_append, replaceCharacter_back]

theorem resourceOfClass_classOfResource (resource : String) :
    resourceOfClass (classOfResource resource) =
      String.ofList (replaceCharacter '.' '/' (stemOf resource.toList) ++ classSuffix) := by
  rw [resourceOfClass, classOfResource, String.toList_ofList, replaceCharacter_back]

/-- Looking for a class where a class is looked for leads there again. -/
theorem resourceOfClass_idem (className : String) :
    resourceOfClass (classOfResource (resourceOfClass className)) = resourceOfClass className := by
  rw [resourceOfClass_classOfResource, toList_resourceOfClass, stemOf_append,
    (replaceCharacter_eq_self_iff (by decide)).mpr (notMem_replaceCharacter (by decide))]
  rfl

/-- A class name is what its resource stores if and only if it holds no slash, and a resource is that of
the class that it stores if and only if it has the ending and no dot before it. -/
theorem roundTrips_iff (className resource : String) :
    (classOfResource (resourceOfClass className) = className ↔ '/' ∉ className.toList) ∧
      (resourceOfClass (classOfResource resource) = resource ↔
        ∃ stem : String, resource = stem ++ ".class" ∧ '.' ∉ stem.toList) := by
  constructor
  · rw [classOfResource_resourceOfClass, ← String.toList_inj, String.toList_ofList]
    exact replaceCharacter_eq_self_iff (by decide)
  · have spelled (stem : String) : (stem ++ ".class").toList = stem.toList ++ classSuffix :=
      String.toList_append
    rw [resourceOfClass_classOfResource]
    constructor
    · intro same
      have whole := congrArg String.toList same
      rw [String.toList_ofList] at whole
      refine ⟨String.ofList (replaceCharacter '.' '/' (stemOf resource.toList)), ?_, ?_⟩
      · apply String.toList_injective
        rw [spelled, String.toList_ofList, whole]
      · rw [String.toList_ofList]
        exact notMem_replaceCharacter (by decide)
    · rintro ⟨stem, rfl, dotless⟩
      apply String.toList_injective
      rw [String.toList_ofList, spelled, stemOf_append,
        (replaceCharacter_eq_self_iff (by decide)).mpr dotless]

example : resourceOfClass (classOfResource "a.b.class") = "a/b.class" := by decide

end ClassLoom
