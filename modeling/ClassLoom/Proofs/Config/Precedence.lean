import ClassLoom.Proofs.Config.Merging

namespace ClassLoom
namespace Config

/-!
# Which source prevails

There are two ways to a configured value.  A look-up asks the sources one after the other from the
highest to the lowest; the merge joins whole trees from the lowest to the highest, with rules of its own
for mappings and for null.  Both come to the value of the highest source that binds the key, provided that
no source puts something else than a mapping in the way of the key, and that what the merge holds is no
mapping: that of a mapping is joined from all sources, and a look-up answers with the part of one.
-/

open Value

/-- The place of a source in the order of precedence. -/
def Source.rank : Source → Nat
  | .defaults => 1
  | .systemFile => 2
  | .userFile => 3
  | .environment => 4
  | .commandLine => 5
  | .runtime => 6

theorem Source.mem_all (source : Source) : source ∈ Source.all := by
  cases source <;> decide

theorem Source.falling_all : Source.all.reverse.Pairwise fun a b => b.rank < a.rank := by decide

namespace Layers

variable {layers : Layers} {key : String} {value : Value}

/-- What a source binds a dotted key to; null if it does not bind it. -/
def bound (layers : Layers) (key : String) (source : Source) : Value :=
  valueAt ((layers.source? source).getD .null) (keyPath key)

/-- A source binds a key to a value that is not null, and no higher one does. -/
structure Prevails (layers : Layers) (key : String) (source : Source) (value : Value) : Prop where
  bound : layers.bound key source = value
  given : value.isNull = false
  highest : ∀ {higher : Source}, source.rank < higher.rank → (layers.bound key higher).isNull = true

/-- All sources hold dictionaries, and none has something else than a mapping in the way of a key. -/
structure Admits (layers : Layers) (key : String) : Prop where
  mapping : ∀ {source : Source} {tree : Value}, layers.source? source = some tree →
    tree.isMapping = true
  distinct : ∀ {source : Source} {tree : Value}, layers.source? source = some tree →
    tree.hasDistinctKeys = true
  free : ∀ {source : Source} {tree : Value}, layers.source? source = some tree →
    ∀ front rest, keyPath key = front ++ rest → rest ≠ [] → (valueAt tree front).isPassable = true

theorem mem_ordered_iff {tree : Value} :
    tree ∈ layers.ordered ↔ ∃ source, layers.source? source = some tree := by
  rw [ordered, List.mem_filterMap]
  exact ⟨fun ⟨source, _, held⟩ => ⟨source, held⟩,
    fun ⟨source, held⟩ => ⟨source, source.mem_all, held⟩⟩

/-- A look-up asks all six sources, those that are not there included. -/
theorem get?_eq : layers.get? key =
    Source.all.reverse.findSome? fun source =>
      if (layers.bound key source).isNull then none else some (layers.bound key source) := by
  rw [get?, ordered, ← List.filterMap_reverse]
  induction Source.all.reverse with
  | nil => rfl
  | cons source rest inductionHypothesis =>
      rw [List.findSome?_cons, ← inductionHypothesis, bound]
      cases held : layers.source? source with
      | none =>
          rw [List.filterMap_cons_none held, Option.getD_none, valueAt_null]
          rfl
      | some tree => rw [List.filterMap_cons_some held, List.findSome?_cons, Option.getD_some]

/-- A look-up finds the value of the highest source that binds the key. -/
theorem prevails_of_get? (found : layers.get? key = some value) :
    ∃ source, layers.Prevails key source value := by
  rw [get?_eq, List.findSome?_eq_some_iff] at found
  obtain ⟨above, source, below, order, answer, passed⟩ := found
  split at answer
  next => cases answer
  next given =>
    obtain rfl := Option.some.inj answer
    refine ⟨source, rfl, Bool.not_eq_true _ ▸ given, fun {higher} outranks => ?_⟩
    have falling : (above ++ source :: below).Pairwise fun a b : Source => b.rank < a.rank :=
      order ▸ Source.falling_all
    have present : higher ∈ above ++ source :: below := by
      rw [← order, List.mem_reverse]
      exact higher.mem_all
    rcases List.mem_append.1 present with before | after
    · have answer := passed higher before
      split at answer
      next null => exact null
      next => cases answer
    · rcases List.mem_cons.1 after with rfl | after
      · exact absurd outranks (Nat.lt_irrefl _)
      · have lower := List.rel_of_pairwise_cons (List.pairwise_append.1 falling).2.1 after
        omega

/-- A look-up finds nothing if no source binds the key. -/
theorem bound_of_get?_eq_none (missing : layers.get? key = none) (source : Source) :
    (layers.bound key source).isNull = true := by
  rw [get?_eq, List.findSome?_eq_none_iff] at missing
  have answer := missing source (List.mem_reverse.2 source.mem_all)
  split at answer
  next null => exact null
  next => cases answer

/-- Dictionaries can be merged; the whole is the one laid over the other. -/
theorem merged_eq (mappings : ∀ tree ∈ layers.ordered, tree.isMapping = true) :
    ∃ whole, layers.merged = .ok whole ∧
      .mapping whole = layers.ordered.foldl overlaid (.mapping []) := by
  unfold merged
  generalize layers.ordered = trees at mappings
  -- The merge so far is any mapping.
  generalize ([] : Mapping) = base
  induction trees generalizing base with
  | nil => exact ⟨base, rfl, rfl⟩
  | cons tree rest inductionHypothesis =>
      obtain ⟨mapping, others⟩ := List.forall_mem_cons.1 mappings
      cases tree with
      | mapping entries =>
          obtain ⟨whole, merges, same⟩ := inductionHypothesis others (mergeMapping base entries)
          exact ⟨whole, by rw [List.foldlM_cons]; exact merges, same⟩
      | _ => cases mapping

/-- What the merge holds at a key is what the sources bind the key to, laid over each other. -/
theorem Admits.valueAt_merged (admits : layers.Admits key) :
    ∃ whole, layers.merged = .ok whole ∧ valueAt (.mapping whole) (keyPath key) =
      (layers.ordered.map (valueAt · (keyPath key))).foldl overlaid .null := by
  obtain ⟨whole, merges, same⟩ := merged_eq fun tree among => by
    obtain ⟨source, held⟩ := mem_ordered_iff.1 among
    exact admits.mapping held
  refine ⟨whole, merges, ?_⟩
  have distinct : ∀ tree ∈ layers.ordered, tree.hasDistinctKeys = true := fun tree among => by
    obtain ⟨source, held⟩ := mem_ordered_iff.1 among
    exact admits.distinct held
  have free : ∀ tree ∈ layers.ordered, tree.Unblocked (keyPath key) := fun tree among => by
    obtain ⟨source, held⟩ := mem_ordered_iff.1 among
    exact Value.unblocked_iff.2 (admits.free held)
  have start : (Value.mapping []).Unblocked (keyPath key) := by
    refine Value.unblocked_iff.2 fun front rest _ _ => ?_
    cases front <;> rfl
  rw [same, valueAt_foldl_overlaid distinct free start]
  obtain ⟨name, rest, path⟩ := List.exists_cons_of_ne_nil (keyPath_ne_nil key)
  rw [path, valueAt_mapping_cons, field_nil, valueAt_null]

/-- A look-up finds the last of the values that is not null. -/
theorem get?_eq_find? : layers.get? key =
    ((layers.ordered.map (valueAt · (keyPath key))).reverse.find? fun value => !value.isNull) := by
  rw [get?, ← List.map_reverse]
  induction layers.ordered.reverse with
  | nil => rfl
  | cons tree rest inductionHypothesis =>
      rw [List.map_cons, List.findSome?_cons, List.find?_cons, ← inductionHypothesis]
      simp only
      cases (valueAt tree (keyPath key)).isNull <;> rfl

/-- Where the merge holds no mapping at a key, a look-up of the key answers with what the merge holds, or
with the default if it holds nothing; and that is the value of the highest source that binds the key. -/
theorem get_eq_valueAt_merged (admits : layers.Admits key) (default : Value) :
    ∃ whole, layers.merged = .ok whole ∧
      let found := valueAt (.mapping whole) (keyPath key)
      found.isMapping = false →
        layers.get key default = (if found.isNull then default else found) ∧
          (found.isNull = false → ∃ source, layers.Prevails key source found) ∧
          (found.isNull = true → ∀ source, (layers.bound key source).isNull = true) := by
  obtain ⟨whole, merges, joined⟩ := admits.valueAt_merged
  refine ⟨whole, merges, fun plain => ?_⟩
  have last : valueAt (.mapping whole) (keyPath key) = (layers.get? key).getD .null := by
    rw [joined] at plain ⊢
    rw [foldl_overlaid_of_not_mapping plain, get?_eq_find?]
  rw [last, get]
  cases asked : layers.get? key with
  | none =>
      refine ⟨rfl, fun given => ?_, fun _ => bound_of_get?_eq_none asked⟩
      cases given
  | some value =>
      obtain ⟨source, prevails⟩ := prevails_of_get? asked
      rw [Option.getD_some, Option.getD_some, prevails.given]
      refine ⟨rfl, fun _ => ⟨source, prevails⟩, fun null => ?_⟩
      cases null

/-- The defaults, with a staging policy in the file of the user and a null for it in the variables. -/
def layered : Layers :=
  ((Layers.initial.load .userFile (.ofFields [(sectionName, .ofFields [
      (stagingKey, .ofFields [(policyKey, .text "clean")]), (scopeKey, .null)])])).load .environment
    (.ofFields [(sectionName, .ofFields [(stagingKey, .ofFields [(policyKey, .null)])])]))

theorem admits_layered : layered.Admits "classweaver.staging.policy" := by
  have held : ∀ {source tree}, layered.source? source = some tree →
      tree.isMapping = true ∧ tree.hasDistinctKeys = true ∧
        tree.Unblocked (keyPath "classweaver.staging.policy") := by
    intro source tree held
    cases source <;> cases held <;> decide
  exact ⟨fun here => (held here).1, fun here => (held here).2.1,
    fun here => Value.unblocked_iff.1 (held here).2.2⟩

/-- The null of the variables does not hide the policy of the user, and the look-up agrees. -/
theorem clean_of_layered : ∃ whole, layered.merged = .ok whole ∧
    valueAt (.mapping whole) (keyPath "classweaver.staging.policy") = .text "clean" ∧
    layered.get "classweaver.staging.policy" .null = .text "clean" ∧
    ∃ source, layered.Prevails "classweaver.staging.policy" source (.text "clean") := by
  obtain ⟨whole, merges, agrees⟩ := get_eq_valueAt_merged admits_layered .null
  have held : layered.merged.toOption.map
      (fun whole => valueAt (.mapping whole) (keyPath "classweaver.staging.policy")) =
        some (.text "clean") := by rfl
  rw [merges] at held
  obtain found := Option.some.inj held
  simp only [found] at agrees
  obtain ⟨asked, highest, _⟩ := agrees rfl
  exact ⟨whole, merges, found, asked, highest rfl⟩

end Layers
end Config
end ClassLoom
