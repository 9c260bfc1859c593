import ClassLoom.Config.Layers
import ClassLoom.Proofs.Files.Spelling
import Mathlib

namespace ClassLoom
namespace Config

/-!
# Trees of mappings

A tree of mappings is looked up name by name.  What a merge holds at a path is told by what the two
trees hold there, as long as the way to it leads through mappings in both: a value that is none stands
in the way of everything below it.

The keys of a mapping differ.  A key may be any value, but only a text is the same key as a text, so
keys of other kinds have no part in what follows.
-/

namespace Value

theorem sameKey_text_right {key : Value} {name : String} :
    sameKey key (.text name) = true ↔ key = .text name := by
  cases key <;> simp [sameKey, wholeNumber?]

theorem sameKey_text_left {key : Value} {name : String} :
    sameKey (.text name) key = true ↔ key = .text name := by
  cases key with
  | text other =>
      simp only [sameKey, beq_iff_eq, Value.text.injEq]
      exact eq_comm
  | _ => simp [sameKey, wholeNumber?]

@[simp] theorem field?_nil (name : String) : field? [] name = none := rfl

@[simp] theorem field_nil (name : String) : field [] name = .null := rfl

theorem field?_cons (key value : Value) (rest : Mapping) (name : String) :
    field? ((key, value) :: rest) name =
      if sameKey key (.text name) then some value else field? rest name := by
  unfold field? lookup
  rw [List.find?_cons]
  cases sameKey key (.text name) <;> rfl

theorem field?_cons_self (name : String) (value : Value) (rest : Mapping) :
    field? ((.text name, value) :: rest) name = some value := by
  rw [field?_cons, if_pos (sameKey_text_right.2 rfl)]

theorem field?_cons_of_ne {key : Value} {name : String} (differ : key ≠ .text name) (value : Value)
    (rest : Mapping) : field? ((key, value) :: rest) name = field? rest name := by
  rw [field?_cons, if_neg fun same => differ (sameKey_text_right.1 same)]

theorem field?_eq_none_iff {entries : Mapping} {name : String} :
    field? entries name = none ↔ entries.any (fun e => sameKey e.1 (.text name)) = false := by
  rw [field?, lookup, Option.map_eq_none_iff, List.find?_eq_none, List.any_eq_false]

theorem field?_append (first second : Mapping) (name : String) :
    field? (first ++ second) name = (field? first name).or (field? second name) := by
  rw [field?, field?, field?, lookup, lookup, lookup, List.find?_append, Option.map_or]

/-- What has been bound is found. -/
theorem field?_insert_self (entries : Mapping) (name : String) (value : Value) :
    field? (insert entries (.text name) value) name = some value := by
  unfold insert
  split
  next present =>
    induction entries with
    | nil => cases present
    | cons entry rest inductionHypothesis =>
        obtain ⟨key, old⟩ := entry
        rw [List.any_cons] at present
        rw [List.map_cons]
        cases here : sameKey key (.text name) with
        | true => rw [if_pos rfl, field?_cons, if_pos here]
        | false =>
            rw [here, Bool.false_or] at present
            rw [if_neg Bool.false_ne_true, field?_cons, if_neg (by rw [here]; exact Bool.false_ne_true)]
            exact inductionHypothesis present
  next absent =>
    rw [field?_append, field?_cons_self, field?_eq_none_iff.2 (Bool.not_eq_true _ ▸ absent)]
    rfl

theorem field?_replace_of_ne {key : Value} {name : String} (differ : key ≠ .text name)
    (entries : Mapping) (value : Value) :
    field? (entries.map fun e => if sameKey e.1 key then (e.1, value) else e) name =
      field? entries name := by
  induction entries with
  | nil => rfl
  | cons entry rest inductionHypothesis =>
      obtain ⟨other, old⟩ := entry
      rw [List.map_cons, field?_cons other, ← inductionHypothesis]
      cases here : sameKey other (.text name) with
      | true =>
          -- The entry of the name itself is another one than that of the key.
          have passed : sameKey other key = false := by
            rw [← Bool.not_eq_true, sameKey_text_right.1 here, sameKey_text_left]
            exact differ
          rw [if_neg (by rw [passed]; exact Bool.false_ne_true), field?_cons, here]
      | false => split <;> simp only [field?_cons, here, Bool.false_eq_true, if_false]

/-- Binding another key changes nothing. -/
theorem field?_insert_of_ne {key : Value} {name : String} (differ : key ≠ .text name)
    (entries : Mapping) (value : Value) :
    field? (insert entries key value) name = field? entries name := by
  unfold insert
  split
  · exact field?_replace_of_ne differ entries value
  · rw [field?_append, field?_cons_of_ne differ, field?_nil, Option.or_none]

end Value

open Value

/-! ## Paths -/

@[simp] theorem valueAt_nil (value : Value) : valueAt value [] = value := by
  cases value <;> rfl

@[simp] theorem valueAt_null (path : List String) : valueAt .null path = .null := by
  cases path <;> rfl

theorem valueAt_mapping_cons (entries : Mapping) (name : String) (rest : List String) :
    valueAt (.mapping entries) (name :: rest) = valueAt (field entries name) rest := by
  rw [valueAt, field]
  cases field? entries name with
  | none => exact (valueAt_null rest).symm
  | some value => rfl

theorem valueAt_append (value : Value) (first second : List String) :
    valueAt value (first ++ second) = valueAt (valueAt value first) second := by
  induction first generalizing value with
  | nil => rfl
  | cons name rest inductionHypothesis =>
      cases value with
      | mapping entries =>
          rw [List.cons_append, valueAt_mapping_cons, valueAt_mapping_cons, inductionHypothesis]
      | _ => exact (valueAt_null second).symm

theorem keyPath_ne_nil (key : String) : keyPath key ≠ [] := by
  have pieces := Files.splitAt_ne_nil '.' key.toList
  simpa [keyPath] using pieces

mutual

/-- Whether the keys of every mapping in a tree of mappings differ from one another. -/
def Value.hasDistinctKeys : Value → Bool
  | .mapping entries => distinctEntries entries
  | _ => true

/-- Whether the keys of entries differ, and those of every mapping among their values. -/
def distinctEntries : List (Value × Value) → Bool
  | [] => true
  | (key, value) :: rest =>
    !(rest.any fun e => sameKey key e.1) && value.hasDistinctKeys && distinctEntries rest

end

theorem pairwise_of_distinctEntries {entries : Mapping} (distinct : distinctEntries entries = true) :
    entries.Pairwise fun a b => sameKey a.1 b.1 = false := by
  induction entries with
  | nil => exact .nil
  | cons entry rest inductionHypothesis =>
      rw [distinctEntries, Bool.and_eq_true, Bool.and_eq_true, Bool.not_eq_true', List.any_eq_false]
        at distinct
      obtain ⟨⟨apart, _⟩, distinct⟩ := distinct
      exact List.pairwise_cons.2 ⟨fun other member => Bool.not_eq_true _ ▸ apart other member,
        inductionHypothesis distinct⟩

theorem hasDistinctKeys_field {entries : Mapping} (distinct : distinctEntries entries = true)
    (name : String) : (field entries name).hasDistinctKeys = true := by
  induction entries with
  | nil => rfl
  | cons entry rest inductionHypothesis =>
      obtain ⟨key, value⟩ := entry
      rw [distinctEntries, Bool.and_eq_true, Bool.and_eq_true] at distinct
      rw [field, field?_cons]
      split
      · exact distinct.1.2
      · exact inductionHypothesis distinct.2

/-- Whether names can be looked up below a value: it is a mapping, or there is nothing. -/
def Value.isPassable : Value → Bool
  | .mapping _ => true
  | .null => true
  | _ => false

/-- Nothing but mappings is in the way of a path. -/
def Value.Unblocked : Value → List String → Prop
  | _, [] => True
  | value, name :: rest => value.isPassable = true ∧ (valueAt value [name]).Unblocked rest

instance Value.decidableUnblocked : ∀ (value : Value) (path : List String),
    Decidable (value.Unblocked path)
  | _, [] => .isTrue trivial
  | value, name :: rest =>
    have := decidableUnblocked (valueAt value [name]) rest
    inferInstanceAs (Decidable (value.isPassable = true ∧ (valueAt value [name]).Unblocked rest))

/-- A path is unblocked if no proper beginning of it leads to a value that cannot be entered. -/
theorem Value.unblocked_iff {value : Value} {path : List String} :
    value.Unblocked path ↔
      ∀ front rest, path = front ++ rest → rest ≠ [] → (valueAt value front).isPassable = true := by
  induction path generalizing value with
  | nil =>
      refine iff_of_true trivial fun front rest whole proper => ?_
      exact absurd (List.append_eq_nil_iff.1 whole.symm).2 proper
  | cons name path inductionHypothesis =>
      rw [Unblocked, inductionHypothesis]
      constructor
      · rintro ⟨here, below⟩ front rest whole proper
        cases front with
        | nil => exact here
        | cons first front =>
            obtain ⟨rfl, further⟩ := List.cons.inj whole
            rw [← List.singleton_append, valueAt_append]
            exact below front rest further proper
      · intro each
        refine ⟨each [] _ rfl (List.cons_ne_nil _ _), fun front rest whole proper => ?_⟩
        rw [← valueAt_append]
        exact each (name :: front) rest (by rw [whole]; rfl) proper

/-! ## Merging -/

/-- What a value becomes when another one is merged into it. -/
def overlaid : Value → Value → Value
  | .mapping base, .mapping upper => .mapping (mergeMapping base upper)
  | base, .null => base
  | _, upper => upper

@[simp] theorem overlaid_null_right (base : Value) : overlaid base .null = base := by
  cases base <;> rfl

@[simp] theorem overlaid_null_left (upper : Value) : overlaid .null upper = upper := by
  cases upper <;> rfl

theorem isPassable_overlaid {base upper : Value} (first : base.isPassable = true)
    (second : upper.isPassable = true) : (overlaid base upper).isPassable = true := by
  cases base <;> cases upper <;> simp_all [Value.isPassable, overlaid]

theorem mergeEntry_mapping (base : Mapping) (key : Value) (entries : Mapping) :
    mergeEntry base key (.mapping entries) =
      insert base key (overlaid ((lookup base key).getD .null) (.mapping entries)) := by
  rw [mergeEntry]
  rcases lookup base key with _ | held
  · rfl
  · cases held <;> rfl

/-- A value that is neither a mapping nor null takes the place of what was there. -/
theorem mergeEntry_plain (base : Mapping) (key : Value) {value : Value}
    (plain : value.isPassable = false) :
    mergeEntry base key value = insert base key value := by
  cases value <;> first | rfl | cases plain

theorem overlaid_plain (base : Value) {value : Value} (plain : value.isPassable = false) :
    overlaid base value = value := by
  cases value <;> first | (cases base <;> rfl) | cases plain

theorem field?_mergeEntry_of_ne {key : Value} {name : String} (differ : key ≠ .text name)
    (base : Mapping) (value : Value) :
    field? (mergeEntry base key value) name = field? base name := by
  cases value with
  | mapping entries => rw [mergeEntry_mapping, field?_insert_of_ne differ]
  | null =>
      rw [mergeEntry]
      split
      · rfl
      · exact field?_insert_of_ne differ base _
  | _ => exact field?_insert_of_ne differ base _

theorem field?_mergeEntry_self (base : Mapping) (name : String) (value : Value) :
    field? (mergeEntry base (.text name) value) name = some (overlaid (field base name) value) := by
  cases kind : value.isPassable with
  | false => rw [mergeEntry_plain base _ kind, overlaid_plain _ kind, field?_insert_self]
  | true =>
      cases value with
      | mapping entries => rw [mergeEntry_mapping, field?_insert_self, field, field?]
      | null =>
          rw [mergeEntry, overlaid_null_right, field, ← field?]
          cases held : field? base name with
          | none => exact field?_insert_self base name .null
          | some value => exact held
      | _ => cases kind

/-- A name is bound in a merge if it is in one of the two mappings, to the merge of what it is bound to. -/
theorem field?_mergeMapping {upper : Mapping}
    (differ : upper.Pairwise fun a b => sameKey a.1 b.1 = false) (base : Mapping) (name : String) :
    field? (mergeMapping base upper) name =
      ((field? upper name).map (overlaid (field base name))).or (field? base name) := by
  induction upper generalizing base with
  | nil => rw [mergeMapping, field?_nil, Option.map_none, Option.none_or]
  | cons entry rest inductionHypothesis =>
      obtain ⟨key, value⟩ := entry
      obtain ⟨apart, differ⟩ := List.pairwise_cons.1 differ
      rw [mergeMapping, inductionHypothesis differ]
      by_cases here : key = .text name
      · subst here
        have last : field? rest name = none := by
          rw [field?_eq_none_iff, List.any_eq_false]
          intro entry member same
          have distinct := apart entry member
          rw [sameKey_text_left.2 (sameKey_text_right.1 same)] at distinct
          cases distinct
        rw [field?_cons_self, last, field?_mergeEntry_self]
        rfl
      · rw [field?_cons_of_ne here, field, field?_mergeEntry_of_ne here, ← field]

theorem field_mergeMapping {upper : Mapping}
    (differ : upper.Pairwise fun a b => sameKey a.1 b.1 = false) (base : Mapping) (name : String) :
    field (mergeMapping base upper) name = overlaid (field base name) (field upper name) := by
  rw [field, field?_mergeMapping differ, field.eq_def upper]
  cases field? upper name with
  | none => exact (overlaid_null_right _).symm
  | some value => rfl

/-- What a merge holds at a path is the merge of what is held there. -/
theorem valueAt_overlaid {base upper : Value} {path : List String}
    (distinct : upper.hasDistinctKeys = true)
    (free : base.Unblocked path) (freeOver : upper.Unblocked path) :
    valueAt (overlaid base upper) path = overlaid (valueAt base path) (valueAt upper path) := by
  induction path generalizing base upper with
  | nil => rfl
  | cons name rest inductionHypothesis =>
      obtain ⟨enters, free⟩ := free
      obtain ⟨entersOver, freeOver⟩ := freeOver
      cases upper with
      | null => rw [overlaid_null_right, valueAt_null, overlaid_null_right]
      | mapping entries =>
          cases base with
          | null => rw [overlaid_null_left, valueAt_null, overlaid_null_left]
          | mapping old =>
              rw [valueAt_mapping_cons, valueAt_nil] at free freeOver
              rw [Value.hasDistinctKeys] at distinct
              rw [overlaid, valueAt_mapping_cons,
                field_mergeMapping (pairwise_of_distinctEntries distinct),
                inductionHypothesis (hasDistinctKeys_field distinct name) free freeOver,
                ← valueAt_mapping_cons, ← valueAt_mapping_cons]
          | _ => cases enters
      | _ => cases entersOver

theorem unblocked_overlaid {base upper : Value} {path : List String}
    (distinct : upper.hasDistinctKeys = true)
    (free : base.Unblocked path) (freeOver : upper.Unblocked path) :
    (overlaid base upper).Unblocked path := by
  rw [Value.unblocked_iff] at free freeOver ⊢
  intro front rest whole proper
  have before : ∀ {value : Value}, (∀ front rest, path = front ++ rest → rest ≠ [] →
      (valueAt value front).isPassable = true) → value.Unblocked front := by
    intro value each
    refine Value.unblocked_iff.2 fun first last split last_ => ?_
    exact each first (last ++ rest) (by rw [whole, split, List.append_assoc]) (by simp [last_])
  rw [valueAt_overlaid distinct (before free) (before freeOver)]
  exact isPassable_overlaid (free front rest whole proper) (freeOver front rest whole proper)

/-- What the merge of several trees holds at a path is the merge of what they hold there. -/
theorem valueAt_foldl_overlaid {trees : List Value} {path : List String}
    (distinct : ∀ tree ∈ trees, tree.hasDistinctKeys = true)
    (free : ∀ tree ∈ trees, tree.Unblocked path) {base : Value}
    (start : base.Unblocked path) :
    valueAt (trees.foldl overlaid base) path =
      (trees.map (valueAt · path)).foldl overlaid (valueAt base path) := by
  induction trees generalizing base with
  | nil => rfl
  | cons tree rest inductionHypothesis =>
      obtain ⟨distinctTree, distinct⟩ := List.forall_mem_cons.1 distinct
      obtain ⟨freeTree, free⟩ := List.forall_mem_cons.1 free
      rw [List.foldl_cons, inductionHypothesis distinct free (unblocked_overlaid distinctTree start freeTree),
        valueAt_overlaid distinctTree start freeTree, List.map_cons, List.foldl_cons]

/-- Whether a value is a mapping. -/
def Value.isMapping : Value → Bool
  | .mapping _ => true
  | _ => false

/-- Unless they come to a mapping, merged values come to the last of them that is not null. -/
theorem foldl_overlaid_of_not_mapping {values : List Value}
    (plain : (values.foldl overlaid .null).isMapping = false) :
    values.foldl overlaid .null = (values.reverse.find? fun value => !value.isNull).getD .null := by
  induction values using List.reverseRecOn with
  | nil => rfl
  | append_singleton values last inductionHypothesis =>
      rw [List.foldl_append, List.foldl_cons, List.foldl_nil] at plain ⊢
      rw [List.reverse_append, List.reverse_singleton, List.singleton_append, List.find?_cons]
      cases last with
      | null =>
          rw [overlaid_null_right] at plain ⊢
          exact inductionHypothesis plain
      | mapping entries =>
          cases held : values.foldl overlaid .null <;> rw [held] at plain <;> cases plain
      | _ => cases values.foldl overlaid .null <;> rfl

end Config
end ClassLoom
