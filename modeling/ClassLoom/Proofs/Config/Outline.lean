import ClassLoom.Proofs.Config.Merging

namespace ClassLoom
namespace Config

/-!
# What stands where in a tree of mappings

Two trees of mappings are the same, but for the order of their entries, if the same stands at every path of
names: nothing, a mapping, or one value.  A value can be put at a path if nothing but mappings is in the way;
then it stands there, mappings lead to it, and everything beside the path stands where it stood.
-/

open Value

/-! ## What stands at a path -/

/-- What stands at a path; of a mapping, no more than that it is one. -/
def Value.outline : Value → List String → Option Value
  | .mapping _, [] => some (.mapping [])
  | .mapping entries, name :: rest => (field? entries name).bind fun value => value.outline rest
  | value, [] => some value
  | _, _ :: _ => none

/-- Two trees are the same but for the order of their entries: the same stands at every path. -/
def Value.Same (first second : Value) : Prop := ∀ path, first.outline path = second.outline path

theorem outline_mapping_cons (entries : Mapping) (name : String) (rest : List String) :
    (Value.mapping entries).outline (name :: rest) =
      (field? entries name).bind fun value => value.outline rest := rfl

theorem outline_plain_nil {value : Value} (plain : value.isMapping = false) :
    value.outline [] = some value := by
  cases value <;> first | rfl | cases plain

theorem outline_plain_cons {value : Value} (plain : value.isMapping = false) (name : String)
    (rest : List String) : value.outline (name :: rest) = none := by
  cases value <;> first | rfl | cases plain

theorem isMapping_iff {value : Value} : value.isMapping = true ↔ ∃ entries, value = .mapping entries := by
  cases value with
  | mapping entries => exact iff_of_true rfl ⟨entries, rfl⟩
  | _ => exact iff_of_false Bool.false_ne_true nofun

/-- Values that are the same are equal, or both are mappings. -/
theorem Value.Same.eq_or_mapping {first second : Value} (same : first.Same second) :
    first = second ∨ ∃ entries others, first = .mapping entries ∧ second = .mapping others := by
  have root := same []
  cases kind : first.isMapping with
  | true =>
      obtain ⟨entries, rfl⟩ := isMapping_iff.1 kind
      cases second with
      | mapping others => exact .inr ⟨entries, others, rfl, rfl⟩
      | _ => cases root
  | false =>
      rw [outline_plain_nil kind] at root
      cases second with
      | mapping others =>
          obtain rfl := Option.some.inj root
          cases kind
      | _ => exact .inl (Option.some.inj root)

/-- The same names are bound in mappings that are the same, each to what is the same. -/
theorem Value.Same.field? {entries others : Mapping} (same : (mapping entries).Same (mapping others))
    (name : String) : (field? entries name = none ∧ field? others name = none) ∨
      ∃ value other, field? entries name = some value ∧ field? others name = some other ∧
        value.Same other := by
  have each : ∀ path, ((Value.field? entries name).bind fun value => value.outline path) =
      (Value.field? others name).bind fun value => value.outline path :=
    fun path => same (name :: path)
  cases bound : Value.field? entries name with
  | none =>
      cases boundToo : Value.field? others name with
      | none => exact .inl ⟨rfl, rfl⟩
      | some other =>
          have root := each []
          rw [bound, boundToo] at root
          cases other <;> cases root
  | some value =>
      cases boundToo : Value.field? others name with
      | none =>
          have root := each []
          rw [bound, boundToo] at root
          cases value <;> cases root
      | some other =>
          rw [bound, boundToo] at each
          exact .inr ⟨value, other, rfl, rfl, each⟩

/-! ## Putting values -/

theorem putAt_mapping_cons (value : Value) (name : String) (rest : List String) (entries : Mapping) :
    putAt value (name :: rest) (.mapping entries) = (do
      let inner ← putAt value rest ((field? entries name).getD (.mapping []))
      return .mapping (insert entries (.text name) inner)) := by
  cases rest with
  | nil => rfl
  | cons _ _ => rfl

theorem putAt_plain_cons (value : Value) (name : String) (rest : List String) {tree : Value}
    (plain : tree.isMapping = false) : ∃ failure, putAt value (name :: rest) tree = .error failure := by
  cases rest with
  | nil => cases tree <;> first | exact ⟨_, rfl⟩ | cases plain
  | cons _ _ => cases tree <;> first | exact ⟨_, rfl⟩ | cases plain

/-- Only mappings stand at the proper beginnings of a path. -/
def Value.Enterable (tree : Value) (path : List String) : Prop :=
  ∀ front held, front <+: path → front ≠ path → tree.outline front = some held → held.isMapping = true

theorem outline_getD (entries : Mapping) (name : String) {front : List String} {held : Value}
    (found : ((field? entries name).getD (.mapping [])).outline front = some held) :
    held.isMapping = true ∨ (Value.mapping entries).outline (name :: front) = some held := by
  rw [outline_mapping_cons]
  cases bound : field? entries name with
  | some value =>
      rw [bound] at found
      exact .inr found
  | none =>
      rw [bound] at found
      cases front with
      | nil => exact .inl (Option.some.inj found ▸ rfl)
      | cons _ _ => cases found

theorem enterable_mapping_cons_iff {entries : Mapping} {name : String} {rest : List String} :
    (Value.mapping entries).Enterable (name :: rest) ↔
      ((field? entries name).getD (.mapping [])).Enterable rest := by
  constructor
  · intro enterable front held start proper found
    rcases outline_getD entries name found with mapping | found
    · exact mapping
    · exact enterable _ held ((List.prefix_cons_inj name).2 start)
        (fun same => proper (List.cons.inj same).2) found
  · intro enterable front held start proper found
    cases front with
    | nil => exact Option.some.inj found ▸ rfl
    | cons first front =>
        obtain ⟨rfl, below⟩ := List.cons_prefix_cons.1 start
        refine enterable front held below (fun same => proper (by rw [same])) ?_
        rw [outline_mapping_cons] at found
        obtain ⟨value, bound, found⟩ := Option.bind_eq_some_iff.1 found
        rw [bound]
        exact found

/-- A value can be put at a path if and only if nothing but mappings is in the way. -/
theorem putAt_ok_iff {value tree : Value} {path : List String} :
    (∃ next, putAt value path tree = .ok next) ↔ tree.Enterable path := by
  induction path generalizing tree with
  | nil =>
      refine iff_of_true ⟨value, rfl⟩ fun front _ start proper => ?_
      exact absurd (List.prefix_nil.1 start) proper
  | cons name rest inductionHypothesis =>
      cases kind : tree.isMapping with
      | false =>
          refine iff_of_false ?_ fun enterable => ?_
          · rintro ⟨next, done⟩
            obtain ⟨failure, failed⟩ := putAt_plain_cons value name rest kind
            cases failed.symm.trans done
          · have mapping := enterable [] tree List.nil_prefix (List.cons_ne_nil _ _).symm
              (outline_plain_nil kind)
            cases kind.symm.trans mapping
      | true =>
          obtain ⟨entries, rfl⟩ := isMapping_iff.1 kind
          rw [enterable_mapping_cons_iff, ← inductionHypothesis, putAt_mapping_cons]
          constructor
          · rintro ⟨next, done⟩
            cases below : putAt value rest ((field? entries name).getD (.mapping [])) with
            | ok inner => exact ⟨inner, rfl⟩
            | error failure =>
                rw [below] at done
                cases done
          · rintro ⟨inner, below⟩
            rw [below]
            exact ⟨_, rfl⟩

/-- What is put below a name is put into what the name is bound to. -/
theorem putAt_cons_ok {value tree next : Value} {name : String} {rest : List String}
    (done : putAt value (name :: rest) tree = .ok next) :
    ∃ entries inner, tree = .mapping entries ∧
      putAt value rest ((field? entries name).getD (.mapping [])) = .ok inner ∧
      next = .mapping (insert entries (.text name) inner) := by
  cases kind : tree.isMapping with
  | false =>
      obtain ⟨failure, failed⟩ := putAt_plain_cons value name rest kind
      cases failed.symm.trans done
  | true =>
      obtain ⟨entries, rfl⟩ := isMapping_iff.1 kind
      rw [putAt_mapping_cons] at done
      cases below : putAt value rest ((field? entries name).getD (.mapping [])) with
      | error failure =>
          rw [below] at done
          cases done
      | ok inner =>
          rw [below] at done
          exact ⟨entries, inner, rfl, below, (Except.ok.inj done).symm⟩

/-- What has been put at a path stands there, mappings lead to it, and nothing else has changed. -/
theorem outline_putAt {value tree next : Value} {path : List String}
    (done : putAt value path tree = .ok next) (other : List String) :
    next.outline other =
      if path <+: other then value.outline (other.drop path.length)
      else if other <+: path then some (.mapping []) else tree.outline other := by
  induction path generalizing tree next other with
  | nil =>
      obtain rfl := Except.ok.inj done
      rw [if_pos List.nil_prefix]
      rfl
  | cons name rest inductionHypothesis =>
      obtain ⟨entries, inner, rfl, below, rfl⟩ := putAt_cons_ok done
      cases other with
      | nil =>
          rw [if_neg (by simp), if_pos List.nil_prefix]
          rfl
      | cons first other =>
          rw [outline_mapping_cons, outline_mapping_cons]
          by_cases here : name = first
          · subst here
            rw [field?_insert_self, Option.bind_some, inductionHypothesis below]
            simp only [List.prefix_cons_inj, List.length_cons, List.drop_succ_cons]
            split
            · rfl
            · split
              · rfl
              next apart beside =>
                cases bound : field? entries name with
                | some value => rfl
                | none =>
                    -- What is not below the path is not in a mapping that has been made for it.
                    cases other with
                    | nil => exact absurd List.nil_prefix beside
                    | cons _ _ => rfl
          · have differ : Value.text name ≠ .text first := fun same => here (Value.text.inj same)
            rw [field?_insert_of_ne differ, if_neg, if_neg]
            · exact fun start => here (List.cons_prefix_cons.1 start).1.symm
            · exact fun start => here (List.cons_prefix_cons.1 start).1

/-- Neither of two paths is a beginning of the other. -/
def Apart (first second : List String) : Prop := ¬ first <+: second ∧ ¬ second <+: first

theorem Apart.symm {first second : List String} (apart : Apart first second) : Apart second first :=
  ⟨apart.2, apart.1⟩

theorem distinctEntries_iff {entries : Mapping} : distinctEntries entries = true ↔
    (entries.Pairwise fun a b => sameKey a.1 b.1 = false) ∧
      ∀ entry ∈ entries, entry.2.hasDistinctKeys = true := by
  induction entries with
  | nil => exact iff_of_true rfl ⟨.nil, nofun⟩
  | cons entry rest inductionHypothesis =>
      obtain ⟨key, value⟩ := entry
      rw [distinctEntries, Bool.and_eq_true, Bool.and_eq_true, inductionHypothesis, Bool.not_eq_true',
        List.any_eq_false, List.pairwise_cons, List.forall_mem_cons]
      simp only [Bool.not_eq_true]
      tauto

theorem distinctEntries_insert {entries : Mapping} (distinct : distinctEntries entries = true)
    (key : Value) {value : Value} (below : value.hasDistinctKeys = true) :
    distinctEntries (insert entries key value) = true := by
  obtain ⟨differ, each⟩ := distinctEntries_iff.1 distinct
  refine distinctEntries_iff.2 ?_
  unfold Value.insert
  split
  · constructor
    · refine List.pairwise_map.2 (differ.imp fun {a b} apart => ?_)
      split <;> split <;> exact apart
    · intro entry member
      obtain ⟨old, among, rfl⟩ := List.mem_map.1 member
      split
      · exact below
      · exact each old among
  next absent =>
    rw [Bool.not_eq_true, List.any_eq_false] at absent
    refine ⟨List.pairwise_append.2 ⟨differ, List.pairwise_singleton _ _, ?_⟩, ?_⟩
    · intro entry member other last
      rw [List.mem_singleton.1 last]
      exact Bool.not_eq_true _ ▸ absent entry member
    · intro entry member
      rcases List.mem_append.1 member with among | last
      · exact each entry among
      · rw [List.mem_singleton.1 last]
        exact below

theorem hasDistinctKeys_putAt {value tree next : Value} {path : List String}
    (below : value.hasDistinctKeys = true) (distinct : tree.hasDistinctKeys = true)
    (done : putAt value path tree = .ok next) : next.hasDistinctKeys = true := by
  induction path generalizing tree next with
  | nil => exact Except.ok.inj done ▸ below
  | cons name rest inductionHypothesis =>
      obtain ⟨entries, inner, rfl, inside, rfl⟩ := putAt_cons_ok done
      refine distinctEntries_insert distinct _ (inductionHypothesis ?_ inside)
      have held := hasDistinctKeys_field distinct name
      rw [field] at held
      cases bound : field? entries name with
      | none => rfl
      | some old =>
          rw [bound] at held
          exact held

/-! ## Merging trees that are the same -/

/-- What is merged into a tree may be taken with its entries in another order. -/
theorem Value.Same.overlaid {first second : Value} (same : first.Same second)
    (distinct : first.hasDistinctKeys = true) (distinctToo : second.hasDistinctKeys = true) (base : Value) :
    (overlaid base first).Same (overlaid base second) := by
  intro path
  induction path generalizing base first second with
  | nil =>
      rcases same.eq_or_mapping with rfl | ⟨entries, others, rfl, rfl⟩
      · rfl
      · cases base <;> rfl
  | cons name rest inductionHypothesis =>
      rcases same.eq_or_mapping with rfl | ⟨entries, others, rfl, rfl⟩
      · rfl
      cases base with
      | mapping old =>
          rw [Config.overlaid, Config.overlaid, outline_mapping_cons, outline_mapping_cons,
            field?_mergeMapping (pairwise_of_distinctEntries distinct),
            field?_mergeMapping (pairwise_of_distinctEntries distinctToo)]
          rcases same.field? name with ⟨absent, absentToo⟩ | ⟨value, other, bound, boundToo, below⟩
          · rw [absent, absentToo]
          · have apart := hasDistinctKeys_field distinct name
            have apartToo := hasDistinctKeys_field distinctToo name
            rw [field, bound] at apart
            rw [field, boundToo] at apartToo
            rw [bound, boundToo]
            exact inductionHypothesis below apart apartToo (field old name)
      | _ => exact same (name :: rest)

end Config
end ClassLoom
