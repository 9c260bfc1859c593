import ClassLoom.Proofs.Config.Outline
import ClassLoom.Proofs.Config.Precedence
import ClassLoom.Proofs.Work

namespace ClassLoom
namespace Config

/-!
# Setting a value

A value is set in place: the tree of its source is entered name by name, mappings are made where nothing is
bound, and the value is bound to the last name.  A value that is in the way stops this, and then nothing has
been made before it: only what is bound already can be in the way.

What has been set is found, unless a higher source binds the key.  A key that lies beside the one that has
been set is found as before.
-/

open Value

/-! ## Looking up what has been put -/

theorem valueAt_putAt_self {value tree next : Value} {path : List String}
    (done : putAt value path tree = .ok next) : valueAt next path = value := by
  induction path generalizing tree next with
  | nil =>
      obtain rfl := Except.ok.inj done
      exact valueAt_nil value
  | cons name rest inductionHypothesis =>
      obtain ⟨entries, inner, rfl, below, rfl⟩ := putAt_cons_ok done
      rw [valueAt_mapping_cons, field, field?_insert_self]
      exact inductionHypothesis below

theorem valueAt_putAt_of_apart {value tree next : Value} {path other : List String}
    (done : putAt value path tree = .ok next) (apart : Apart path other) :
    valueAt next other = valueAt tree other := by
  induction path generalizing tree next other with
  | nil => exact absurd List.nil_prefix apart.1
  | cons name rest inductionHypothesis =>
      obtain ⟨entries, inner, rfl, below, rfl⟩ := putAt_cons_ok done
      cases other with
      | nil => exact absurd List.nil_prefix apart.2
      | cons first other =>
          rw [valueAt_mapping_cons, valueAt_mapping_cons, field, field]
          by_cases here : name = first
          · subst here
            have beside : Apart rest other := by
              simpa [Apart, List.prefix_cons_inj] using apart
            rw [field?_insert_self, Option.getD_some, inductionHypothesis below beside]
            cases field? entries name with
            | some inner => rfl
            | none =>
                -- A mapping that has been made holds as little as nothing does.
                cases other with
                | nil => exact absurd List.nil_prefix beside.2
                | cons _ _ => rfl
          · rw [field?_insert_of_ne fun same => here (Value.text.inj same)]

namespace Layers

variable {layers next : Layers} {key : String} {value : Value} {source : Source}

theorem lookup_replaced (sources : List (Source × Value)) (source other : Source) (tree : Value) :
    (sources.map fun e => if e.1 = source then (source, tree) else e).lookup other =
      if other = source then (sources.lookup source).map fun _ => tree else sources.lookup other := by
  induction sources with
  | nil => simp
  | cons entry rest inductionHypothesis =>
      obtain ⟨first, held⟩ := entry
      rw [List.map_cons, List.lookup_cons, List.lookup_cons, inductionHypothesis]
      by_cases here : first = source
      · subst here
        by_cases asked : other = first
        · simp [asked]
        · simp [asked, beq_eq_false_iff_ne.2 asked, List.lookup_cons]
      · by_cases asked : other = source
        · simp [asked, here, beq_eq_false_iff_ne.2 (Ne.symm here)]
        · simp [asked, here, List.lookup_cons]

theorem source?_load (layers : Layers) (source other : Source) (tree : Value) :
    (layers.load source tree).source? other = if other = source then some tree else layers.source? other := by
  unfold load source?
  split
  next present =>
    rw [lookup_replaced]
    obtain ⟨held, same⟩ := Option.isSome_iff_exists.1 present
    rw [same]
    rfl
  next absent =>
    rw [Bool.not_eq_true, Option.isSome_eq_false_iff, Option.isNone_iff_eq_none] at absent
    rw [List.lookup_append]
    split
    next here =>
      subst here
      rw [absent]
      simp
    next apart => simp [List.lookup_cons, beq_eq_false_iff_ne.2 apart]

theorem source?_load_self (layers : Layers) (source : Source) (tree : Value) :
    (layers.load source tree).source? source = some tree := by
  rw [source?_load, if_pos rfl]

theorem source?_load_of_ne {other : Source} (differ : other ≠ source) (layers : Layers) (tree : Value) :
    (layers.load source tree).source? other = layers.source? other := by
  rw [source?_load, if_neg differ]

theorem load_load (layers : Layers) (source : Source) (first second : Value) :
    (layers.load source first).load source second = layers.load source second := by
  have present : ((layers.load source first).source? source).isSome = true := by
    rw [source?_load_self]
    rfl
  rw [load.eq_def (layers.load source first), if_pos present]
  unfold load
  split
  · rw [List.map_map]
    congr 2
    funext entry
    by_cases here : entry.1 = source
    · simp [here]
    · simp [here]
  next absent =>
    have others : ∀ entry ∈ layers.sources, entry.1 ≠ source := by
      rw [Bool.not_eq_true, Option.isSome_eq_false_iff, Option.isNone_iff_eq_none] at absent
      exact fun entry among same => bne_iff_ne.1 (List.lookup_eq_none_iff.1 absent entry among) same.symm
    rw [List.map_append, List.map_singleton, if_pos rfl]
    congr 2
    exact (List.map_congr_left fun entry among => if_neg (others entry among)).trans (List.map_id _)

theorem exists_of_set (done : layers.set key value source = .ok next) :
    ∃ tree, putAt value (keyPath key) ((layers.source? source).getD (.mapping [])) = .ok tree ∧
      next = layers.load source tree := by
  unfold set at done
  cases put : putAt value (keyPath key) ((layers.source? source).getD (.mapping [])) with
  | error failure =>
      rw [put] at done
      cases done
  | ok tree =>
      rw [put] at done
      exact ⟨tree, rfl, (Except.ok.inj done).symm⟩

theorem source?_set_of_ne {other : Source} (done : layers.set key value source = .ok next)
    (differ : other ≠ source) : next.source? other = layers.source? other := by
  obtain ⟨tree, _, rfl⟩ := exists_of_set done
  exact source?_load_of_ne differ layers tree

theorem bound_set_self (done : layers.set key value source = .ok next) : next.bound key source = value := by
  obtain ⟨tree, put, rfl⟩ := exists_of_set done
  rw [bound, source?_load_self]
  exact valueAt_putAt_self put

theorem bound_set_of_apart {other : String} (done : layers.set key value source = .ok next)
    (apart : Apart (keyPath key) (keyPath other)) (asked : Source) :
    next.bound other asked = layers.bound other asked := by
  by_cases here : asked = source
  · subst here
    obtain ⟨tree, put, rfl⟩ := exists_of_set done
    rw [bound, bound, source?_load_self, Option.getD_some, valueAt_putAt_of_apart put apart]
    cases layers.source? asked with
    | some tree => rfl
    | none =>
        obtain ⟨name, rest, path⟩ := List.exists_cons_of_ne_nil (keyPath_ne_nil other)
        rw [path]
        rfl
  · rw [bound, bound, source?_set_of_ne done here]

theorem Source.rank_injective {first second : Source} (same : first.rank = second.rank) : first = second := by
  cases first <;> cases second <;> first | rfl | cases same

theorem Prevails.get (prevails : layers.Prevails key source value) (default : Value) :
    layers.get key default = value := by
  rw [Layers.get]
  cases asked : layers.get? key with
  | none =>
      have absent := bound_of_get?_eq_none asked source
      rw [prevails.bound, prevails.given] at absent
      cases absent
  | some found =>
      obtain ⟨other, prevailsToo⟩ := prevails_of_get? asked
      rw [Option.getD_some]
      -- Neither of the two sources is above the other.
      rcases Nat.lt_trichotomy source.rank other.rank with above | level | below
      · have null := prevails.highest above
        rw [prevailsToo.bound, prevailsToo.given] at null
        cases null
      · rw [← prevails.bound, ← prevailsToo.bound, Source.rank_injective level]
      · have null := prevailsToo.highest below
        rw [prevails.bound, prevails.given] at null
        cases null

end Layers

/-! ## Setting in place -/

/-- A tree with another one at a path that mappings lead to. -/
def replaceAt (next : Value) : List String → Value → Value
  | [], _ => next
  | name :: rest, .mapping entries =>
    .mapping (insert entries (.text name) (replaceAt next rest (field entries name)))
  | _ :: _, tree => tree

/-- Work on a configuration that may be given up half-way. -/
abbrev Editing := ExceptT Failure (StateM Layers)

/-- Bind a name in the mapping that a path leads to, in the tree of a source. -/
def bindAt (source : Source) (path : List String) (entries : Mapping) (name : String) (value : Value) :
    Editing Unit :=
  modify fun layers => layers.load source (replaceAt (.mapping (insert entries (.text name) value)) path
    ((layers.source? source).getD .null))

/-- What a path leads to in the tree of a source. -/
def heldAt (source : Source) (path : List String) : Editing Value := do
  return valueAt (((← get).source? source).getD .null) path

/-- Go on through the names from where a path leads to; the value is bound to the last one. -/
def bindBelow (value : Value) (source : Source) : List String → List String → Editing Unit
  | _, [] => return
  | path, [name] => do
    match ← heldAt source path with
    | .mapping entries => bindAt source path entries name value
    | .list _ => throw (.fault (.wrongType "list indices must be integers or slices, not str"))
    | other =>
      throw (.fault (.wrongType (Text.quoted other.kind ++ " object does not support item assignment")))
  | path, name :: rest => do
    match ← heldAt source path with
    | .mapping entries =>
      if (field? entries name).isNone then bindAt source path entries name (.mapping [])
      bindBelow value source (path ++ [name]) rest
    | other =>
      throw (.fault (.noAttribute (Text.quoted other.kind ++ " object has no attribute 'setdefault'")))

/-- Set the value of a dotted key in one source, step by step. -/
def setInPlace (key : String) (value : Value) (source : Source) : Editing Unit := do
  if ((← get).source? source).isNone then modify fun layers => layers.load source (.mapping [])
  bindBelow value source [] (keyPath key)

/-- What has been bound last counts. -/
theorem insert_insert (entries : Mapping) (name : String) (first second : Value) :
    Value.insert (Value.insert entries (.text name) first) (.text name) second =
      Value.insert entries (.text name) second := by
  have bound : ((Value.insert entries (.text name) first).any fun e => sameKey e.1 (.text name)) = true := by
    rw [← Bool.not_eq_false, ← field?_eq_none_iff, field?_insert_self]
    exact Option.some_ne_none _
  rw [Value.insert.eq_def (Value.insert entries (.text name) first), if_pos bound]
  unfold Value.insert
  split
  · rw [List.map_map]
    congr 1
    funext entry
    cases here : sameKey entry.1 (.text name) with
    | true => simp [here]
    | false => simp [here]
  next absent =>
    rw [Bool.not_eq_true, List.any_eq_false] at absent
    rw [List.map_append, List.map_singleton, if_pos (sameKey_text_right.2 rfl)]
    congr 1
    exact (List.map_congr_left fun entry among => if_neg (absent entry among)).trans (List.map_id _)

section Places

variable {tree next : Value} {entries : Mapping} {path : List String}

/-- A path that leads to a mapping begins in one. -/
theorem mapping_of_valueAt_cons {name : String} {rest : List String}
    (leads : valueAt tree (name :: rest) = .mapping entries) :
    ∃ outer, tree = .mapping outer ∧ valueAt (field outer name) rest = .mapping entries := by
  cases tree with
  | mapping outer => exact ⟨outer, rfl, (valueAt_mapping_cons outer name rest).symm.trans leads⟩
  | _ => cases leads

theorem valueAt_replaceAt (leads : valueAt tree path = .mapping entries) (next : Value) :
    valueAt (replaceAt next path tree) path = next := by
  induction path generalizing tree with
  | nil => exact valueAt_nil next
  | cons name rest inductionHypothesis =>
      obtain ⟨outer, rfl, below⟩ := mapping_of_valueAt_cons leads
      rw [replaceAt, valueAt_mapping_cons, field, field?_insert_self]
      exact inductionHypothesis below

theorem replaceAt_replaceAt (leads : valueAt tree path = .mapping entries) (first second : Value) :
    replaceAt second path (replaceAt first path tree) = replaceAt second path tree := by
  induction path generalizing tree with
  | nil => rfl
  | cons name rest inductionHypothesis =>
      obtain ⟨outer, rfl, below⟩ := mapping_of_valueAt_cons leads
      rw [replaceAt, replaceAt, replaceAt, insert_insert, field, field?_insert_self, Option.getD_some,
        inductionHypothesis below]

theorem replaceAt_concat (leads : valueAt tree path = .mapping entries) (name : String) (next : Value) :
    replaceAt next (path ++ [name]) tree =
      replaceAt (.mapping (insert entries (.text name) next)) path tree := by
  induction path generalizing tree with
  | nil =>
      rw [valueAt_nil] at leads
      subst leads
      rfl
  | cons first rest inductionHypothesis =>
      obtain ⟨outer, rfl, below⟩ := mapping_of_valueAt_cons leads
      rw [List.cons_append, replaceAt, replaceAt, inductionHypothesis below]

end Places

theorem putAt_nothing (value : Value) (path : List String) :
    ∃ next, putAt value path (.mapping []) = .ok next := by
  induction path with
  | nil => exact ⟨value, rfl⟩
  | cons name rest inductionHypothesis =>
      obtain ⟨inner, below⟩ := inductionHypothesis
      rw [putAt_mapping_cons, field?_nil, Option.getD_none, below]
      exact ⟨_, rfl⟩

section Course

variable {value : Value} {source : Source} {layers : Layers} {tree : Value}

theorem heldAt_bind {path : List String} (held : layers.source? source = some tree)
    (next : Value → Editing Unit) :
    (heldAt source path >>= next) layers = next (valueAt tree path) layers := by
  rw [heldAt, ← Option.getD_some (a := tree) (b := .null), ← held]
  rfl

theorem bindAt_run (held : layers.source? source = some tree) (path : List String) (entries : Mapping)
    (name : String) (value : Value) : bindAt source path entries name value layers =
      (.ok (), layers.load source (replaceAt (.mapping (insert entries (.text name) value)) path tree)) := by
  rw [← Option.getD_some (a := tree) (b := .null), ← held]
  rfl

/-- Going on through the names puts the value where the path leads to, or changes nothing. -/
theorem bindBelow_run (held : layers.source? source = some tree) (path : List String) (name : String)
    (rest : List String) : bindBelow value source path (name :: rest) layers =
      match putAt value (name :: rest) (valueAt tree path) with
      | .ok next => (.ok (), layers.load source (replaceAt next path tree))
      | .error failure => (.error failure, layers) := by
  induction rest generalizing layers tree path name with
  | nil =>
      rw [bindBelow, heldAt_bind held]
      cases leads : valueAt tree path with
      | mapping entries => exact bindAt_run held path entries name value
      | _ => rfl
  | cons second rest inductionHypothesis =>
      unfold bindBelow
      rw [heldAt_bind held]
      cases leads : valueAt tree path with
      | mapping entries =>
          simp only
          rw [putAt_mapping_cons]
          cases bound : field? entries name with
          | some inner =>
              have below : valueAt tree (path ++ [name]) = inner := by
                rw [valueAt_append, leads, valueAt_mapping_cons, valueAt_nil, field, bound]
                rfl
              refine (inductionHypothesis held (path ++ [name]) second).trans ?_
              rw [below, Option.getD_some]
              cases putAt value (second :: rest) inner with
              | error failure => rfl
              | ok next =>
                  exact congrArg (fun tree => (Except.ok (), layers.load source tree))
                    (replaceAt_concat leads name next)
          | none =>
              -- A mapping is made, and nothing can be in the way in it.
              obtain ⟨next, put⟩ := putAt_nothing value (second :: rest)
              rw [if_pos Option.isNone_none, run_bind, bindAt_run held, Option.getD_none, put]
              refine (inductionHypothesis (Layers.source?_load_self _ _ _) (path ++ [name]) second).trans ?_
              have made : valueAt (replaceAt (.mapping (insert entries (.text name) (.mapping []))) path tree)
                  (path ++ [name]) = .mapping [] := by
                rw [valueAt_append, valueAt_replaceAt leads, valueAt_mapping_cons, valueAt_nil, field,
                  field?_insert_self]
                rfl
              rw [made, put]
              refine congrArg (Prod.mk (Except.ok ())) ?_
              rw [Layers.load_load, replaceAt_concat (valueAt_replaceAt leads _), insert_insert,
                replaceAt_replaceAt leads]
      | _ => rfl

/-- Setting in place leaves what the value has been put into, or everything as it was. -/
theorem setInPlace_run (key : String) (value : Value) (source : Source) (layers : Layers) :
    setInPlace key value source layers =
      match layers.set key value source with
      | .ok next => (.ok (), next)
      | .error failure => (.error failure, layers) := by
  have start : setInPlace key value source layers = bindBelow value source [] (keyPath key)
      (if (layers.source? source).isNone then layers.load source (.mapping []) else layers) := by
    unfold setInPlace
    change (if (layers.source? source).isNone then _ else _ : Editing Unit) layers = _
    split <;> rfl
  obtain ⟨name, rest, path⟩ := List.exists_cons_of_ne_nil (keyPath_ne_nil key)
  rw [start, Layers.set, path]
  cases held : layers.source? source with
  | some tree =>
      rw [if_neg (by simp), bindBelow_run held, valueAt_nil, Option.getD_some]
      cases putAt value (name :: rest) tree <;> rfl
  | none =>
      obtain ⟨next, put⟩ := putAt_nothing value (name :: rest)
      rw [if_pos Option.isNone_none, bindBelow_run (Layers.source?_load_self _ _ _), valueAt_nil,
        Option.getD_none, put]
      exact congrArg (Prod.mk (Except.ok ())) (Layers.load_load layers source (.mapping []) next)

end Course

namespace Layers

variable {layers : Layers} {key : String} {value : Value} {source : Source}

/-- A value that has been set is found unless a higher source binds the key, a key beside its key is found as
before, and no other source has changed.  Where a value cannot be set, nothing at all has changed. -/
theorem lawful_of_set (layers : Layers) (key : String) (value : Value) (source : Source) :
    (∀ next, layers.set key value source = .ok next →
      setInPlace key value source layers = (.ok (), next) ∧
      (value.isNull = false →
        (∀ higher : Source, source.rank < higher.rank → (layers.bound key higher).isNull = true) →
          ∀ default, next.get key default = value) ∧
      (∀ other, Apart (keyPath key) (keyPath other) →
        ∀ default, next.get other default = layers.get other default) ∧
      ∀ other, other ≠ source → next.source? other = layers.source? other) ∧
    ∀ failure, layers.set key value source = .error failure →
      setInPlace key value source layers = (.error failure, layers) := by
  refine ⟨fun next done => ⟨?_, fun given free default => ?_, fun other apart default => ?_,
    fun other differ => source?_set_of_ne done differ⟩, fun failure failed => ?_⟩
  · rw [setInPlace_run, done]
  · have prevails : next.Prevails key source value := by
      refine ⟨bound_set_self done, given, fun {higher} above => ?_⟩
      have differ : higher ≠ source := fun same => Nat.lt_irrefl _ (same ▸ above)
      rw [bound, source?_set_of_ne done differ]
      exact free higher above
    exact prevails.get default
  · simp only [get, get?_eq, bound_set_of_apart done apart]
  · rw [setInPlace_run, failed]

/-- A policy that the command line sets is found above that of the user, and the scope is found as before; a
name below the scope cannot be set. -/
theorem lawful_layered : (∃ next,
    layered.set "classweaver.staging.policy" (.text "reuse") .commandLine = .ok next ∧
      next.get "classweaver.staging.policy" .null = .text "reuse" ∧
      next.get "classweaver.scope" .null = layered.get "classweaver.scope" .null ∧
      next.source? .userFile = layered.source? .userFile) ∧
    ∃ failure, layered.set "classweaver.scope.name" (.text "x") .defaults = .error failure ∧
      setInPlace "classweaver.scope.name" (.text "x") .defaults layered = (.error failure, layered) := by
  constructor
  · have done : (layered.set "classweaver.staging.policy" (.text "reuse") .commandLine).toOption.isSome =
        true := by decide +kernel
    cases set : layered.set "classweaver.staging.policy" (.text "reuse") .commandLine with
    | error failure =>
        rw [set] at done
        cases done
    | ok next =>
        obtain ⟨_, found, beside, others⟩ := (lawful_of_set layered _ _ _).1 next set
        refine ⟨next, rfl, found rfl (fun higher above => ?_) .null, beside _ ?_ .null, others _ nofun⟩
        · cases higher with
          | runtime => rfl
          | _ => exact absurd above (by decide)
        · exact ⟨by decide +kernel, by decide +kernel⟩
  · have failed : (layered.set "classweaver.scope.name" (.text "x") .defaults).toOption.isNone = true := by
      decide +kernel
    cases set : layered.set "classweaver.scope.name" (.text "x") .defaults with
    | error failure => exact ⟨failure, rfl, (lawful_of_set layered _ _ _).2 failure set⟩
    | ok next =>
        rw [set] at failed
        cases failed

end Layers

end Config
end ClassLoom
