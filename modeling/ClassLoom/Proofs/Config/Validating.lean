import ClassLoom.Proofs.Config.Naming
import ClassLoom.Proofs.Config.Precedence
import ClassLoom.Proofs.Pattern.Refusing

namespace ClassLoom
namespace Config

/-!
# What validation refuses and what it accepts

The merged section is checked twice: its shape against a schema, its values one by one.  A check that
fails names what is wrong with the configuration.  One fault goes through all the same, that of a filter
which cannot be compiled and is not refused as a pattern.

What a check accepts is told beside it, value by value.  A value may also be null, except for the staging
options, which are left out or are a mapping.
-/

open Value
open Pattern (compile compileValue)

/-! ## Refusals -/

/-- Invalid input. -/
abbrev Invalid (failure : Failure) : Prop := failure.kind? = some .validation

/-- A configuration of the wrong shape. -/
abbrev Misshapen (failure : Failure) : Prop := failure.kind? = some .config

section Refusals

variable {kind : Failure → Prop}

theorem failsAs_refuse {α : Type} (cause : InvalidInput) : (refuse cause : Outcome α).FailsAs Invalid :=
  Outcome.failsAs_error rfl

theorem failsAs_checkPath (value : Value) : (checkPath value).FailsAs Invalid := by
  unfold checkPath
  split
  · exact failsAs_refuse _
  split
  · unfold checkPathText
    split
    · exact failsAs_refuse _
    split
    · exact failsAs_refuse _
    split
    · exact failsAs_refuse _
    · exact Outcome.failsAs_ok ()
  · exact failsAs_refuse _

theorem failsAs_inElement {α : Type} {outcome : Outcome α} (name : InvalidInput → InvalidInput)
    (fails : outcome.FailsAs Invalid) : (inElement name outcome).FailsAs Invalid := by
  unfold inElement
  split
  · exact failsAs_refuse _
  · exact fails

theorem failsAs_checkElements (position : Nat) (elements : List Value) :
    (checkElements position elements).FailsAs Invalid := by
  induction elements generalizing position with
  | nil => exact Outcome.failsAs_ok ()
  | cons element rest inductionHypothesis =>
      exact (failsAs_inElement _ (failsAs_checkPath element)).bind fun _ => inductionHypothesis _

theorem failsAs_checkClasspath (value : Value) : (checkClasspath value).FailsAs Invalid := by
  unfold checkClasspath
  split
  · exact failsAs_checkElements _ _
  · exact failsAs_checkElements _ _
  · exact failsAs_refuse _

theorem failsAs_unlessNull {check : Value → Outcome Unit} {value : Value}
    (fails : (check value).FailsAs kind) : (unlessNull check value).FailsAs kind := by
  unfold unlessNull
  split
  · exact Outcome.failsAs_ok ()
  · exact fails

theorem failsAs_checkBoolean (complaint : Value → InvalidInput) (value : Value) :
    (checkBoolean complaint value).FailsAs Invalid := by
  unfold checkBoolean
  split
  · exact Outcome.failsAs_ok ()
  · exact failsAs_refuse _

theorem failsAs_checkName {α : Type} (known : String → Option α) (complaint : Value → InvalidInput)
    (value : Value) : (checkName known complaint value).FailsAs Invalid := by
  unfold checkName
  split
  · split
    · exact Outcome.failsAs_ok ()
    · exact failsAs_refuse _
  · exact failsAs_refuse _

theorem failsAs_checkStaging (value : Value) : (checkStaging value).FailsAs Invalid := by
  unfold checkStaging
  split
  · exact (failsAs_unlessNull (failsAs_checkName _ _ _)).bind fun _ =>
      failsAs_unlessNull (failsAs_checkBoolean _ _)
  · exact failsAs_refuse _

/-- The values of a section are refused as invalid input; what else may happen is up to the filter. -/
theorem failsAs_checkSection {options : Mapping} (invalid : ∀ failure, Invalid failure → kind failure)
    (compiles : ∀ pattern, field options filterKey = .text pattern → (compile pattern).FailsAs kind) :
    (checkSection (.mapping options)).FailsAs kind := by
  have filters : (compileValue (field options filterKey)).FailsAs kind := by
    unfold compileValue
    split
    next pattern given => exact compiles pattern given
    next => exact (failsAs_refuse _).mono invalid
  have paths (key : String) : (unlessNull checkPath (field options key)).FailsAs Invalid :=
    failsAs_unlessNull (failsAs_checkPath _)
  have classpaths (key name : String) : (inElement (.invalidClasspath name)
      (unlessNull checkClasspath (field options key))).FailsAs Invalid :=
    failsAs_inElement _ (failsAs_unlessNull (failsAs_checkClasspath _))
  unfold checkSection
  refine ((failsAs_unlessNull (failsAs_checkTransformer _)).mono invalid).bind fun _ => ?_
  refine (failsAs_unlessNull (filters.map _)).bind fun _ => ?_
  refine Outcome.FailsAs.mono ?_ invalid
  refine (failsAs_unlessNull (failsAs_checkBoolean _ _)).bind fun _ => ?_
  refine (failsAs_unlessNull (failsAs_checkName _ _ _)).bind fun _ => ?_
  refine (paths _).bind fun _ => (paths _).bind fun _ => ?_
  refine (classpaths _ _).bind fun _ => (classpaths _ _).bind fun _ => ?_
  split
  · exact failsAs_checkStaging _
  · exact Outcome.failsAs_ok ()

mutual

/-- A value that does not have the kind or the fields asked for is misshapen. -/
theorem failsAs_check (path : String) (value : Value) : ∀ schema : Schema,
    (schema.check path value).FailsAs Misshapen
  | .kinds names => by
    unfold Schema.check
    split
    · exact Outcome.failsAs_ok ()
    · exact Outcome.failsAs_error rfl
  | .fields entries => by
    unfold Schema.check
    split
    · exact failsAs_checkFields _ _ entries
    · exact Outcome.failsAs_error rfl

theorem failsAs_checkFields (path : String) (options : Mapping) : ∀ entries : List (String × Schema),
    (checkFields path options entries).FailsAs Misshapen
  | [] => Outcome.failsAs_ok ()
  | (name, schema) :: rest => by
    unfold checkFields
    simp only
    split
    · exact (Outcome.failsAs_ok ()).bind fun _ => failsAs_checkFields path options rest
    · exact (failsAs_check _ _ schema).bind fun _ => failsAs_checkFields path options rest

end

end Refusals

namespace Layers

variable {layers : Layers}

/-- How validation can fail. -/
inductive Unvalidated (layers : Layers) : Failure → Prop
  | misshapen {failure : Failure} (shape : Misshapen failure) : Unvalidated layers failure
  | invalid {failure : Failure} (value : Invalid failure) : Unvalidated layers failure
  | filter {options : Mapping} {pattern : String} {failure : Failure}
      (merges : layers.mergedSection = .ok (.mapping options))
      (given : field options filterKey = .text pattern) (uncompiled : compile pattern = .error failure) :
      Unvalidated layers failure

/-- Validation fails for the shape of the configuration or for a value in it, or for what compiling its
filter fails for. -/
theorem failsAs_validated (mappings : ∀ tree ∈ layers.ordered, tree.isMapping = true) :
    layers.validated.FailsAs layers.Unvalidated := by
  obtain ⟨whole, merges, -⟩ := merged_eq mappings
  have shapes : (layers.checkSchema sectionSchema).FailsAs layers.Unvalidated := by
    rw [checkSchema, merges]
    exact (failsAs_checkFields _ _ _).mono fun _ => .misshapen
  have merged : layers.mergedSection.FailsAs layers.Unvalidated := by
    rw [mergedSection, merges]
    exact Outcome.failsAs_ok _
  refine shapes.bind fun _ => ?_
  cases here : layers.mergedSection with
  | error failure => exact Outcome.failsAs_error (merged here)
  | ok options =>
    suffices checks : (checkSection options).FailsAs layers.Unvalidated from
      checks.bind fun _ => Outcome.failsAs_ok options
    cases options with
    | mapping options =>
      exact failsAs_checkSection (fun _ => .invalid) fun pattern given failure uncompiled =>
        .filter here given uncompiled
    | _ => exact (failsAs_refuse _).mono fun _ => .invalid

/-- A filter that counts no repetition too far and sets no flags is accepted or refused as such, so that
validation fails for the configuration alone. -/
theorem configuration_of_validated {failure : Failure}
    (mappings : ∀ tree ∈ layers.ordered, tree.isMapping = true)
    (modest : ∀ options pattern, layers.mergedSection = .ok (.mapping options) →
      field options filterKey = .text pattern →
        ¬ Pattern.CountsTooFar pattern ∧ ¬ ['(', '?'] <:+: pattern.toList)
    (fails : layers.validated = .error failure) : Misshapen failure ∨ Invalid failure := by
  cases failsAs_validated mappings fails with
  | misshapen shape => exact .inl shape
  | invalid value => exact .inr value
  | filter merges given uncompiled =>
    obtain ⟨few, unflagged⟩ := modest _ _ merges given
    obtain ⟨cause, rfl⟩ := Pattern.refused_of_compile few unflagged uncompiled
    exact .inr rfl

end Layers

/-! ## What is accepted -/

/-- Null, or a value that is accepted. -/
def NullOr (accepted : Value → Prop) (value : Value) : Prop := value = .null ∨ accepted value

/-- The text of a path: not empty, not too long, and without control characters, which are those below the
blank. -/
def IsPathText (value : Value) : Prop :=
  ∃ path, value = .text path ∧ path ≠ "" ∧ path.length ≤ InvalidInput.longestText ∧
    ∀ c ∈ path.toList, 32 ≤ c.toNat

/-- The elements of a classpath. -/
def IsClasspath (value : Value) : Prop :=
  ∃ elements, (value = .list elements ∨ value = .tuple elements) ∧
    ∀ element ∈ elements, IsPathText element

section Acceptance

variable {value : Value}

theorem nullOr_of_unlessNull {check : Value → Outcome Unit} {accepted : Value → Prop}
    (accepts : check value = .ok () → accepted value) (done : unlessNull check value = .ok ()) :
    NullOr accepted value := by
  unfold unlessNull at done
  split at done
  · exact .inl rfl
  · exact .inr (accepts done)

theorem ok_of_inElement {α : Type} {name : InvalidInput → InvalidInput} {outcome : Outcome α} {answer : α}
    (done : inElement name outcome = .ok answer) : outcome = .ok answer := by
  unfold inElement at done
  split at done
  · cases done
  · exact done

theorem isPathText_of_checkPath (done : checkPath value = .ok ()) : IsPathText value := by
  unfold checkPath at done
  split at done
  · cases done
  next given =>
    split at done
    next path =>
      unfold checkPathText at done
      split at done
      · cases done
      next short =>
        split at done
        · cases done
        split at done
        · cases done
        next plain =>
          refine ⟨path, rfl, ?_, Nat.not_lt.1 short, ?_⟩
          · rintro rfl
            exact given rfl
          · intro c among
            exact Nat.not_lt.1 fun low => plain (List.any_eq_true.2 ⟨c, among, decide_eq_true low⟩)
    next => cases done

theorem isPathText_of_checkElements {position : Nat} {elements : List Value}
    (done : checkElements position elements = .ok ()) : ∀ element ∈ elements, IsPathText element := by
  induction elements generalizing position with
  | nil => exact nofun
  | cons element rest inductionHypothesis =>
      obtain ⟨_, first, others⟩ := Outcome.ok_of_bind done
      exact List.forall_mem_cons.2
        ⟨isPathText_of_checkPath (ok_of_inElement first), inductionHypothesis others⟩

theorem isClasspath_of_checkClasspath (done : checkClasspath value = .ok ()) : IsClasspath value := by
  unfold checkClasspath at done
  split at done
  next elements => exact ⟨elements, .inl rfl, isPathText_of_checkElements done⟩
  next elements => exact ⟨elements, .inr rfl, isPathText_of_checkElements done⟩
  next => cases done

theorem boolean_of_checkBoolean {complaint : Value → InvalidInput}
    (done : checkBoolean complaint value = .ok ()) : ∃ truth, value = .boolean truth := by
  unfold checkBoolean at done
  split at done
  next truth => exact ⟨truth, rfl⟩
  next => cases done

theorem known_of_checkName {α : Type} {known : String → Option α} {complaint : Value → InvalidInput}
    (done : checkName known complaint value = .ok ()) :
    ∃ name member, value = .text name ∧ known name = some member := by
  unfold checkName at done
  split at done
  next name =>
    split at done
    next isKnown =>
      obtain ⟨member, same⟩ := Option.isSome_iff_exists.1 isKnown
      exact ⟨name, member, rfl, same⟩
    next => cases done
  next => cases done

end Acceptance

/-- A staging section whose values are accepted. -/
structure StagingAccepted (staging : Mapping) : Prop where
  policy : NullOr (fun value => ∃ policy : StagingPolicy, value = .text policy.name) (field staging policyKey)
  cleanAfter : NullOr (fun value => ∃ truth, value = .boolean truth) (field staging cleanAfterKey)

/-- A section whose values are accepted. -/
structure Accepted (options : Mapping) : Prop where
  filter : NullOr (fun value => ∃ reading, compileValue value = .ok reading) (field options filterKey)
  failFast : NullOr (fun value => ∃ truth, value = .boolean truth) (field options failFastKey)
  scope : NullOr (fun value => ∃ scope : Scope, value = .text scope.name) (field options scopeKey)
  output : NullOr IsPathText (field options outputKey)
  testOutput : NullOr IsPathText (field options testOutputKey)
  classpath : NullOr IsClasspath (field options classpathKey)
  testClasspath : NullOr IsClasspath (field options testClasspathKey)
  staging : ∀ value, field? options stagingKey = some value →
    ∃ staging, value = .mapping staging ∧ StagingAccepted staging

theorem policy_of_ofName? {name : String} {policy : StagingPolicy}
    (known : StagingPolicy.ofName? name = some policy) : name = policy.name := by
  unfold StagingPolicy.ofName? at known
  split at known <;> cases known <;> rfl

theorem scope_of_ofName? {name : String} {scope : Scope} (known : Scope.ofName? name = some scope) :
    name = scope.name := by
  unfold Scope.ofName? at known
  split at known <;> cases known <;> rfl

theorem accepted_of_checkStaging {value : Value} (done : checkStaging value = .ok ()) :
    ∃ staging, value = .mapping staging ∧ StagingAccepted staging := by
  unfold checkStaging at done
  split at done
  next staging =>
    obtain ⟨_, policy, cleanAfter⟩ := Outcome.ok_of_bind done
    refine ⟨staging, rfl, ?_, nullOr_of_unlessNull boolean_of_checkBoolean cleanAfter⟩
    refine nullOr_of_unlessNull (fun named => ?_) policy
    obtain ⟨name, policy, same, known⟩ := known_of_checkName named
    exact ⟨policy, policy_of_ofName? known ▸ same⟩
  next => cases done

theorem accepted_of_checkSection {whole : Value} (done : checkSection whole = .ok ()) :
    ∃ options, whole = .mapping options ∧ Accepted options := by
  unfold checkSection at done
  split at done
  next options =>
    obtain ⟨_, _, done⟩ := Outcome.ok_of_bind done
    obtain ⟨_, filter, done⟩ := Outcome.ok_of_bind done
    obtain ⟨_, failFast, done⟩ := Outcome.ok_of_bind done
    obtain ⟨_, scope, done⟩ := Outcome.ok_of_bind done
    obtain ⟨_, output, done⟩ := Outcome.ok_of_bind done
    obtain ⟨_, testOutput, done⟩ := Outcome.ok_of_bind done
    obtain ⟨_, classpath, done⟩ := Outcome.ok_of_bind done
    obtain ⟨_, testClasspath, staging⟩ := Outcome.ok_of_bind done
    refine ⟨options, rfl, ⟨?_, nullOr_of_unlessNull boolean_of_checkBoolean failFast, ?_,
      nullOr_of_unlessNull isPathText_of_checkPath output,
      nullOr_of_unlessNull isPathText_of_checkPath testOutput,
      nullOr_of_unlessNull isClasspath_of_checkClasspath (ok_of_inElement classpath),
      nullOr_of_unlessNull isClasspath_of_checkClasspath (ok_of_inElement testClasspath), ?_⟩⟩
    · refine nullOr_of_unlessNull (fun compiled => ?_) filter
      rcases here : compileValue (field options filterKey) with failure | reading
      · rw [here] at compiled
        cases compiled
      · exact ⟨reading, rfl⟩
    · refine nullOr_of_unlessNull (fun named => ?_) scope
      obtain ⟨name, scope, same, known⟩ := known_of_checkName named
      exact ⟨scope, scope_of_ofName? known ▸ same⟩
    · intro value bound
      rw [bound] at staging
      exact accepted_of_checkStaging staging
  next => cases done

/-- What validation answers is the merged section, and its values are accepted. -/
theorem Layers.accepted_of_validated {layers : Layers} {whole : Value} (valid : layers.validated = .ok whole) :
    layers.mergedSection = .ok whole ∧ ∃ options, whole = .mapping options ∧ Accepted options := by
  obtain ⟨_, _, further⟩ := Outcome.ok_of_bind valid
  obtain ⟨merged, merges, further⟩ := Outcome.ok_of_bind further
  obtain ⟨_, checked, same⟩ := Outcome.ok_of_bind further
  cases same
  exact ⟨merges, accepted_of_checkSection checked⟩

end Config
end ClassLoom
