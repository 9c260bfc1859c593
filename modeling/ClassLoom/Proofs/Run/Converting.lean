import ClassLoom.Proofs.Config.Validating
import ClassLoom.Run.Command

namespace ClassLoom
namespace Run

/-!
# From a section to a run

Validation and the conversion for a run treat null, empty and missing values each in their own way.
Whatever validation lets through can be converted: nothing that a run reads from a section fails, the names
in it are those of members, and the paths are texts that can be used.
-/

open Config (Value NullOr IsPathText IsClasspath)
open Pattern (PathFilter)

/-- What a run makes of a section. -/
structure Converts (options : Value) (staging : StagingOptions) (request : Request) (filter : PathFilter) :
    Prop where
  staged : stagingOptions options = .ok staging
  requested : Request.ofSection options = .ok request
  filtered : PathFilter.ofSetting (option options Config.filterKey) = .ok filter
  failFast : ∃ truth, failFast options = .boolean truth
  scope : option options Config.scopeKey = .null ∧ request.scope = .main ∨
    option options Config.scopeKey = .text request.scope.name
  policy : option (option options Config.stagingKey) Config.policyKey = .null ∧ staging.policy = .reuse ∨
    option (option options Config.stagingKey) Config.policyKey = .text staging.policy.name
  /-- The elements of both classpaths. -/
  classpaths : ∀ key ∈ [Config.classpathKey, Config.testClasspathKey],
    ∃ items, givenItems (option options key) = .ok items ∧ ∀ item ∈ items, IsPathText item
  /-- The classpath of a build run, which is the output itself if none is given. -/
  elements : ∃ items, request.elements = .ok items ∧ ∀ item ∈ items, IsPathText item
  /-- The output of the scope, if it is set. -/
  target : NullOr IsPathText request.target

section Values

variable {value : Value}

theorem isTruthy_of_isPathText (path : IsPathText value) : value.isTruthy = true := by
  obtain ⟨text, rfl, given, -⟩ := path
  exact bne_iff_ne.2 given

theorem givenItems_of_isClasspath (classpath : NullOr IsClasspath value) :
    ∃ items, givenItems value = .ok items ∧ ∀ item ∈ items, IsPathText item := by
  rcases classpath with rfl | ⟨elements, kind, paths⟩
  · exact ⟨[], rfl, nofun⟩
  · unfold givenItems
    split
    · exact ⟨elements, by rcases kind with rfl | rfl <;> rfl, paths⟩
    · exact ⟨[], rfl, nofun⟩

/-- A setting that is null is read as the default, and the name of a member as that member. -/
theorem memberOf_of_nullOr {α : Type} (known : String → Option α) {name : α → String}
    (enumeration : String) (default : α) (spells : ∀ member, known (name member) = some member)
    (given : ∀ member, name member ≠ "")
    (setting : NullOr (fun value => ∃ member, value = .text (name member)) value) :
    ∃ member, memberOf known enumeration default value = .ok member ∧
      (value = .null ∧ member = default ∨ value = .text (name member)) := by
  rcases setting with rfl | ⟨member, rfl⟩
  · exact ⟨default, rfl, .inl ⟨rfl, rfl⟩⟩
  · have truthy : (Value.text (name member)).isTruthy = true := bne_iff_ne.2 (given member)
    refine ⟨member, ?_, .inr rfl⟩
    rw [memberOf, if_pos truthy]
    simp only [Value.text?, Option.bind_some, spells]

theorem ofSetting_of_compiles
    (compiles : NullOr (fun value => ∃ reading, Pattern.compileValue value = .ok reading) value) :
    ∃ filter, PathFilter.ofSetting value = .ok filter := by
  rcases compiles with rfl | ⟨reading, compiled⟩
  · exact ⟨_, rfl⟩
  · unfold PathFilter.ofSetting
    split
    · unfold PathFilter.ofValue
      split
      · exact ⟨_, rfl⟩
      · rw [compiled]
        exact ⟨_, rfl⟩
    · exact ⟨_, rfl⟩

end Values

theorem stagingOptions_of_accepted {options : Config.Mapping} (accepted : Config.Accepted options) :
    ∃ staging, stagingOptions (.mapping options) = .ok staging ∧
      (option (option (.mapping options) Config.stagingKey) Config.policyKey = .null ∧
          staging.policy = .reuse ∨
        option (option (.mapping options) Config.stagingKey) Config.policyKey =
          .text staging.policy.name) := by
  generalize held : option (.mapping options) Config.stagingKey = setting
  obtain ⟨entries, given, reads, policy⟩ : ∃ entries : Config.Mapping,
      (if setting.isTruthy then setting else .mapping []) = .mapping entries ∧
      option setting Config.policyKey = Value.field entries Config.policyKey ∧
      NullOr (fun value => ∃ policy : Config.StagingPolicy, value = .text policy.name)
        (Value.field entries Config.policyKey) := by
    rw [← held, option, Value.field]
    cases bound : Value.field? options Config.stagingKey with
    | none => exact ⟨[], rfl, rfl, .inl rfl⟩
    | some value =>
      obtain ⟨staging, rfl, settings⟩ := accepted.staging value bound
      refine ⟨staging, ?_, rfl, settings.policy⟩
      rw [Option.getD_some]
      cases staging <;> rfl
  obtain ⟨policy, named, chosen⟩ := memberOf_of_nullOr Config.StagingPolicy.ofName? "StagingPolicy"
    .reuse (by rintro (_ | _) <;> rfl) (by rintro (_ | _) <;> decide) policy
  refine ⟨⟨policy, (Value.field entries Config.cleanAfterKey).isTruthy⟩, ?_, ?_⟩
  · rw [stagingOptions, held]
    simp only [given, named]
    rfl
  · rw [← reads] at chosen
    exact chosen

/-- Without elements the output is taken for the classpath, if there is one. -/
theorem exists_elements {given : List Value} {target : Value} (each : ∀ item ∈ given, IsPathText item)
    (output : NullOr IsPathText target) :
    ∃ items, (if (Value.list given).isTruthy then itemsOf (.list given)
      else .ok (if target.isTruthy then [target] else [])) = .ok items ∧
        ∀ item ∈ items, IsPathText item := by
  split
  · exact ⟨given, rfl, each⟩
  · refine ⟨_, rfl, fun item among => ?_⟩
    rcases output with rfl | path
    · cases among
    · rw [if_pos (isTruthy_of_isPathText path), List.mem_singleton] at among
      exact among ▸ path

/-- Whatever is accepted can be converted. -/
theorem converts_of_accepted {options : Config.Mapping} (accepted : Config.Accepted options) :
    ∃ staging request filter, Converts (.mapping options) staging request filter := by
  obtain ⟨staging, staged, policy⟩ := stagingOptions_of_accepted accepted
  obtain ⟨filter, filtered⟩ := ofSetting_of_compiles accepted.filter
  obtain ⟨classpath, here, paths⟩ := givenItems_of_isClasspath accepted.classpath
  obtain ⟨testClasspath, there, testPaths⟩ := givenItems_of_isClasspath accepted.testClasspath
  obtain ⟨scope, named, chosen⟩ := memberOf_of_nullOr Config.Scope.ofName? "Scope" .main
    (by rintro (_ | _) <;> rfl) (by rintro (_ | _) <;> decide) accepted.scope
  have requested : Request.ofSection (.mapping options) = .ok ⟨Value.field options Config.outputKey,
      Value.field options Config.testOutputKey, Value.field options Config.filterKey,
      Value.field options Config.transformerKey, .list classpath, .list testClasspath, scope⟩ := by
    simp only [Request.ofSection, here, there, named]
    rfl
  have failFast : ∃ truth, failFast (.mapping options) = .boolean truth := by
    unfold Run.failFast
    rcases accepted.failFast with null | ⟨truth, same⟩
    · exact ⟨true, by rw [option, null]⟩
    · exact ⟨truth, by rw [option, same]⟩
  have classpaths : ∀ key ∈ [Config.classpathKey, Config.testClasspathKey], ∃ items,
      givenItems (option (.mapping options) key) = .ok items ∧ ∀ item ∈ items, IsPathText item := by
    rw [List.forall_mem_cons, List.forall_mem_singleton]
    exact ⟨⟨classpath, here, paths⟩, testClasspath, there, testPaths⟩
  refine ⟨staging, _, filter, staged, requested, filtered, failFast, chosen, policy, classpaths, ?_, ?_⟩
  · cases scope with
    | main => exact exists_elements paths accepted.output
    | test => exact exists_elements testPaths accepted.testOutput
  · cases scope with
    | main => exact accepted.output
    | test => exact accepted.testOutput

/-- A section that has been validated can be run: the staging options, the value of stopping at the first
failure, the request and the filter are all there, the scope and the policy are what the section names or
the default, and every path is a text that can be used. -/
theorem converts_of_validated {layers : Config.Layers} {options : Value}
    (valid : layers.validated = .ok options) :
    ∃ staging request filter, Converts options staging request filter := by
  obtain ⟨_, options, rfl, accepted⟩ := Config.Layers.accepted_of_validated valid
  exact converts_of_accepted accepted

/-- The defaults, with a filter, a staging policy and the test classes of a project in the file of the user. -/
def configured : Config.Layers :=
  Config.Layers.initial.load .userFile (.ofFields [(Config.sectionName, .ofFields [
    (Config.filterKey, .text "Entity"), (Config.scopeKey, .text "test"),
    (Config.testOutputKey, .text "build/test"), (Config.testClasspathKey, .list [.text "lib/a.jar"]),
    (Config.stagingKey, .ofFields [(Config.policyKey, .text "clean")])])])

theorem converts_configured : ∃ options, configured.validated = .ok options ∧
    ∃ staging request filter, Converts options staging request filter := by
  have accepted : configured.validated.toOption.isSome = true := by decide +kernel
  cases valid : configured.validated with
  | ok options => exact ⟨options, rfl, converts_of_validated valid⟩
  | error failure =>
    rw [valid] at accepted
    cases accepted

end Run
end ClassLoom
