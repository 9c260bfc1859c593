import ClassLoom.Proofs.Failing
import ClassLoom.Proofs.Files.Spelling
import ClassLoom.Transformer.Resolution

namespace ClassLoom
namespace Transformer

/-!
# How a specification fails

Whatever is wrong with a specification is a failure of the configuration: the name is unknown, the
module breaks, the member is missing, the class cannot be instantiated, or what has been found cannot
transform.  There is one exception.  An import path may name a module that is none, the empty one or
one that is relative to nothing, and the fault of importing it is let through.

So resolving fails as a configuration does if, and only if, the specification is no such path.
-/

variable {host : Host} {registry : Registry} {modules : List (String × Module)}
  {name module : String} {before : Workspace}

/-- A failure of the configuration of a transformer. -/
def IsConfiguration (failure : Failure) : Prop := failure.kind? = some .transformerConfig

/-- A text that names no module: it is empty, or relative to a package that is not given. -/
def IsNoModule (module : String) : Prop := module = "" ∨ ∃ rest, module.toList = '.' :: rest

/-! ## Modules -/

theorem dotted_of_empty : dotted "" = [""] := by decide

theorem dotted_of_dot {rest : List Char} (starts : module.toList = '.' :: rest) :
    ∃ second further, dotted module = "" :: second :: further := by
  obtain ⟨piece, others, pieces⟩ := List.exists_cons_of_ne_nil (Files.splitAt_ne_nil '.' rest)
  refine ⟨String.ofList piece, others.map String.ofList, ?_⟩
  rw [dotted, starts, Files.splitAt_cons_self, pieces]
  rfl

/-- The first segment of a text that does not start with a dot is not empty. -/
theorem dotted_of_proper (proper : ¬IsNoModule module) :
    ∃ first rest, dotted module = first :: rest ∧ first ≠ "" := by
  cases spelled : module.toList with
  | nil => exact absurd (.inl (String.toList_eq_nil_iff.mp spelled)) proper
  | cons c rest =>
      have plain : c ≠ '.' := by
        rintro rfl
        exact proper (.inr ⟨rest, spelled⟩)
      obtain ⟨piece, others, pieces⟩ := List.exists_cons_of_ne_nil (Files.splitAt_ne_nil '.' rest)
      refine ⟨String.ofList (c :: piece), others.map String.ofList, ?_, ?_⟩
      · rw [dotted, spelled, Files.splitAt, if_neg (by simpa using plain), pieces]
        rfl
      · intro empty
        have blank := congrArg String.toList empty
        rw [String.toList_ofList] at blank
        cases blank

/-- Importing what is no module is a fault of its own. -/
theorem importModule_of_isNoModule (modules : List (String × Module)) (none : IsNoModule module) :
    ∃ failure, importModule modules module = .error failure ∧
      ∀ complaint, failure ≠ .failed complaint := by
  rcases none with rfl | ⟨rest, starts⟩
  · refine ⟨.nameless, ?_, nofun⟩
    rw [importModule, dotted_of_empty]
    rfl
  · obtain ⟨second, further, split⟩ := dotted_of_dot starts
    refine ⟨.relative, ?_, nofun⟩
    rw [importModule, split]
    rfl

/-- Importing a module fails with a complaint, if it fails. -/
theorem failed_of_importModule (proper : ¬IsNoModule module) {failure : ImportFailure}
    (refused : importModule modules module = .error failure) :
    ∃ complaint, failure = .failed complaint := by
  obtain ⟨first, rest, split, filled⟩ := dotted_of_proper proper
  unfold importModule at refused
  rw [split] at refused
  split at refused
  next nothing => cases nothing
  next blank => exact absurd (List.cons.inj blank).1 filled
  next blank => exact absurd (List.cons.inj blank).1 filled
  next whole =>
    split at refused
    · exact ⟨_, (Except.error.inj refused).symm⟩
    · exact ⟨_, (Except.error.inj refused).symm⟩
    · cases refused
    · exact ⟨_, (Except.error.inj refused).symm⟩

/-! ## Names -/

/-- A name that is taken for an import path, as it is neither registered nor installed, and the module
in which it is looked for. -/
structure ImportsFrom (registry : Registry) (name module : String) : Prop where
  unregistered : registry.plugins.lookup name = none
  uninstalled : registry.entryPoints.find? (·.name == name) = none
  split : ∃ names, splitImport name = some (module, names)

theorem ImportsFrom.lookup_eq (imports : ImportsFrom registry name module) :
    lookup registry name = importPlugin registry name := by
  rw [lookup, imports.unregistered]
  simp only
  rw [imports.uninstalled]

/-- Looking up a name fails as a configuration does, or because of a module that is none. -/
theorem lookup_error {failure : Failure} (refused : lookup registry name = .error failure) :
    IsConfiguration failure ∨ ∃ module, ImportsFrom registry name module ∧ IsNoModule module := by
  unfold lookup at refused
  split at refused
  · cases refused
  next unregistered =>
    split at refused
    · split at refused
      · cases refused
      · obtain rfl := Except.error.inj refused
        exact .inl rfl
    next uninstalled =>
      unfold importPlugin at refused
      split at refused
      · obtain rfl := Except.error.inj refused
        exact .inl rfl
      next module names split =>
        by_cases none : IsNoModule module
        · exact .inr ⟨module, ⟨unregistered, uninstalled, names, split⟩, none⟩
        · left
          split at refused
          · obtain rfl := Except.error.inj refused
            rfl
          next failed unnamed broken =>
            obtain ⟨complaint, same⟩ := failed_of_importModule none broken
            exact absurd same (unnamed complaint)
          · split at refused
            · cases refused
            · obtain rfl := Except.error.inj refused
              rfl

/-- A module that is none makes looking up a name a fault. -/
theorem lookup_of_isNoModule (imports : ImportsFrom registry name module) (none : IsNoModule module) :
    ∃ fault, lookup registry name = .error (.fault fault) := by
  obtain ⟨names, split⟩ := imports.split
  obtain ⟨failure, refused, unnamed⟩ := importModule_of_isNoModule registry.modules none
  refine ⟨failure.fault, ?_⟩
  rw [imports.lookup_eq, importPlugin, split]
  simp only
  rw [refused]
  cases failure with
  | failed complaint => exact absurd rfl (unnamed complaint)
  | nameless => rfl
  | relative => rfl

/-! ## Specifications -/

/-- A host whose classes, when they are instantiated, raise nothing but ordinary failures. -/
def Host.ConstructsOrdinarily (host : Host) : Prop :=
  ∀ procedure : Nat, FailsAs (fun failure => failure.isOrdinary = true) (host.construct procedure)

theorem configured_wrap (plugin : Plugin) (name : Option String) :
    Outcome.FailsAs IsConfiguration (wrap plugin name) := by
  unfold wrap
  split
  · exact Outcome.failsAs_ok _
  · exact Outcome.failsAs_ok _
  · exact Outcome.failsAs_ok _
  · exact Outcome.failsAs_error rfl

/-- Whatever instantiating a class raises is told as a failure of the configuration. -/
theorem configured_instantiate (ordinary : Host.ConstructsOrdinarily host) (plugin : Plugin)
    (name : Option String) : FailsAs IsConfiguration (instantiate host plugin name) := by
  unfold instantiate
  split
  next procedure complaint made _ =>
    have recasts {work : Work Unit} (fails : FailsAs (fun failure => failure.isOrdinary = true) work) :
        FailsAs IsConfiguration (Work.recast (fun failure =>
          if failure.isOrdinary then some (.notInstantiable (name.getD "None") failure) else none) work) := by
      refine fails.recast fun failure usual => ?_
      rw [if_pos usual]
      rfl
    have complains : ∀ text, FailsAs (fun failure => failure.isOrdinary = true)
        (throw (.fault (.wrongType text)) : Work Unit) := fun text => .throw rfl
    refine FailsAs.bind (recasts ?_) fun _ => .ofOutcome (configured_wrap _ name)
    cases procedure with
    | some procedure =>
        apply (ordinary procedure).bind
        intro _
        cases complaint with
        | some text => exact complains text
        | none => exact .pure ()
    | none =>
        cases complaint with
        | some text => exact complains text
        | none => exact .pure ()
  · exact .ofOutcome (configured_wrap _ name)

/-- Resolving a specification fails as a configuration does, whatever the specification is and whatever
is registered and installed, unless it is an import path that names no module.  Such a path always fails
in another way. -/
theorem resolve_configured_iff (ordinary : Host.ConstructsOrdinarily host) (spec : Option Plugin)
    (before : Workspace) :
    (∀ failure, (resolve host spec before).1 = .error failure → IsConfiguration failure) ↔
      ∀ name module, spec = some (.text name) → ImportsFrom before.registry name module →
        ¬IsNoModule module := by
  constructor
  · rintro configured name module rfl imports none
    obtain ⟨fault, refused⟩ := lookup_of_isNoModule imports none
    have named : name ≠ "" := by
      rintro rfl
      obtain ⟨_, split⟩ := imports.split
      cases split
    have run : (resolve host (some (.text name)) before).1 = .error (.fault fault) := by
      rw [resolve, get_bind, run_bind, refused]
      · rfl
      · exact named
    cases configured _ run
  · intro proper failure run
    have instantiated {plugin : Plugin} {name : Option String} {state : Workspace}
        (refused : (instantiate host plugin name state).1 = .error failure) : IsConfiguration failure :=
      configured_instantiate ordinary plugin name (Prod.ext refused rfl)
    unfold resolve at run
    split at run
    · obtain rfl := Except.error.inj run
      rfl
    · cases run
    · obtain rfl := Except.error.inj run
      rfl
    next name named =>
      rw [get_bind, run_bind] at run
      cases looked : lookup before.registry name with
      | error cause =>
          rw [looked] at run
          obtain rfl := Except.error.inj run
          rcases lookup_error looked with configured | ⟨module, imports, none⟩
          · exact configured
          · exact absurd none (proper name module rfl imports)
      | ok plugin =>
          rw [looked] at run
          exact instantiated run
    · exact instantiated run

/-- The empty module is reached by a colon only; without one, no module is looked for. -/
example : splitImport ":Marker" = some ("", ["Marker"]) ∧ splitImport ".Marker" = none := by decide

end Transformer
end ClassLoom
