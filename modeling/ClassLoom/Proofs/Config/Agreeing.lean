import ClassLoom.CommandLine.Arguments
import ClassLoom.Proofs.Config.Setting
import ClassLoom.Proofs.Config.Variables
import ClassLoom.Proofs.Failing

namespace ClassLoom
namespace Config

/-!
# An option and its variable

Some options of the command for compiled classes can be given in two ways.  What stands on the command line is
taken as it is, except that the elements of a classpath are cut at the colons.  The name of a variable is taken
apart for the path of the option, and the last name of that path decides what becomes of the text.  The two ways
come to the same value in the section, whatever the text looks like; and the elements of a classpath come to the
same list as one text of all of them with colons between.
-/

open CommandLine (Arguments classpathOf)
open Files (FileTree)
open Value

/-! ## What is laid over a tree -/

/-- Mappings with distinct keys lead to a path. -/
def Value.Entered : Value → List String → Prop
  | _, [] => True
  | .mapping entries, name :: rest =>
    (entries.Pairwise fun a b => sameKey a.1 b.1 = false) ∧ (field entries name).Entered rest
  | _, _ :: _ => False

/-- At a path that the upper tree enters, nothing in the lower one is in the way. -/
theorem valueAt_overlaid_of_entered {base upper : Value} {path : List String}
    (entered : upper.Entered path) :
    valueAt (overlaid base upper) path = overlaid (valueAt base path) (valueAt upper path) := by
  induction path generalizing base upper with
  | nil => rfl
  | cons name rest inductionHypothesis =>
      cases upper with
      | mapping entries =>
          obtain ⟨differ, below⟩ := entered
          cases base with
          | mapping old =>
              rw [overlaid, valueAt_mapping_cons, field_mergeMapping differ, inductionHypothesis below,
                ← valueAt_mapping_cons, ← valueAt_mapping_cons]
          | _ => exact (overlaid_null_left _).symm
      | _ => cases entered

theorem valueAt_of_outline {tree held : Value} {path : List String}
    (stands : tree.outline path = some held) (plain : held.isMapping = false) : valueAt tree path = held := by
  induction path generalizing tree with
  | nil =>
      cases tree with
      | mapping entries =>
          obtain rfl := Option.some.inj stands
          cases plain
      | _ => exact Option.some.inj stands
  | cons name rest inductionHypothesis =>
      cases tree with
      | mapping entries =>
          obtain ⟨value, bound, below⟩ := Option.bind_eq_some_iff.1 stands
          rw [valueAt, bound]
          exact inductionHypothesis below
      | _ => cases stands

theorem entered_of_outline {tree held : Value} {path : List String}
    (distinct : tree.hasDistinctKeys = true) (stands : tree.outline path = some held) : tree.Entered path := by
  induction path generalizing tree with
  | nil => cases tree <;> trivial
  | cons name rest inductionHypothesis =>
      cases tree with
      | mapping entries =>
          obtain ⟨value, bound, below⟩ := Option.bind_eq_some_iff.1 stands
          have held : field entries name = value := by rw [field, bound]; rfl
          refine ⟨pairwise_of_distinctEntries distinct, ?_⟩
          exact inductionHypothesis (hasDistinctKeys_field distinct name) (by rw [held]; exact below)
      | _ => cases stands

theorem entered_ofFields {fields : List (String × Value)} (distinct : (fields.map (·.1)).Nodup) {name : String}
    {rest : List String} (below : (valueAt (.ofFields fields) [name]).Entered rest) :
    (Value.ofFields fields).Entered (name :: rest) := by
  constructor
  · refine List.pairwise_map.2 ((List.pairwise_map.1 distinct).imp fun {a b} differ => ?_)
    exact beq_eq_false_iff_ne.2 differ
  · rwa [Value.ofFields, valueAt_mapping_cons, valueAt_nil] at below

/-! ## The sources of a configuration -/

namespace Layers

variable {layers next : Layers}

/-- A source that is loaded where none is at its place or above it is merged last. -/
theorem ordered_load {source : Source} (tree : Value)
    (highest : ∀ other : Source, source.rank ≤ other.rank → layers.source? other = none) :
    (layers.load source tree).ordered = layers.ordered ++ [tree] := by
  obtain ⟨below, above, order⟩ := List.append_of_mem source.mem_all
  have rising : (below ++ source :: above).Pairwise fun a b : Source => a.rank < b.rank := by
    rw [← order]
    decide
  obtain ⟨_, rest, lower⟩ := List.pairwise_append.1 rising
  have front : below.filterMap (layers.load source tree).source? = below.filterMap layers.source? := by
    refine List.filterMap_congr fun other member => source?_load_of_ne ?_ layers tree
    rintro rfl
    exact Nat.lt_irrefl _ (lower other member other List.mem_cons_self)
  have back : ∀ other ∈ above,
      (layers.load source tree).source? other = none ∧ layers.source? other = none := by
    intro other member
    have outranks := List.rel_of_pairwise_cons rest member
    have missing := highest other outranks.le
    refine ⟨?_, missing⟩
    rw [source?_load_of_ne (fun same => Nat.lt_irrefl _ (same ▸ outranks)), missing]
  rw [ordered, ordered, order, List.filterMap_append, List.filterMap_append, front,
    List.filterMap_cons_some (source?_load_self layers source tree),
    List.filterMap_cons_none (highest source le_rfl),
    List.filterMap_eq_nil_iff.2 fun other member => (back other member).1,
    List.filterMap_eq_nil_iff.2 fun other member => (back other member).2, List.append_nil]

/-- The merged section is what the sources come to below its name. -/
theorem mergedSection_eq (mappings : ∀ tree ∈ layers.ordered, tree.isMapping = true) :
    ∃ options, layers.mergedSection = .ok options ∧ ∀ name rest, valueAt options (name :: rest) =
      valueAt (layers.ordered.foldl overlaid (.mapping [])) (sectionName :: name :: rest) := by
  obtain ⟨whole, merges, same⟩ := merged_eq mappings
  refine ⟨(field? whole sectionName).getD (.mapping []), ?_, fun name rest => ?_⟩
  · rw [mergedSection, merges]
    rfl
  · rw [← same, valueAt_mapping_cons, field]
    cases field? whole sectionName <;> rfl

/-- Sources that hold mappings, none of them above a given one. -/
structure UpTo (top : Source) (layers : Layers) : Prop where
  mapping : ∀ {source : Source} {tree : Value}, layers.source? source = some tree → tree.isMapping = true
  above : ∀ {source : Source}, top.rank < source.rank → layers.source? source = none

namespace UpTo

variable {top source : Source}

theorem initial : initial.UpTo .defaults where
  mapping {source tree} held := by
    cases source <;> cases held
    rfl
  above {source} higher := by
    cases source with
    | defaults => exact absurd higher (by decide)
    | _ => rfl

theorem mono (upTo : layers.UpTo top) (higher : top.rank ≤ source.rank) : layers.UpTo source :=
  ⟨upTo.mapping, fun outranks => upTo.above (higher.trans_lt outranks)⟩

theorem load {tree : Value} (upTo : layers.UpTo top) (place : source.rank ≤ top.rank)
    (mapping : tree.isMapping = true) : (layers.load source tree).UpTo top where
  mapping {other held} found := by
    rw [source?_load] at found
    split at found
    · exact Option.some.inj found ▸ mapping
    · exact upTo.mapping found
  above {other} higher := by
    have differ : other ≠ source := by
      rintro rfl
      exact absurd higher (Nat.not_lt.2 place)
    rw [source?_load_of_ne differ]
    exact upTo.above higher

theorem mapping_of_mem (upTo : layers.UpTo top) : ∀ tree ∈ layers.ordered, tree.isMapping = true := by
  intro tree member
  obtain ⟨source, held⟩ := mem_ordered_iff.1 member
  exact upTo.mapping held

/-- A source above all others is merged last. -/
theorem ordered_load (upTo : layers.UpTo top) (higher : top.rank < source.rank) (tree : Value) :
    (layers.load source tree).ordered = layers.ordered ++ [tree] :=
  Layers.ordered_load tree fun _ outranks => upTo.above (higher.trans_le outranks)

end UpTo

theorem isMapping_ofDocument {file : String} {value tree : Value}
    (read : ofDocument file value = .ok tree) : tree.isMapping = true := by
  unfold ofDocument at read
  split at read
  · split at read <;> exact Except.ok.inj read ▸ rfl
  · cases read

theorem UpTo.loadFile {tree : FileTree} {file : String} {top source : Source} (lower : layers.UpTo top)
    (place : source.rank ≤ top.rank) (done : layers.loadFile tree file source = .ok next) :
    next.UpTo top := by
  obtain ⟨path, _, done⟩ := Outcome.ok_of_bind done
  obtain ⟨present, _, done⟩ := Outcome.ok_of_bind done
  simp only at done
  split at done
  · cases done
  · obtain ⟨text, _, done⟩ := Outcome.ok_of_bind done
    obtain ⟨value, _, done⟩ := Outcome.ok_of_bind done
    obtain ⟨held, read, done⟩ := Outcome.ok_of_bind done
    have loaded := lower.load place (isMapping_ofDocument read)
    obtain rfl := Except.ok.inj done
    exact ⟨loaded.mapping, loaded.above⟩

theorem UpTo.loadIfPresent {tree : FileTree} {file : String} {top source : Source} (lower : layers.UpTo top)
    (place : source.rank ≤ top.rank) (done : layers.loadIfPresent tree file source = .ok next) :
    next.UpTo top := by
  obtain ⟨present, _, done⟩ := Outcome.ok_of_bind done
  split at done
  · exact lower.loadFile place done
  · exact Except.ok.inj done ▸ lower

/-- Variables are read after the files. -/
theorem create_variables (tree : FileTree) (system user : Option String) (environment : Variables) :
    create tree system user (some environment) =
      create tree system user none >>= fun layers => layers.loadVariables environment := by
  unfold create
  simp only
  generalize system.filter (· != "") = first
  generalize user.filter (· != "") = second
  cases first <;> cases second <;> simp only [bind_assoc, pure_bind]

theorem upTo_create {tree : FileTree} {system user : Option String}
    (loaded : create tree system user none = .ok layers) : layers.UpTo .userFile := by
  unfold create at loaded
  simp only [bind_pure] at loaded
  generalize system.filter (· != "") = first at loaded
  generalize user.filter (· != "") = second at loaded
  have start : initial.UpTo .userFile := UpTo.initial.mono (by decide)
  cases first with
  | none =>
      cases second with
      | none => exact Except.ok.inj loaded ▸ start
      | some file => exact start.loadFile (by decide) loaded
  | some file =>
      obtain ⟨lower, system, loaded⟩ := Outcome.ok_of_bind loaded
      have files := start.loadIfPresent (by decide) system
      cases second with
      | none => exact Except.ok.inj loaded ▸ files
      | some file => exact files.loadFile (by decide) loaded

/-- Variables are a source above the files, if they set any option. -/
theorem UpTo.loadVariables {environment : Variables} {options : Value} (lower : layers.UpTo .userFile)
    (done : optionsOf environment = .ok options) :
    ∃ next, layers.loadVariables environment = .ok next ∧ next.UpTo .environment ∧
      (options.isTruthy = true → next.ordered = layers.ordered ++ [.ofFields [(sectionName, options)]]) := by
  have files : layers.UpTo .environment := lower.mono (by decide)
  rw [Layers.loadVariables, done]
  by_cases given : options.isTruthy = true
  · refine ⟨layers.load .environment (.ofFields [(sectionName, options)]), ?_, files.load le_rfl rfl,
      fun _ => ?_⟩
    · exact if_pos given
    · exact lower.ordered_load (by decide) _
  · exact ⟨layers, if_neg given, files, fun truthy => absurd truthy given⟩

end Layers

/-! ## What a variable leaves in the section -/

theorem isTruthy_of_outline {options held : Value} {path : List String} (named : path ≠ [])
    (stands : options.outline path = some held) : options.isTruthy = true := by
  obtain ⟨name, rest, rfl⟩ := List.exists_cons_of_ne_nil named
  cases options with
  | mapping entries =>
      cases entries with
      | nil => cases stands
      | cons _ _ => rfl
  | _ => cases stands

/-- A value stays where it has been put if no later option is at a beginning of its path. -/
theorem outline_foldlM {later : List (List String × Value)} {path : List String} {options last value : Value}
    (beside : ∀ setting ∈ later, ¬ setting.1 <+: path) (stands : options.outline path = some value)
    (plain : value.isMapping = false) (done : later.foldlM setOption options = .ok last) :
    last.outline path = some value := by
  induction later generalizing options with
  | nil => exact Except.ok.inj done ▸ stands
  | cons setting later inductionHypothesis =>
      obtain ⟨here, beside⟩ := List.forall_mem_cons.1 beside
      rw [List.foldlM_cons] at done
      obtain ⟨next, step, done⟩ := Outcome.ok_of_bind done
      apply inductionHypothesis beside _ done
      rw [outline_putAt step, if_neg here, if_neg, stands]
      -- An option below the value could not have been set.
      intro below
      have proper : path ≠ setting.1 := fun same => here (same ▸ List.prefix_refl _)
      have mapping := putAt_ok_iff.1 ⟨next, step⟩ path value below proper stands
      cases plain.symm.trans mapping

theorem outline_of_optionsOf {front back : Variables} {entry : String × String} {path : List String}
    {value options : Value} (sets : settingOf? entry = some (path, value))
    (last : ∀ later ∈ settings back, ¬ later.1 <+: path)
    (done : optionsOf (front ++ entry :: back) = .ok options) : options.outline path = some value := by
  have member : (path, value) ∈ settings (front ++ entry :: back) :=
    List.mem_filterMap.2 ⟨entry, by simp, sets⟩
  have plain := (plain_of_mem_settings member).2
  rw [optionsOf_eq, settings, List.filterMap_append, List.filterMap_cons_some sets, List.foldlM_append] at done
  obtain ⟨earlier, _, done⟩ := Outcome.ok_of_bind done
  rw [List.foldlM_cons] at done
  obtain ⟨next, step, done⟩ := Outcome.ok_of_bind done
  refine outline_foldlM last ?_ plain done
  rw [outline_putAt step, if_pos (List.prefix_refl _), List.drop_length, outline_plain_nil plain]

/-! ## Lists of paths -/

theorem splitPaths_append (first rest : String) :
    splitPaths (first ++ ":" ++ rest) = splitPaths first ++ splitPaths rest := by
  have colon : (first ++ ":" ++ rest).toList = first.toList ++ ':' :: rest.toList := by simp
  rw [splitPaths, splitPaths, splitPaths, colon, Files.splitAt_append_separator, List.filter_append,
    List.map_append]

/-- A list of paths that is joined with colons is cut at them into the paths of its elements. -/
theorem splitPaths_intercalate {elements : List String} (given : elements ≠ []) :
    splitPaths (":".intercalate elements) = elements.flatMap splitPaths := by
  induction elements with
  | nil => exact absurd rfl given
  | cons first rest inductionHypothesis =>
      cases rest with
      | nil => simp
      | cons second rest =>
          rw [String.intercalate_cons_cons, splitPaths_append, inductionHypothesis (List.cons_ne_nil _ _)]
          exact List.flatMap_cons.symm

/-! ## The options of the command -/

/-- An option that can be given in two ways: its key among the arguments, the name of its variable, and its path
in the section.  A classpath has several arguments and is a list there. -/
structure Twin where
  key : String
  name : String
  path : List String
  isClasspath : Bool

/-- The options of text and the classpaths of the command for compiled classes. -/
def twins : List Twin :=
  [⟨"transformer", "CLASSWEAVER_TRANSFORMER", [transformerKey], false⟩,
   ⟨"filter_pattern", "CLASSWEAVER_FILTER_PATTERN", [filterKey], false⟩,
   ⟨"output_directory", "CLASSWEAVER_OUTPUT_DIRECTORY", [outputKey], false⟩,
   ⟨"test_output_directory", "CLASSWEAVER_TEST_OUTPUT_DIRECTORY", [testOutputKey], false⟩,
   ⟨"log_file", "CLASSWEAVER_LOGGING_FILE", [loggingKey, logFileKey], false⟩,
   ⟨"classpath", "CLASSWEAVER_CLASSPATH", [classpathKey], true⟩,
   ⟨"test_classpath", "CLASSWEAVER_TEST_CLASSPATH", [testClasspathKey], true⟩]

/-- What is given to an option, the text that is given to its variable, and the value of both. -/
inductive Twin.Spells (twin : Twin) : Value → String → Value → Prop where
  | text (kind : twin.isClasspath = false) (text : String) : twin.Spells (.text text) text (.text text)
  | classpath (kind : twin.isClasspath = true) (elements : List String) (given : elements ≠ []) :
      twin.Spells (.list (elements.map .text)) (":".intercalate elements)
        (.list ((elements.flatMap splitPaths).map .text))

/-- The section of a configuration that is made of files, variables and the arguments of the command. -/
def sectionWith (tree : FileTree) (system user : Option String) (environment : Variables)
    (arguments : Mapping) : Outcome Value := do
  let layers ← Layers.create tree system user (some environment)
  (layers.load .commandLine (Arguments.ofValues "process-classes" arguments).configuration).mergedSection

namespace Twin

/-- What arguments say of an option. -/
def argument (twin : Twin) (arguments : Mapping) : Value :=
  if twin.isClasspath then classpathOf (field arguments twin.key) else field arguments twin.key

variable {twin : Twin} {given value : Value} {text : String}

theorem isPassable_of_spells (spells : twin.Spells given text value) : value.isPassable = false := by
  cases spells <;> rfl

theorem isMapping_of_spells (spells : twin.Spells given text value) : value.isMapping = false := by
  cases spells <;> rfl

/-- What is given to an option is taken for the value. -/
theorem argument_of_spells {arguments : Mapping} (spells : twin.Spells given text value)
    (said : field arguments twin.key = given) : twin.argument arguments = value := by
  rw [argument, said]
  cases spells with
  | text kind text =>
      rw [kind]
      rfl
  | classpath kind elements given =>
      rw [kind, if_pos rfl, classpathOf, if_neg (by simpa using given), List.flatMap_map, List.map_flatMap]
      rfl

theorem argument_of_unsaid {arguments : Mapping} (unsaid : field arguments twin.key = .null) :
    twin.argument arguments = .null := by
  rw [argument, unsaid]
  exact ite_self _

theorem path_ne_nil (listed : twin ∈ twins) : twin.path ≠ [] := by
  revert twin
  decide

theorem isMapping_configuration (arguments : Mapping) :
    (Arguments.ofValues "process-classes" arguments).configuration.isMapping = true := rfl

/-- What an argument holds is in the source of the command line at the path of its option. -/
theorem valueAt_configuration (listed : twin ∈ twins) (arguments : Mapping) :
    valueAt (Arguments.ofValues "process-classes" arguments).configuration (sectionName :: twin.path) =
      twin.argument arguments := by
  simp only [twins, List.mem_cons, List.not_mem_nil, or_false] at listed
  rcases listed with rfl | rfl | rfl | rfl | rfl | rfl | rfl <;> rfl

theorem entered_configuration (listed : twin ∈ twins) (arguments : Mapping) :
    (Arguments.ofValues "process-classes" arguments).configuration.Entered (sectionName :: twin.path) := by
  have keys : [failFastKey, classpathKey, transformerKey, filterKey, outputKey, testOutputKey, testClasspathKey,
      scopeKey, loggingKey].Nodup := by
    decide
  have loggingKeys : [levelKey, logFileKey].Nodup := by
    decide
  have below : (Arguments.ofValues "process-classes" arguments).options.Entered twin.path := by
    simp only [twins, List.mem_cons, List.not_mem_nil, or_false] at listed
    rcases listed with rfl | rfl | rfl | rfl | rfl | rfl | rfl
    case inr.inr.inr.inr.inl =>
      apply entered_ofFields
      · exact keys
      · apply entered_ofFields
        · exact loggingKeys
        · trivial
    all_goals
      apply entered_ofFields
      · exact keys
      · trivial
  apply entered_ofFields
  · exact List.nodup_singleton sectionName
  · exact below

/-- The name of a variable leads to the path of its option, and the text to its value. -/
theorem settingOf?_variable (listed : twin ∈ twins) (spells : twin.Spells given text value) :
    settingOf? (twin.name, text) = some (twin.path, value) := by
  have named : ∀ twin ∈ twins, variableStart.isPrefixOf twin.name = true ∧
      optionPath (Text.lower (String.ofList (twin.name.toList.drop variableStart.length))) = twin.path := by
    decide +kernel
  have kinds : ∀ twin ∈ twins,
      if twin.isClasspath then
        (twin.path.getLastD "" == classpathKey || twin.path.getLastD "" == testClasspathKey) = true
      else (twin.path.getLastD "" == classpathKey || twin.path.getLastD "" == testClasspathKey) = false ∧
        textKeys.contains (twin.path.getLastD "") = true := by
    decide
  obtain ⟨ofTool, path⟩ := named twin listed
  have kind := kinds twin listed
  rw [settingOf?, if_pos ofTool, settingOf, path, optionValue]
  cases spells with
  | text words text =>
      rw [words, if_neg Bool.false_ne_true] at kind
      rw [kind.1, if_neg Bool.false_ne_true, if_pos kind.2]
  | classpath words elements given =>
      rw [words, if_pos rfl] at kind
      rw [if_pos kind, splitPaths_intercalate given]

/-- At the path of an option, the argument is laid over what the other sources come to. -/
theorem valueAt_sectionWith {tree : FileTree} {system user : Option String} {lower : Layers}
    {environment : Variables} {options : Value} (listed : twin ∈ twins)
    (loaded : Layers.create tree system user none = .ok lower) (done : optionsOf environment = .ok options)
    (arguments : Mapping) :
    ∃ whole base, sectionWith tree system user environment arguments = .ok whole ∧
      valueAt whole twin.path =
        overlaid (valueAt base (sectionName :: twin.path)) (twin.argument arguments) ∧
      (options.isTruthy = true → ∃ lowest, base = overlaid lowest (.ofFields [(sectionName, options)])) := by
  obtain ⟨layers, loads, upTo, order⟩ := (Layers.upTo_create loaded).loadVariables done
  have made : Layers.create tree system user (some environment) = .ok layers := by
    rw [Layers.create_variables, loaded]
    exact loads
  obtain ⟨name, rest, path⟩ := List.exists_cons_of_ne_nil (path_ne_nil listed)
  have higher : layers.UpTo .commandLine := upTo.mono (by decide)
  obtain ⟨whole, merges, holds⟩ := Layers.mergedSection_eq
    (higher.load le_rfl (isMapping_configuration arguments)).mapping_of_mem
  refine ⟨whole, layers.ordered.foldl overlaid (.mapping []), ?_, ?_, fun truthy => ?_⟩
  · rw [sectionWith, made]
    exact merges
  · rw [path, holds, ← path, upTo.ordered_load (by decide), List.foldl_append, List.foldl_cons, List.foldl_nil,
      valueAt_overlaid_of_entered (entered_configuration listed arguments), valueAt_configuration listed]
  · refine ⟨lower.ordered.foldl overlaid (.mapping []), ?_⟩
    rw [order truthy, List.foldl_append, List.foldl_cons, List.foldl_nil]

/-- What is given to an option on the command line and the text of its variable come to one value of the section.
The variable may stand among others, as long as no later one sets the option again. -/
theorem sections_agree {tree : FileTree} {system user : Option String} {lower : Layers}
    {others front back : Variables} {onLine left : Mapping} (listed : twin ∈ twins)
    (spells : twin.Spells given text value) (loaded : Layers.create tree system user none = .ok lower)
    (said : field onLine twin.key = given) (unsaid : field left twin.key = .null)
    (settable : (settings others).Pairwise fun earlier later => ¬ Above earlier.1 later.1)
    (settableToo : (settings (front ++ (twin.name, text) :: back)).Pairwise fun earlier later =>
      ¬ Above earlier.1 later.1)
    (last : ∀ later ∈ settings back, ¬ later.1 <+: twin.path) :
    ∃ first second, sectionWith tree system user others onLine = .ok first ∧
      sectionWith tree system user (front ++ (twin.name, text) :: back) left = .ok second ∧
      valueAt first twin.path = value ∧ valueAt second twin.path = value := by
  obtain ⟨options, done⟩ := optionsOf_ok_iff.2 settable
  obtain ⟨optionsToo, doneToo⟩ := optionsOf_ok_iff.2 settableToo
  obtain ⟨first, base, merges, holds, _⟩ := valueAt_sectionWith listed loaded done onLine
  obtain ⟨second, baseToo, mergesToo, holdsToo, variablesLast⟩ := valueAt_sectionWith listed loaded doneToo left
  refine ⟨first, second, merges, mergesToo, ?_, ?_⟩
  · rw [holds, argument_of_spells spells said, overlaid_plain _ (isPassable_of_spells spells)]
  · have stands := outline_of_optionsOf (settingOf?_variable listed spells) last doneToo
    obtain ⟨lowest, same⟩ := variablesLast (isTruthy_of_outline (path_ne_nil listed) stands)
    have entered : (Value.ofFields [(sectionName, optionsToo)]).Entered (sectionName :: twin.path) := by
      apply entered_ofFields
      · exact List.nodup_singleton sectionName
      · exact entered_of_outline (mapping_of_optionsOf doneToo).2 stands
    have held : valueAt (.ofFields [(sectionName, optionsToo)]) (sectionName :: twin.path) = value :=
      valueAt_of_outline stands (isMapping_of_spells spells)
    rw [holdsToo, argument_of_unsaid unsaid, overlaid_null_right, same, valueAt_overlaid_of_entered entered, held,
      overlaid_plain _ (isPassable_of_spells spells)]

/-- Two arguments and one text with their elements give the same test classpath, over another one of a variable. -/
theorem testClasspath_agrees :
    ∃ first second,
      sectionWith default none none [("CLASSWEAVER_TEST_CLASSPATH", "old.jar")]
        [(.text "test_classpath", .list [.text ":", .text "a.jar:b.jar"])] = .ok first ∧
      sectionWith default none none [("CLASSWEAVER_TEST_CLASSPATH", "::a.jar:b.jar")] [] = .ok second ∧
      valueAt first [testClasspathKey] = .list [.text "a.jar", .text "b.jar"] ∧
      valueAt second [testClasspathKey] = .list [.text "a.jar", .text "b.jar"] := by
  let twin : Twin := ⟨"test_classpath", "CLASSWEAVER_TEST_CLASSPATH", [testClasspathKey], true⟩
  have listed : twin ∈ twins := by simp [twin, twins]
  have joined : ":".intercalate [":", "a.jar:b.jar"] = "::a.jar:b.jar" := by decide +kernel
  have cut : [":", "a.jar:b.jar"].flatMap splitPaths = ["a.jar", "b.jar"] := by decide +kernel
  have spells := Spells.classpath (show twin.isClasspath = true from rfl) [":", "a.jar:b.jar"]
    (List.cons_ne_nil _ _)
  rw [joined, cut] at spells
  have alone : ∀ text, (settings ([] ++ [(twin.name, text)])).Pairwise fun earlier later =>
      ¬ Above earlier.1 later.1 := by
    intro text
    rw [List.nil_append, settings, List.filterMap_cons]
    cases settingOf? (twin.name, text) with
    | none => exact List.Pairwise.nil
    | some setting => exact List.pairwise_singleton _ _
  have loaded : Layers.create default none none none = .ok .initial := rfl
  have said : field [(.text twin.key, .list [.text ":", .text "a.jar:b.jar"])] twin.key =
      .list [.text ":", .text "a.jar:b.jar"] := by
    rw [field, field?_cons_self]
    rfl
  exact sections_agree listed spells loaded said (field_nil twin.key) (alone "old.jar") (alone "::a.jar:b.jar")
    fun later member => absurd member List.not_mem_nil

end Twin

end Config
end ClassLoom
