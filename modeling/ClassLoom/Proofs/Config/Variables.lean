import ClassLoom.Config.File
import ClassLoom.Proofs.Config.Outline

namespace ClassLoom
namespace Config

/-!
# Variables in any order

Each variable of the tool puts a value at the path of its option, one after the other.  A value that has been
put is in the way of the paths below it: the options can be had if and only if no path is a proper beginning
of a later one.  If no path is a beginning of another one at all, the section is the same whatever the order
of the variables.
-/

open Value

/-! ## The options that variables set -/

/-- An option by its name, with the value that a text gives it. -/
def settingOf (key text : String) : List String × Value :=
  (optionPath key, optionValue ((optionPath key).getLastD "") text)

/-- The option that a variable sets, if it is one of the tool. -/
def settingOf? (entry : String × String) : Option (List String × Value) :=
  if variableStart.isPrefixOf entry.1 then
    some (settingOf (Text.lower (String.ofList (entry.1.toList.drop variableStart.length))) entry.2)
  else none

/-- The options that variables set, in the order of the variables. -/
def settings (environment : Variables) : List (List String × Value) := environment.filterMap settingOf?

/-- Set one option. -/
def setOption (options : Value) (setting : List String × Value) : Outcome Value :=
  putAt setting.2 setting.1 options

theorem optionsOf_eq (environment : Variables) :
    optionsOf environment = (settings environment).foldlM setOption (.mapping []) := by
  unfold optionsOf settings
  generalize Value.mapping [] = options
  induction environment generalizing options with
  | nil => rfl
  | cons entry rest inductionHypothesis =>
      obtain ⟨name, text⟩ := entry
      rw [List.foldlM_cons, List.filterMap_cons, settingOf?]
      simp only
      generalize Text.lower (String.ofList (name.toList.drop variableStart.length)) = key
      by_cases start : variableStart.isPrefixOf name = true
      · rw [if_pos start, if_pos start, List.foldlM_cons]
        exact bind_congr inductionHypothesis
      · rw [if_neg start, if_neg start]
        exact inductionHypothesis options

/-- What holds of the options that have been set so far holds of them all. -/
theorem holds_of_optionsOf {environment : Variables} {options : Value}
    (holds : List (List String × Value) → Value → Prop) (first : holds [] (.mapping []))
    (kept : ∀ {past rest : List (List String × Value)} {setting : List String × Value} {options next : Value},
      settings environment = past ++ setting :: rest → holds past options →
      setOption options setting = .ok next → holds (past ++ [setting]) next)
    (done : optionsOf environment = .ok options) : holds (settings environment) options := by
  rw [optionsOf_eq] at done
  have onward : ∀ {rest past : List (List String × Value)} {start : Value},
      settings environment = past ++ rest → holds past start →
      rest.foldlM setOption start = .ok options → holds (past ++ rest) options := by
    intro rest
    induction rest with
    | nil =>
        intro past start _ held done
        rw [List.append_nil]
        exact Except.ok.inj done ▸ held
    | cons setting rest inductionHypothesis =>
        intro past start whole held done
        rw [List.foldlM_cons] at done
        cases step : setOption start setting with
        | error failure =>
            rw [step] at done
            cases done
        | ok next =>
            rw [step] at done
            rw [← List.singleton_append, ← List.append_assoc] at whole ⊢
            exact inductionHypothesis whole (kept (by simpa using whole) held step) done
  exact onward rfl first done

theorem isMapping_guessed (text : String) : (guessed text).isMapping = false := by
  unfold guessed
  simp only
  split
  · rfl
  · split
    · rfl
    · split <;> rfl

theorem isMapping_optionValue (key text : String) : (optionValue key text).isMapping = false := by
  unfold optionValue
  split
  · rfl
  · split
    · rfl
    · exact isMapping_guessed text

theorem optionPath_ne_nil (name : String) : optionPath name ≠ [] := by
  unfold optionPath
  simp only
  split <;> exact List.cons_ne_nil _ _

/-- Options have a name, and their values are no mappings. -/
theorem plain_of_mem_settings {environment : Variables} {setting : List String × Value}
    (member : setting ∈ settings environment) : setting.1 ≠ [] ∧ setting.2.isMapping = false := by
  obtain ⟨entry, _, made⟩ := List.mem_filterMap.1 member
  unfold settingOf? at made
  generalize Text.lower (String.ofList (entry.1.toList.drop variableStart.length)) = key at made
  split at made
  · rw [← Option.some.inj made]
    exact ⟨optionPath_ne_nil key, isMapping_optionValue _ _⟩
  · cases made

/-! ## When the options can be had -/

/-- A path is a proper beginning of another one. -/
def Above (upper lower : List String) : Prop := upper <+: lower ∧ upper ≠ lower

/-- Values stand where options have put them, unless another one has been put above them since. -/
structure Covers (settings : List (List String × Value)) (options : Value) : Prop where
  given : ∀ {path held}, options.outline path = some held → held.isMapping = false →
    ∃ setting ∈ settings, setting.1 = path
  blocked : ∀ setting ∈ settings, ∃ front held,
    front <+: setting.1 ∧ options.outline front = some held ∧ held.isMapping = false

namespace Covers

variable {past rest : List (List String × Value)} {options next : Value} {setting : List String × Value}

theorem nothing : Covers [] (.mapping []) where
  given {path held} found plain := by
    cases path with
    | nil =>
        obtain rfl := Option.some.inj found
        cases plain
    | cons _ _ => cases found
  blocked := nofun

theorem enterable_iff (covers : Covers past options) (path : List String) :
    options.Enterable path ↔ ∀ earlier ∈ past, ¬ Above earlier.1 path := by
  constructor
  · rintro enterable earlier member ⟨start, proper⟩
    obtain ⟨front, held, begins, found, plain⟩ := covers.blocked earlier member
    refine absurd (enterable front held (begins.trans start) (fun same => proper ?_) found)
      (by rw [plain]; exact Bool.false_ne_true)
    exact start.eq_of_length (le_antisymm start.length_le (same ▸ begins.length_le))
  · intro free front held start proper found
    by_contra other
    obtain ⟨earlier, member, rfl⟩ := covers.given found (Bool.not_eq_true _ ▸ other)
    exact free earlier member ⟨start, proper⟩

theorem put (covers : Covers past options) (plain : setting.2.isMapping = false)
    (done : setOption options setting = .ok next) : Covers (past ++ [setting]) next := by
  have stands : next.outline setting.1 = some setting.2 := by
    rw [outline_putAt done, if_pos (List.prefix_refl _), List.drop_length, outline_plain_nil plain]
  constructor
  · intro path held found other
    rw [outline_putAt done] at found
    split at found
    next start =>
      obtain ⟨last, rfl⟩ := start
      rw [List.drop_left] at found
      cases last with
      | nil => exact ⟨setting, by simp, (List.append_nil _).symm⟩
      | cons name rest =>
          rw [outline_plain_cons plain] at found
          cases found
    next =>
      split at found
      · obtain rfl := Option.some.inj found
        cases other
      · obtain ⟨earlier, member, same⟩ := covers.given found other
        exact ⟨earlier, List.mem_append_left _ member, same⟩
  · intro earlier member
    rcases List.mem_append.1 member with among | last
    · obtain ⟨front, held, start, found, other⟩ := covers.blocked earlier among
      by_cases covered : setting.1 <+: front
      · exact ⟨setting.1, setting.2, covered.trans start, stands, plain⟩
      · refine ⟨front, held, start, ?_, other⟩
        rw [outline_putAt done, if_neg covered, if_neg, found]
        -- A value above the path would have been in the way.
        intro above
        have mapping := putAt_ok_iff.1 ⟨next, done⟩ front held above
          (fun same => covered (same ▸ List.prefix_refl _)) found
        cases other.symm.trans mapping
    · rw [List.mem_singleton.1 last]
      exact ⟨setting.1, setting.2, List.prefix_refl _, stands, plain⟩

/-- More options can be set if and only if none is below an earlier one. -/
theorem foldlM_ok_iff (covers : Covers past options)
    (apart : past.Pairwise fun earlier later => ¬ Above earlier.1 later.1)
    (plain : ∀ setting ∈ rest, setting.2.isMapping = false) :
    (∃ last, rest.foldlM setOption options = .ok last) ↔
      (past ++ rest).Pairwise fun earlier later => ¬ Above earlier.1 later.1 := by
  induction rest generalizing past options with
  | nil =>
      rw [List.append_nil]
      exact iff_of_true ⟨options, rfl⟩ apart
  | cons setting rest inductionHypothesis =>
      obtain ⟨here, plain⟩ := List.forall_mem_cons.1 plain
      rw [List.foldlM_cons]
      cases done : setOption options setting with
      | ok next =>
          have free := (covers.enterable_iff setting.1).1 (putAt_ok_iff.1 ⟨next, done⟩)
          have onward := inductionHypothesis (covers.put here done)
            (List.pairwise_append.2 ⟨apart, List.pairwise_singleton _ _, fun earlier member later last => by
              rw [List.mem_singleton.1 last]
              exact free earlier member⟩) plain
          rwa [List.append_assoc] at onward
      | error failure =>
          refine iff_of_false (fun ⟨last, done⟩ => by cases done) fun all => ?_
          have free : ∀ earlier ∈ past, ¬ Above earlier.1 setting.1 := fun earlier member =>
            (List.pairwise_append.1 all).2.2 earlier member setting List.mem_cons_self
          obtain ⟨next, other⟩ : ∃ next, setOption options setting = .ok next :=
            putAt_ok_iff.2 ((covers.enterable_iff setting.1).2 free)
          cases done.symm.trans other

end Covers

/-- The options of variables can be had if and only if no option is set in a group of the name of an option
that has been set before. -/
theorem optionsOf_ok_iff {environment : Variables} :
    (∃ options, optionsOf environment = .ok options) ↔
      (settings environment).Pairwise fun earlier later => ¬ Above earlier.1 later.1 := by
  rw [optionsOf_eq]
  exact Covers.nothing.foldlM_ok_iff .nil fun setting member => (plain_of_mem_settings member).2

example : (optionsOf [("CLASSWEAVER_STAGING", "x"), ("CLASSWEAVER_STAGING_POLICY", "clean")]).toOption.isNone =
    true := by decide +kernel

/-! ## The order of the variables -/

/-- A tree that holds some options, and nothing else but the mappings that lead to them. -/
def Describes (settings : List (List String × Value)) (options : Value) : Prop :=
  ∀ path held, options.outline path = some held ↔
    (path, held) ∈ settings ∨
      held = .mapping [] ∧ (path = [] ∨ ∃ setting ∈ settings, Above path setting.1)

namespace Describes

variable {past rest : List (List String × Value)} {options next : Value} {setting : List String × Value}

theorem nothing : Describes [] (.mapping []) := by
  intro path held
  cases path with
  | nil => simp [Value.outline, eq_comm]
  | cons name rest => simp [Value.outline]

theorem put (describes : Describes past options) (named : setting.1 ≠ [])
    (plain : setting.2.isMapping = false) (apart : ∀ earlier ∈ past, Apart earlier.1 setting.1)
    (done : setOption options setting = .ok next) : Describes (past ++ [setting]) next := by
  intro path held
  obtain ⟨option, value⟩ := setting
  rw [outline_putAt done]
  simp only [List.mem_append, List.mem_singleton]
  split
  next start =>
    -- No earlier option is at the path or below it, and so none is below the new one.
    have fresh : ∀ earlier ∈ past, ¬ path <+: earlier.1 := fun earlier member below =>
      (apart earlier member).2 (start.trans below)
    have deep : path ≠ [] := by
      rintro rfl
      exact named (List.prefix_nil.1 start)
    obtain ⟨last, rfl⟩ := start
    rw [List.drop_left]
    cases last with
    | nil =>
        rw [List.append_nil] at deep fresh ⊢
        rw [outline_plain_nil plain]
        constructor
        · intro same
          obtain rfl := Option.some.inj same
          exact .inl (.inr rfl)
        · rintro ((member | same) | ⟨rfl, rfl | ⟨earlier, member | rfl, start, proper⟩⟩)
          · exact absurd (List.prefix_refl _) (fresh _ member)
          · rw [(Prod.mk.inj same).2]
          · exact absurd rfl deep
          · exact absurd start (fresh earlier member)
          · exact absurd rfl proper
    | cons name rest =>
        rw [outline_plain_cons plain]
        refine iff_of_false nofun ?_
        rintro ((member | same) | ⟨rfl, none | ⟨earlier, member | rfl, start, proper⟩⟩)
        · exact absurd (List.prefix_refl _) (fresh _ member)
        · have length := congrArg List.length (Prod.mk.inj same).1
          simp at length
        · exact deep none
        · exact absurd start (fresh earlier member)
        · have length := start.length_le
          simp at length
  next beside =>
    split
    next above =>
      have proper : path ≠ option := fun same => beside (same ▸ List.prefix_refl _)
      constructor
      · intro same
        exact .inr ⟨(Option.some.inj same).symm, .inr ⟨_, .inr rfl, above, proper⟩⟩
      · rintro ((member | same) | ⟨rfl, _⟩)
        · exact absurd above (apart _ member).1
        · exact absurd (Prod.mk.inj same).1 proper
        · rfl
    next apartHere =>
      rw [describes path held]
      constructor
      · rintro (member | ⟨rfl, none | ⟨earlier, member, start⟩⟩)
        · exact .inl (.inl member)
        · exact .inr ⟨rfl, .inl none⟩
        · exact .inr ⟨rfl, .inr ⟨earlier, .inl member, start⟩⟩
      · rintro ((member | same) | ⟨rfl, none | ⟨earlier, member | rfl, start⟩⟩)
        · exact .inl member
        · exact absurd ((Prod.mk.inj same).1 ▸ List.prefix_refl _) beside
        · exact .inr ⟨rfl, .inl none⟩
        · exact .inr ⟨rfl, .inr ⟨earlier, member, start⟩⟩
        · exact absurd start.1 apartHere

/-- Trees that hold the same options are the same. -/
theorem same {others : List (List String × Value)} {second : Value} (describes : Describes past options)
    (describesToo : Describes others second) (equal : ∀ setting, setting ∈ past ↔ setting ∈ others) :
    options.Same second := by
  intro path
  refine Option.ext fun held => ?_
  rw [describes path held, describesToo path held]
  simp only [equal]

end Describes

/-- The options that variables set are a mapping with distinct keys throughout. -/
theorem mapping_of_optionsOf {environment : Variables} {options : Value}
    (done : optionsOf environment = .ok options) :
    options.isMapping = true ∧ options.hasDistinctKeys = true := by
  refine holds_of_optionsOf (fun _ options => options.isMapping = true ∧ options.hasDistinctKeys = true)
    ⟨rfl, rfl⟩ (fun {past rest setting start next} whole held step => ?_) done
  have member : setting ∈ settings environment := by simp [whole]
  obtain ⟨named, plain⟩ := plain_of_mem_settings member
  constructor
  · have root : next.outline [] = some (.mapping []) := by
      rw [outline_putAt step, if_neg (fun start => named (List.prefix_nil.1 start)), if_pos List.nil_prefix]
    cases next <;> first | rfl | cases root
  · refine hasDistinctKeys_putAt ?_ held.2 step
    cases kind : setting.2 with
    | mapping entries =>
        rw [kind] at plain
        cases plain
    | _ => rfl

/-- Variables whose options are apart set them, and nothing else. -/
theorem exists_optionsOf {environment : Variables}
    (apart : (settings environment).Pairwise fun first second => Apart first.1 second.1) :
    ∃ options, optionsOf environment = .ok options ∧ Describes (settings environment) options := by
  obtain ⟨options, done⟩ := optionsOf_ok_iff.2 (apart.imp fun apart above => apart.1 above.1)
  refine ⟨options, done, holds_of_optionsOf Describes .nothing
    (fun {past rest setting start next} whole held step => ?_) done⟩
  have member : setting ∈ settings environment := by simp [whole]
  obtain ⟨named, plain⟩ := plain_of_mem_settings member
  rw [whole] at apart
  exact held.put named plain (fun earlier among =>
    (List.pairwise_append.1 apart).2.2 earlier among setting List.mem_cons_self) step

/-- The section of a configuration that is made of the defaults and variables. -/
def sectionOf (tree : Files.FileTree) (environment : Variables) : Outcome Value := do
  (← Layers.create tree none none (some environment)).mergedSection

/-- The section is the defaults with the options of the variables laid over them. -/
theorem sectionOf_eq (tree : Files.FileTree) (environment : Variables) :
    sectionOf tree environment = (optionsOf environment).map (overlaid defaultSection) := by
  have created : Layers.create tree none none (some environment) =
      Layers.initial.loadVariables environment := rfl
  rw [sectionOf, created, Layers.loadVariables]
  cases done : optionsOf environment with
  | error failure => rfl
  | ok options =>
      obtain ⟨entries, rfl⟩ := isMapping_iff.1 (mapping_of_optionsOf done).1
      cases entries with
      | nil => rfl
      | cons entry rest => rfl

/-- The order of the variables has no part in the section if the paths of their options are apart. -/
theorem same_sectionOf_of_perm {first second : Variables} (perm : first.Perm second)
    (apart : (settings first).Pairwise fun first second => Apart first.1 second.1)
    (tree : Files.FileTree) :
    ∃ one other, sectionOf tree first = .ok one ∧ sectionOf tree second = .ok other ∧ one.Same other := by
  have shuffled : (settings first).Perm (settings second) := perm.filterMap settingOf?
  have apartToo := (shuffled.pairwise_iff fun {_ _} apart => Apart.symm apart).1 apart
  obtain ⟨options, done, describes⟩ := exists_optionsOf apart
  obtain ⟨others, doneToo, describesToo⟩ := exists_optionsOf apartToo
  have same := describes.same describesToo fun _ => shuffled.mem_iff
  refine ⟨_, _, ?_, ?_, same.overlaid (mapping_of_optionsOf done).2 (mapping_of_optionsOf doneToo).2
    defaultSection⟩
  · rw [sectionOf_eq, done]
    rfl
  · rw [sectionOf_eq, doneToo]
    rfl

end Config
end ClassLoom
