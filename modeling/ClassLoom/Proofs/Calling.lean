import ClassLoom.Proofs.Answering
import ClassLoom.Proofs.Files.Shapes

namespace ClassLoom

/-!
# Calls of a transformer that computes

A transformer that is a function of the name and the content of a class does nothing but take time,
and print what it prints.  What it prints is a function of the same, so the printed text is a record
of its calls: which classes it was called on, with what content, in which order.
-/

open Files (FileTree)

/-- The same tree, later. -/
def Files.FileTree.TimePasses (before after : FileTree) : Prop :=
  ∃ moment, before.clock ≤ moment ∧ after = { before with clock := moment }

/-- Nothing happens but that time passes and something is printed. -/
def Prints (text : String) (before after : Workspace) : Prop :=
  before.LogsToNoFile → after.LogsToNoFile ∧ after.printed = before.printed ++ text ∧
    before.files.TimePasses after.files

/-- A host whose transformers answer with a function of the class, and print a function of it. -/
structure Host.Computes (host : Host) (respond : String → Bytes → Outcome Config.Value)
    (note : String → Bytes → String) : Prop where
  answer : ∀ (ready : Transformer.Ready) (loader : Option Nat) (className : String)
    (content : Bytes) (workspace : Workspace),
    (host.transform ready loader className content workspace).1 = respond className content
  transform : ∀ (ready : Transformer.Ready) (loader : Option Nat) (className : String)
    (content : Bytes) (workspace : Workspace),
    Prints (note className content) workspace (host.transform ready loader className content workspace).2
  construct : ∀ (procedure : Nat) (workspace : Workspace),
    Prints "" workspace (host.construct procedure workspace).2

theorem Files.FileTree.Alike.shape {before after : FileTree} (alike : Alike before after) :
    SameShape before after :=
  ⟨fun place => congrArg (Option.map Entry.shape) (alike.places place), alike.start⟩

namespace Files.FileTree.TimePasses

variable {before after : FileTree}

theorem refl (tree : FileTree) : TimePasses tree tree := ⟨tree.clock, le_refl _, rfl⟩

theorem trans {middle : FileTree} (first : TimePasses before middle)
    (second : TimePasses middle after) : TimePasses before after := by
  obtain ⟨moment, later, rfl⟩ := first
  obtain ⟨last, latest, rfl⟩ := second
  exact ⟨last, later.trans latest, rfl⟩

theorem at? (passes : TimePasses before after) (place : Location) :
    after.at? place = before.at? place := by
  obtain ⟨_, _, rfl⟩ := passes
  rfl

theorem shape (passes : TimePasses before after) : SameShape before after :=
  ⟨fun place => by rw [passes.at?], by obtain ⟨_, _, rfl⟩ := passes; rfl⟩

theorem clock (passes : TimePasses before after) : before.clock ≤ after.clock := by
  obtain ⟨_, later, rfl⟩ := passes
  exact later

theorem sound (passes : TimePasses before after) (sound : before.Sound) : after.Sound := by
  obtain ⟨moment, _, rfl⟩ := passes
  exact sound.clock moment

end Files.FileTree.TimePasses

theorem Prints.trans {first second : String} {before middle after : Workspace}
    (one : Prints first before middle) (two : Prints second middle after) :
    Prints (first ++ second) before after := by
  intro quiet
  obtain ⟨quietMiddle, printed, passes⟩ := one quiet
  obtain ⟨quietLast, printedLast, passesLast⟩ := two quietMiddle
  refine ⟨quietLast, ?_, passes.trans passesLast⟩
  rw [printedLast, printed, String.append_assoc]

instance : IsPreorder Workspace (Prints "") where
  refl workspace quiet := ⟨quiet, String.append_empty.symm, .refl workspace.files⟩
  trans _ _ _ first second := String.append_empty (s := "") ▸ first.trans second

instance : Bookkeeping (Prints "") where
  same files loggers printed quiet := by
    refine ⟨?_, ?_, files ▸ .refl _⟩
    · unfold Workspace.LogsToNoFile
      rw [loggers]
      exact quiet
    · rw [printed, String.append_empty]
  logged name level message context error := by
    intro before quiet
    obtain ⟨files, printed, quietAfter⟩ := Log.write_quiet quiet name level message context error
    exact ⟨quietAfter, by rw [printed, String.append_empty], files ▸ .refl _⟩

namespace Transformer

variable {host : Host} {respond : String → Bytes → Outcome Config.Value}
  {note : String → Bytes → String} {number : Nat} {className : String} {content : Bytes}
  {before after : Workspace}

/-- A call fails, or it answers what the transformer computes, which has then been called once. -/
theorem Invoker.invoke_cases (computes : host.Computes respond note) {outcome : Outcome Answer}
    (run : Invoker.invoke host number className content before = (outcome, after)) :
    (∃ failure text, outcome = .error failure ∧ Prints text before after) ∨
      ∃ value answer, outcome = .ok answer ∧ respond className content = .ok value ∧
        contentOf value = .ok answer.content ∧ Prints (note className content) before after := by
  have preparing : Keeps (Prints "") (Invoker.prepare host number) :=
    Invoker.keeps_prepare computes.construct number
  rcases readies : Invoker.prepare host number before with ⟨prepared, middle⟩
  have made := preparing.run readies
  cases prepared with
  | error failure =>
      have fails : Invoker.invoke host number className content before = (.error failure, middle) := by
        rw [Invoker.invoke, bind_of_error readies]
      obtain ⟨rfl, rfl⟩ := Prod.mk.inj (run.symm.trans fails)
      exact .inl ⟨failure, "", rfl, made⟩
  | ok ready =>
      let loader := (middle.invokers.getD number (.new none none)).loader
      have responds := computes.answer ready loader className content middle
      have prints := computes.transform ready loader className content middle
      rcases calls : host.transform ready loader className content middle with ⟨answered, called⟩
      rw [calls] at responds prints
      obtain ⟨rfl, rfl⟩ := Prod.mk.inj (run.symm.trans (Invoker.invoke_eq readies calls))
      have counting : Prints "" called (counted number called (upshot? answered)) := by
        obtain ⟨change, _, counts⟩ := counted_eq number called (upshot? answered)
        rw [counts]
        exact Bookkeeping.same rfl rfl rfl
      have printed := made.trans (prints.trans counting)
      rw [String.append_empty, String.empty_append] at printed
      cases concluded : conclusion ready.name className answered with
      | error failure => exact .inl ⟨failure, _, rfl, printed⟩
      | ok answer =>
          obtain ⟨value, rfl, read⟩ := exists_of_conclusion concluded
          exact .inr ⟨value, answer, rfl, responds.symm, read, printed⟩

end Transformer

end ClassLoom
