import ClassLoom.Proofs.Rebuild.Placing
import ClassLoom.Proofs.Run.Staging

namespace ClassLoom
namespace Run

/-!
# The course of a staging

A staging that succeeds visits the entries of the archive in their order.  What a visit comes to is
told by the entry and by the state in which it is visited: an accepted class is resolved there and
handed to the transformer, any other file is read from the archive, and a directory is made.
-/

open Config (Value)
open Files (FileTree FileWork Path IsName)
open Rebuild (Rebuilder StagedEntry Clear Lays Rooted)

variable {host : Host} {plan : Plan} {context : Context} {opened : Classpath.OpenArchive}
  {before after : Workspace}

/-! ## Accepted classes -/

theorem substance_substance (content : Option Bytes) :
    substance (substance content) = substance content := by
  cases content with
  | none => rfl
  | some bytes => cases bytes <;> rfl

/-- A class that is written back is written as the transformer has answered, or as it was. -/
theorem writeBack_ok {logger : String} {target : Target} {written : Bool}
    (run : writeBack .staged logger target before = (.ok written, after)) :
    ∃ middle, Follows Eq before middle ∧
      Work.onFiles (FileWork.writeFileInParents target.writePath.toString
        (if target.isNoop then target.content else target.transformed.getD [])) middle =
          (.ok (), after) := by
  unfold writeBack at run
  rw [Work.files_bind] at run
  cases noop : target.isNoop with
  | true =>
      rw [noop] at run
      obtain ⟨_, last, writing, answer⟩ := bind_ok run
      obtain ⟨_, rfl⟩ := pure_ok answer
      exact ⟨before, refl_of (Follows Eq) before, writing⟩
  | false =>
      rw [noop] at run
      obtain ⟨_, middle, logged, further⟩ := bind_ok run
      obtain ⟨_, last, writing, answer⟩ := bind_ok further
      obtain ⟨_, rfl⟩ := pure_ok answer
      exact ⟨middle, (Log.keeps_info _ _).run logged, writing⟩

/-- What happens to a class whose transformation succeeds: it is resolved by its name, handed to the
transformer, and what the transformer answers, or what it was handed, is written. -/
def Processed (host : Host) (context : Context) (className : String) (path : Path)
    (before after : Workspace) (source : Classpath.Source) (answer : Transformer.Answer) : Prop :=
  ∃ found called written,
    Classpath.resolve context.classpath className before = (.ok source, found) ∧
    Transformer.Invoker.invoke host context.invoker className source.content found =
      (.ok answer, called) ∧
    Follows Eq called written ∧
    Work.onFiles (FileWork.writeFileInParents path.toString
      ((substance answer.content).getD source.content)) written = (.ok (), after)

theorem process_ok (staged : context.mode = .staged) {report next : Report} {candidate : Candidate}
    {target : Option Target}
    (run : process host plan context report candidate before = (.ok (next, target), after)) :
    next.failures ≠ [] ∨ ∃ source answer made,
      Processed host context candidate.className candidate.filePath before after source answer ∧
      next.failures = report.failures ∧ target = some made ∧
      made.isNoop = (substance answer.content).isNone := by
  unfold process at run
  rw [staged] at run
  obtain ⟨sought, found, seeking, further⟩ := bind_ok run
  obtain ⟨_, source, same, resolved, rfl⟩ := resolve_ok seeking
  obtain rfl := Option.some.inj same
  obtain ⟨outcome, _, calling, ending⟩ := Work.attempt_bind further
  cases outcome with
  | error failure =>
      simp only at ending
      split at ending
      · obtain ⟨_, _, refused, _⟩ := bind_ok ending
        cases (throw_error refused).1
      · obtain ⟨_, _, _, answer⟩ := bind_ok ending
        obtain ⟨rfl, _⟩ := Prod.mk.inj (Except.ok.inj (pure_ok answer).1)
        exact .inl (by simp)
  | ok answer =>
      simp only at ending
      obtain ⟨made, called, applying, writing⟩ := bind_ok ending
      obtain ⟨rfl, applied⟩ := Work.ofOutcome_cases applying
      obtain rfl := apply_ok applied.symm
      obtain ⟨written, last, wrote, reported⟩ := bind_ok writing
      obtain ⟨ready, still, put⟩ := writeBack_ok wrote
      have noop : Target.isNoop { Target.new candidate.className source.location candidate.filePath
          source.content with transformed := substance answer.content, applied := true } =
          (substance answer.content).isNone :=
        congrArg Option.isNone (substance_substance answer.content)
      have course : Processed host context candidate.className candidate.filePath before last source
          answer := by
        refine ⟨found, called, ready, resolved, calling, still, ?_⟩
        rw [noop] at put
        cases content : substance answer.content with
        | none =>
            rw [content] at put
            exact put
        | some bytes =>
            rw [content] at put
            exact put
      have answered : next.failures = report.failures ∧ target = some { Target.new candidate.className
          source.location candidate.filePath source.content with
            transformed := substance answer.content, applied := true } ∧ after = last := by
        split at reported
        · obtain ⟨value, rfl⟩ := pure_ok reported
          obtain ⟨rfl, rfl⟩ := Prod.mk.inj (Except.ok.inj value)
          exact ⟨rfl, rfl, rfl⟩
        · obtain ⟨value, rfl⟩ := pure_ok reported
          obtain ⟨rfl, rfl⟩ := Prod.mk.inj (Except.ok.inj value)
          exact ⟨rfl, rfl, rfl⟩
      obtain ⟨failures, rfl, rfl⟩ := answered
      exact .inr ⟨source, answer, _, course, failures, rfl, noop⟩

/-! ## Visits -/

/-- The visit of an entry: the entry, and what there is when it is staged. -/
structure Visit where
  member : Zip.Member
  staging : Staging
  state : Workspace

namespace Visit

def isManifest (visit : Visit) : Bool := isManifestName visit.member.name

def isDirectory (visit : Visit) : Bool := isDirectoryName visit.member.name

/-- The names below the staging directory that lead to the entry. -/
def names (visit : Visit) : List String := nameParts visit.member.name

/-- The key under which the entry is remembered. -/
def key (visit : Visit) : String := Rebuild.keyOf visit.member.name visit.isDirectory

/-- Whether the entry is a class that the filter accepts. -/
def isAccepted (context : Context) (root : Path) (visit : Visit) : Bool :=
  isClassName visit.member.name &&
    context.filter.accepts (root.descend (nameParts visit.member.name)).toString

/-- The content that a file entry of an archive is staged with, and whether it is new. -/
inductive Content (host : Host) (context : Context) (archive : Bytes) (root : Path)
    (visit : Visit) : Bool → Bytes → Prop
  | copied {content : Bytes} : visit.isAccepted context root = false →
      visit.member.read archive = .ok content →
      Content host context archive root visit false content
  | processed {source : Classpath.Source} {answer : Transformer.Answer} {last : Workspace} :
      visit.isAccepted context root = true →
      Processed host context (classOfResource visit.member.name)
        (root.descend (nameParts visit.member.name)) visit.state last source answer →
      Content host context archive root visit (substance answer.content).isSome
        ((substance answer.content).getD source.content)

/-- What is remembered of the entry. -/
def entry (visit : Visit) (transformed : Bool) : StagedEntry :=
  ⟨visit.member.name, visit.isDirectory, if transformed then none else some visit.member.stamp,
    visit.member.attributes, transformed⟩

end Visit

/-- A course of visits that all succeed, one after the other. -/
inductive Course (host : Host) (plan : Plan) (context : Context) (opened : Classpath.OpenArchive)
    (first : Staging) (start : Workspace) : List Visit → Staging → Workspace → Prop
  | nothing : Course host plan context opened first start [] first start
  | visit {visits : List Visit} {member : Zip.Member} {staging next : Staging}
      {before after : Workspace} :
      Course host plan context opened first start visits staging before →
      stageEntry host plan context opened staging member before = (.ok next, after) →
      Course host plan context opened first start (visits ++ [⟨member, staging, before⟩]) next after

theorem openJar_ok {jar : Path} (run : openJar jar before = (.ok opened, after)) :
    after = before ∧ Classpath.openArchive before.files jar = .ok opened := by
  unfold openJar at run
  rw [Work.files_bind] at run
  cases answer : Classpath.openArchive before.files jar with
  | error cause =>
      rw [answer] at run
      simp only at run
      split at run
      · cases (throw_error run).1
      · cases (throw_error run).1
  | ok found =>
      rw [answer] at run
      obtain ⟨same, rfl⟩ := pure_ok run
      exact ⟨rfl, by rw [Except.ok.inj same]⟩

/-- The visits of a staging are those of the entries of the archive. -/
theorem course_of_stageArchive {jar : Path} {rebuilder : Rebuilder} {staging : Staging}
    (run : stageArchive host plan context jar rebuilder before = (.ok staging, after)) :
    ∃ opened visits, Classpath.openArchive before.files jar = .ok opened ∧
      visits.map Visit.member = opened.archive.members ∧
      Course host plan context opened ⟨.start .staged jar.toString, rebuilder, none⟩ before visits
        staging after := by
  obtain ⟨opened, middle, opening, folding⟩ := bind_ok run
  obtain ⟨rfl, openedOk⟩ := openJar_ok opening
  obtain ⟨visits, members, course⟩ := foldlM_ok (fun past value (state : Workspace) =>
    ∃ visits, visits.map Visit.member = past ∧ Course host plan context opened
      ⟨.start .staged jar.toString, rebuilder, none⟩ middle visits value state)
    (fun _ ⟨visits, members, course⟩ step => ⟨_, by simp [members], course.visit step⟩)
    ⟨[], rfl, .nothing⟩ folding
  exact ⟨opened, visits, openedOk, members, course⟩

end Run
end ClassLoom
