import ClassLoom.Classpath.Lookup
import ClassLoom.Run.Target

namespace ClassLoom
namespace Run

/-!
# Resolving candidates

In place, a candidate's octets are those of its file.  Into a staging directory they are looked up
on the classpath by the name of the class.
-/

/-- The target of a candidate. -/
def Resolver.resolve (resolver : Resolver) (candidate : Candidate) : Work Target := do
  match resolver.mode, resolver.classpath with
  | .inPlace, _ =>
    let path := candidate.filePath.toString
    let content ← Work.onFiles (Files.FileWork.load path)
    return .new candidate.className ⟨path, none⟩ candidate.filePath content
  | .staged, some classpath =>
    let source ← Classpath.resolve classpath candidate.className
    return .new candidate.className source.location candidate.filePath source.content
  | .staged, none => throw (.general .classpathNeeded)

end Run
end ClassLoom
