import ClassLoom.Log.Writing

namespace ClassLoom
namespace Run

/-!
# Writing classes back

In place, the class file is overwritten and gets a new time, and a class without changes is left
alone.  Into a staging directory a class is always written, since the new archive needs it.
-/

open Files (FileWork)

/-- Write a target; answers whether new content was written. -/
def writeBack (mode : Mode) (logger : String) (target : Target) : Work Bool := do
  let place := ((← Work.files).absolute target.writePath).toString
  match mode, Target.isNoop target with
  | .inPlace, true =>
    Log.debug logger
      ("No changes for " ++ target.className ++ ", leaving " ++ target.writePath.toString)
    return false
  | .inPlace, false =>
    Log.info logger ("writing transformation changes [" ++ place ++ "]")
    Work.onFiles (FileWork.writeFile place (target.transformed.getD []))
    if !(← Work.onFiles (FileWork.touch place none)) then
      Log.info logger ("Unable to manually update class file timestamp [" ++ place ++ "]")
    return true
  | .staged, true =>
    Work.onFiles (FileWork.writeFileInParents target.writePath.toString target.content)
    return false
  | .staged, false =>
    Log.info logger ("writing transformation changes [" ++ place ++ "]")
    Work.onFiles
      (FileWork.writeFileInParents target.writePath.toString (target.transformed.getD []))
    return true

end Run
end ClassLoom
