/-
**The program.**

The disk of the machine is an instance of `Files`, and the program is `Command.runArguments` there.
-/

import ChapterAssembly.Command.Run

set_option relaxedAutoImplicit false
set_option autoImplicit false

namespace ChapterAssembly

/-- What a disk says, in the words of the library. -/
def DiskError.ofIO : IO.Error → DiskError
  | .noFileOrDirectory _ _ _ => .missing
  | .alreadyExists _ _ _ => .occupied
  | .inappropriateType _ code _ => if code = 21 then .isDirectory else .notDirectory
  | .invalidArgument _ code reason => if code = 36 then .nameTooLong else .other reason
  | e => .other (toString e)

/-- Work on the disk, with what it says. -/
def onMachine {α : Type} (work : IO α) : IO (Except DiskError α) := do
  return (← work.toBaseIO).mapError DiskError.ofIO

instance : Files IO where
  read path := onMachine do
    let handle ← IO.FS.Handle.mk (String.ofList path) .read
    return (← handle.readBinToEnd).toList
  isThere path := do
    match ← onMachine (IO.FS.Handle.mk (String.ofList path) .read) with
    | .ok _ => return .ok true
    | .error .missing => return .ok false
    | .error e => return .error e
  makeDirectories path := onMachine (IO.FS.createDirAll (String.ofList path))
  write path bytes := onMachine (IO.FS.writeBinFile (String.ofList path) ⟨bytes.toArray⟩)

end ChapterAssembly

open ChapterAssembly in
/-- Runs the program with some arguments, and ends with the code of its report. -/
def main (arguments : List String) : IO UInt32 := do
  let report ← Command.runArguments (arguments.map String.toList)
  IO.print (String.ofList report.output)
  if let some complaint := report.ending.complaint? then
    IO.eprintln (String.ofList complaint)
  return report.ending.code
