import SchemaTypes.Session.Basic
import Std.Time.Zoned

/-!
# The program

Carries out the plan that the command line asks for.  The program ends with 0 when all went well,
with 1 when the run failed, and with 2 when the command line gives no command.
-/

namespace SchemaTypes.Program

/-- Why a file or directory cannot be used, in the words of the program. -/
def faultOf (error : IO.Error) : FileFault :=
  match error with
  | .noFileOrDirectory .. => .missing
  | .alreadyExists .. => .alreadyExists
  | .inappropriateType .. => .notADirectory
  | other => .other (toString other)

/-- The bytes of a file. -/
def readSource (path : String) : IO (Except FileFault (List UInt8)) := do
  try return .ok (← IO.FS.readBinFile path).toList
  catch error => return .error (faultOf error)

/-- What the program finds out about its terminal. -/
def surroundings : IO Surroundings := do
  let terminal ← (← IO.getStdout).isTty
  let colorless ← IO.getEnv "NO_COLOR"
  let background ← IO.getEnv "COLORFGBG"
  return {
    colorTerminal := terminal && colorless.isNone
    background := background.bind fun colors =>
      (Text.split ';' colors).getLast?.bind String.toNat? }

/-- A number in two digits. -/
def twoDigits (number : Int) : String :=
  let digits := toString number
  if digits.length < 2 then "0" ++ digits else digits

/-- The time of day in brackets. -/
def timeOfDay : IO String := do
  let now ← Std.Time.PlainTime.now
  let parts := [now.hour.val, now.minute.val, now.second.val].map twoDigits
  return "[" ++ ":".intercalate parts ++ "]"

/-- Writes a file, and makes the directories it lies in. -/
def writeFile (path contents : String) : IO Unit := do
  match FilePath.parent? path with
  | some directory => if !directory.isEmpty then IO.FS.createDirAll directory
  | none => pure ()
  IO.FS.writeFile path contents

/-- One action, for real. -/
def carryOut : Action → IO Unit
  | .print line => IO.println line
  | .printTimed paint line => do IO.println (timed paint (← timeOfDay) line)
  | .warn line => IO.eprintln line
  | .write path contents => writeFile path contents

/-- Tells about a failure: what failed, and then why. -/
def report (fault : SessionFault) : IO Unit := do
  match fault.messages with
  | [] => pure ()
  | message :: causes =>
    IO.eprintln ("Error: " ++ message)
    if !causes.isEmpty then
      IO.eprintln "\nCaused by:"
      for cause in causes do IO.eprintln ("    " ++ cause)

/-- A whole invocation, with the exit status: 0 for a success or an answer, 2 for words that cannot
be read. -/
def run (arguments : List String) : IO UInt32 := do
  match Invocation.parse arguments with
  | .error notice =>
    if notice.isAnswer then
      IO.println notice.message
      return 0
    else
      IO.eprintln ("error: " ++ notice.message)
      return 2
  | .ok invocation =>
    let plan := invocation.plan (← surroundings) (← readSource invocation.job.input)
    try plan.actions.forM carryOut
    catch error =>
      report (.file (faultOf error))
      return 1
    match plan.fault with
    | none => return 0
    | some fault =>
      report fault
      return 1

end SchemaTypes.Program

/-- The program. -/
def main (arguments : List String) : IO UInt32 := SchemaTypes.Program.run arguments
