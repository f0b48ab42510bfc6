import GoLayout.CommandLine.Run

/-!
# The program

Runs in the system that it was started in.
-/

open GoLayout GoLayout.CommandLine

namespace GoLayout.Program

/-- The number of an error of the system, which may be reported with a minus sign. -/
def errorNumber (code : UInt32) : UInt32 := min code (0 - code)

/-- The fault behind an error of the system. -/
def faultOf : IO.Error → FileFault
  | .noFileOrDirectory .. => .notFound
  | e@(.inappropriateType _ code _) =>
    if errorNumber code = 20 then .notDirectory
    else if errorNumber code = 21 then .isDirectory
    else .other (toString e)
  | e@(.invalidArgument _ code _) =>
    if errorNumber code = 36 then .nameTooLong else .other (toString e)
  | e => .other (toString e)

/-- The text of a file. -/
def readText (path : String) : IO (Except FileFault String) := do
  try
    match String.fromUTF8? (← IO.FS.readBinFile path) with
    | some text => return .ok text
    | none => return .error .notText
  catch e => return .error (faultOf e)

/-- Make a text the content of a file. -/
def writeText (path text : String) : IO (Except FileFault Unit) := do
  try
    IO.FS.writeFile path text
    return .ok ()
  catch e => return .error (faultOf e)

instance : MonadSystem IO where
  readFile := readText
  writeFile := writeText
  print := IO.print
  complain := IO.eprint

/-- Whether the environment asks for colours, or else a terminal is there to show them. -/
def wantsColor : IO Bool := do
  let isOn (name : String) : IO (Option Bool) := do return (← IO.getEnv name).map (· ≠ "0")
  if (← isOn "CLICOLOR_FORCE") = some true then return true
  if (← isOn "NO_COLOR").isSome then return false
  return (← isOn "CLICOLOR").getD true && (← (← IO.getStdout).isTty)

end GoLayout.Program

/-- Do what the command line asks for. -/
def main (args : List String) : IO UInt32 := do
  let exit ← program (← Program.wantsColor) args
  return exit.toUInt32
