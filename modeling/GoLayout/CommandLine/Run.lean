import GoLayout.CommandLine.Arguments
import GoLayout.CommandLine.Directory
import GoLayout.Document.Listing
import GoLayout.Document.Reindent

/-!
# Running a command

A run reads files, may print, and may write one file.  The configuration is settled before the command
looks at its input, and the output is printed or written last, so a run that fails has printed nothing but its
complaint.  `program` is what runs, in any monad that is a system; `run` is the program in a file system that
is given as a value.
-/

namespace GoLayout.CommandLine

open GoLayout.Text
open MonadSystem (readFile writeFile print complain)

/-- Why a run fails. -/
inductive Problem
  /-- The configuration file cannot be used. -/
  | config (path : String) (failure : Failure)
  /-- The settings do not make a mode. -/
  | settings (defect : Config.Defect)
  /-- The input cannot be read. -/
  | source (path : String) (fault : FileFault)
  /-- The output cannot be written. -/
  | target (path : String) (fault : FileFault)
  /-- The input is not indented. -/
  | notIndented (path : String)
  /-- No mode is known for the MIME type. -/
  | lookup (missing : Registry.Missing)
deriving DecidableEq, Repr

/-! ## Complaints -/

/-- A text with `margin` after each line feed. -/
def hang (margin : Nat) (s : String) : String :=
  String.ofList (s.toList.flatMap fun c =>
    if c = '\n' then '\n' :: List.replicate margin ' ' else [c])

/-- The causes of a failure, one in a line; they are numbered if there are several. -/
def causeLines : List String → List String
  | [cause] => ["    " ++ hang 4 cause]
  | causes => causes.mapIdx fun i cause => padStart 5 (toString i) ++ ": " ++ hang 7 cause

/-- A word in bold letters of a colour. -/
def label (color : Bool) (code word : String) : String :=
  String.ofList (colour color code word.toList)

/-- What is said about a problem that a command meets. -/
def Problem.message : Problem → String
  | .config path _ => "Failed to load config: " ++ quoteString path
  | .settings d => d.message
  | .source path f => "Failed to read source file: " ++ quoteString path ++ ": " ++ f.message
  | .target path f => "Failed to write output file: " ++ quoteString path ++ ": " ++ f.message
  | .notIndented path => quoteString path ++ " is not indented"
  | .lookup m => m.message

/-- The complaint about a problem.  Problems of the configuration list their causes. -/
def Problem.complaint (color : Bool) : Problem → String
  | .config path failure =>
    "Error: " ++ Problem.message (.config path failure) ++ "\n\nCaused by:\n"
      ++ String.join ((causeLines failure.chain).map fun l => l ++ "\n")
  | .settings d => "Error: " ++ d.message ++ "\n"
  | p => label color "1;31" "error" ++ ": " ++ p.message ++ "\n"

/-! ## Commands -/

variable {m : Type → Type} [Monad m] [MonadSystem m]

namespace Settings

/-- What the settings on the command line make of a configuration. -/
def override (s : Settings) (c : Config) : Config where
  indentUnit := s.indentUnit.getD c.indentUnit
  tabSize := s.tabSize.getD c.tabSize
  indentWithTabs := s.tabs || c.indentWithTabs

/-- The configuration that the settings start from. -/
def base (s : Settings) : ExceptT Problem m Config := do
  match s.configFile with
  | none => return {}
  | some path =>
    match Config.ofFile (← readFile path) with
    | .ok c => return c
    | .error failure => throw (.config path failure)

/-- The mode that the settings make. -/
def mode (s : Settings) : ExceptT Problem m Mode := do
  match Mode.ofConfig (s.override (← s.base)) with
  | .ok mode => return mode
  | .error d => throw (.settings d)

end Settings

/-- Read an input. -/
def source (path : String) : ExceptT Problem m String := do
  match ← readFile path with
  | .ok text => return text
  | .error f => throw (.source path f)

/-- Write an output. -/
def save (path text : String) : ExceptT Problem m Unit := do
  match ← writeFile path text with
  | .ok () => return ()
  | .error f => throw (.target path f)

/-- Perform a command in a mode. -/
def Command.perform (color : Bool) (mode : Mode) : Command → ExceptT Problem m Unit
  | .tokens input json => do
    let ls := mode.highlight (← source input)
    print (if json then Json.array (ls.map LineSpans.json) 0 ++ "\n" else table ls)
  | .highlight input => do
    print (painted color (mode.highlight (← source input)))
  | .indent input output check => do
    let text ← source input
    let indented := mode.reindent text
    if check then
      if indented = text then
        print (label color "1;32" "ok" ++ ": " ++ quoteString input ++ " is indented\n")
      else throw (.notIndented input)
    else
      match output with
      | some path => save path indented
      | none => print indented
  | .mime type =>
    match Registry.standard.resolve type with
    | .ok spec => print (spec.json 0 ++ "\n")
    | .error missing => throw (.lookup missing)

/-! ## The program -/

/-- The name and the version of the program. -/
def versionText : String := "gomode 0.1.0\n"

/-- How the program is used. -/
def usageText : String :=
  String.join <| List.map (fun l => l ++ "\n")
    ["Tokenize and auto-indent Go source line by line", "",
      "Usage: gomode [OPTIONS] tokens FILE [--json]",
      "       gomode [OPTIONS] highlight FILE",
      "       gomode [OPTIONS] indent FILE [-o FILE] [--check]",
      "       gomode [OPTIONS] mime TYPE", "",
      "Options: --config FILE, --indent-unit N, --tab-size N, --tabs, -v, -h, -V"]

/-- Make the mode that the settings ask for, and perform a command in it. -/
def Settings.perform (color : Bool) (s : Settings) (c : Command) : ExceptT Problem m Unit := do
  c.perform color (← s.mode)

/-- Tell the exit code of a run, and complain if it has failed. -/
def conclude (color : Bool) : Except Problem Unit → m Nat
  | .ok () => return 0
  | .error p => do
    complain (p.complaint color)
    return 1

/-- The whole program, given its arguments; its exit code is the result. -/
def program (color : Bool) (args : List String) : m Nat := do
  match Request.ofArguments? args with
  | none =>
    complain usageText
    return 2
  | some .version =>
    print versionText
    return 0
  | some .help =>
    print usageText
    return 0
  | some (.run s c) => conclude color (← (s.perform color c).run)

/-- How a run has ended: its exit code and what it leaves behind. -/
structure Outcome (δ : Type) extends World δ where
  exit : Nat

/-- Run the program in a file system. -/
def run {δ : Type} [FileSystem δ] (color : Bool) (args : List String) (d : δ) : Outcome δ :=
  let ended := (program color args : StateM (World δ) Nat).run (.start d)
  { ended.2 with exit := ended.1 }

end GoLayout.CommandLine
