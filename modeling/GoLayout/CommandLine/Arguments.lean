/-!
# Arguments

The command line is read from left to right.  Options that hold for every command may stand before and
after the name of the command; within one of these two levels an option may be given once, and what
stands after the name wins.  Whatever does not fit is rejected as a whole, unless help or the version
was asked for before.  A value that stands apart from its option is looked at when its level goes on;
the name of a command does not go on with the level before it.
-/

namespace GoLayout.CommandLine

/-- The commands. -/
inductive Verb
  | tokens
  | highlight
  | indent
  | mime
deriving DecidableEq, Repr

/-- The command with a name. -/
def Verb.ofName? (name : String) : Option Verb :=
  [("tokens", Verb.tokens), ("highlight", .highlight), ("indent", .indent), ("mime", .mime)].lookup name

/-- The options. -/
inductive Opt
  | verbose
  | config
  | indentUnit
  | tabSize
  | tabs
  | help
  | version
  | json
  | output
  | check
deriving DecidableEq, Repr

namespace Opt

/-- The long name of an option. -/
def long : Opt → String
  | verbose => "verbose"
  | config => "config"
  | indentUnit => "indent-unit"
  | tabSize => "tab-size"
  | tabs => "tabs"
  | help => "help"
  | version => "version"
  | json => "json"
  | output => "output"
  | check => "check"

/-- The letter of an option, if it has one. -/
def short? : Opt → Option Char
  | verbose => some 'v'
  | help => some 'h'
  | version => some 'V'
  | output => some 'o'
  | _ => none

/-- Whether an option has a value. -/
def hasValue : Opt → Bool
  | config | indentUnit | tabSize | output => true
  | _ => false

/-- The options that hold for every command. -/
def common : List Opt := [verbose, config, indentUnit, tabSize, tabs, help]

/-- The options before the name of a command, or after it. -/
def allowed : Option Verb → List Opt
  | none => version :: common
  | some .tokens => json :: common
  | some .indent => output :: check :: common
  | some _ => common

end Opt

/-- A number of 32 bits: decimal digits after an optional sign. -/
def number? (s : String) : Option Nat :=
  let (negative, digits) := match s.toList with
    | '-' :: digits => (true, digits)
    | '+' :: digits => (false, digits)
    | digits => (false, digits)
  if digits = [] ∨ ¬digits.all Char.isDigit then none
  else
    let n := digits.foldl (fun n c => 10 * n + (c.toNat - 48)) 0
    if negative ∧ n ≠ 0 then none else if n < 4294967296 then some n else none

/-- Whether a value is one that an option may have. -/
def Opt.accepts : Opt → String → Bool
  | .indentUnit, s | .tabSize, s => (number? s).isSome
  | _, s => s ≠ ""

/-- What was given at one level of the command line. -/
structure Given where
  flags : List Opt := []
  values : List (Opt × String) := []
  operands : List String := []
deriving DecidableEq, Repr

/-- Why reading the command line stops early. -/
inductive Stop
  | rejected
  | version
  | help
deriving DecidableEq, Repr

namespace Given

/-- Note a flag. -/
def addFlag (g : Given) (o : Opt) : Except Stop Given :=
  match o with
  | .version => .error .version
  | .help => .error .help
  | o => if o ∈ g.flags then .error .rejected else .ok { g with flags := o :: g.flags }

/-- Note the value of an option. -/
def addValue (g : Given) (o : Opt) (value : String) : Except Stop Given :=
  if (g.values.lookup o).isSome ∨ ¬o.accepts value then .error .rejected
  else .ok { g with values := (o, value) :: g.values }

/-- Note an operand; a command has one, and nothing else has any.  The name of a file is not empty. -/
def addOperand (g : Given) (level : Option Verb) (operand : String) : Except Stop Given :=
  if level = none ∨ g.operands ≠ [] ∨ (operand = "" ∧ level ≠ some .mime) then .error .rejected
  else .ok { g with operands := [operand] }

end Given

/-- What is not noted yet at one level of the command line. -/
inductive Pending
  | nothing
  /-- An option whose value is still to come. -/
  | awaits (o : Opt)
  /-- An option and the argument after it. -/
  | holds (o : Opt) (value : String)
deriving DecidableEq, Repr

/-- Note what is pending. -/
def Pending.settle (g : Given) : Pending → Except Stop Given
  | .nothing => .ok g
  | .awaits _ => .error .rejected
  | .holds o value => g.addValue o value

namespace Given

/-- Note a long option; it is left pending if its value is still to come. -/
def addLong (g : Given) (level : Option Verb) (text : List Char) :
    Except Stop (Given × Pending) :=
  let name := text.takeWhile (· ≠ '=')
  let value := text.dropWhile (· ≠ '=')
  match (Opt.allowed level).find? fun o => o.long.toList = name with
  | none => .error .rejected
  | some o =>
    match o.hasValue, value with
    | true, [] => .ok (g, .awaits o)
    | true, _ :: value => (g.addValue o (String.ofList value)).map (·, .nothing)
    | false, [] => (g.addFlag o).map (·, .nothing)
    | false, _ :: _ => .error .rejected

/-- Note a cluster of letters; the first one that has a value takes the rest of the cluster. -/
def addShort (level : Option Verb) : Given → List Char → Except Stop (Given × Pending)
  | g, [] => .ok (g, .nothing)
  | g, c :: rest =>
    match (Opt.allowed level).find? fun o => o.short? = some c with
    | none => .error .rejected
    | some o =>
      if o.hasValue then
        match rest with
        | [] => .ok (g, .awaits o)
        | '=' :: value => (g.addValue o (String.ofList value)).map (·, .nothing)
        | value => (g.addValue o (String.ofList value)).map (·, .nothing)
      else
        match g.addFlag o with
        | .error e => .error e
        | .ok g => addShort level g rest

end Given

/-- Whether help can be asked for on what follows the word `help`: on the program, on a command or on
`help` itself. -/
def isHelpTopic : List String → Bool
  | [] => true
  | [name] => name = "help" || (Verb.ofName? name).isSome
  | _ => false

/-- Read one level of the command line, to its end or to the name of a command.  In front of the name,
what is pending stays so. -/
def readLevel (level : Option Verb) :
    Pending → Given → List String → Except Stop (Given × Pending × Option (Verb × List String))
  | pending, g, [] => (pending.settle g).map (·, .nothing, none)
  | .awaits o, g, a :: args =>
    if a.toList.head? = some '-' ∧ a ≠ "-" then .error .rejected
    else readLevel level (.holds o a) g args
  | pending, g, a :: args =>
    match (if level = none then Verb.ofName? a else none) with
    | some verb => .ok (g, pending, some (verb, args))
    | none =>
      if level = none ∧ a = "help" then .error (if isHelpTopic args then .help else .rejected)
      else
        match pending.settle g with
        | .error e => .error e
        | .ok g =>
          if a = "--" then
            (args.foldlM (fun (g : Given) a => g.addOperand level a) g).map (·, .nothing, none)
          else
            let noted := match a.toList with
              | '-' :: '-' :: text => g.addLong level text
              | '-' :: c :: text => Given.addShort level g (c :: text)
              | _ => (g.addOperand level a).map (·, .nothing)
            match noted with
            | .error e => .error e
            | .ok (g, pending) => readLevel level pending g args

/-- What a command works on. -/
inductive Command
  /-- List the tokens of a file. -/
  | tokens (input : String) (json : Bool)
  /-- Print a file with colours. -/
  | highlight (input : String)
  /-- Re-indent a file, or check that it is indented. -/
  | indent (input : String) (output : Option String) (check : Bool)
  /-- Show the mode that a MIME type stands for. -/
  | mime (type : String)
deriving DecidableEq, Repr

/-- The settings on the command line. -/
structure Settings where
  configFile : Option String := none
  indentUnit : Option Nat := none
  tabSize : Option Nat := none
  tabs : Bool := false
deriving DecidableEq, Repr

/-- What the command line asks for. -/
inductive Request
  | version
  | help
  | run (settings : Settings) (command : Command)
deriving DecidableEq, Repr

/-- The settings of the two levels; what stands after the name of the command wins. -/
def Settings.ofGiven (before after : Given) : Settings :=
  let value (o : Opt) := (after.values.lookup o).or (before.values.lookup o)
  { configFile := value .config
    indentUnit := (value .indentUnit).bind number?
    tabSize := (value .tabSize).bind number?
    tabs := Opt.tabs ∈ before.flags ++ after.flags }

/-- The command with a verb, if its operand is given. -/
def Command.ofGiven? (verb : Verb) (g : Given) : Option Command :=
  match verb, g.operands with
  | .mime, [type] => some (.mime type)
  | .tokens, [input] => some (.tokens input (Opt.json ∈ g.flags))
  | .highlight, [input] => some (.highlight input)
  | .indent, [input] => some (.indent input (g.values.lookup .output) (Opt.check ∈ g.flags))
  | _, _ => none

/-- Read the command line, or reject it. -/
def Request.ofArguments? (args : List String) : Option Request :=
  let request : Except Stop Request := do
    let (before, pending, rest) ← readLevel none .nothing {} args
    match rest with
    | none => .error .rejected
    | some (verb, rest) =>
      let (after, _) ← readLevel (some verb) .nothing {} rest
      let before ← pending.settle before
      match Command.ofGiven? verb after with
      | some command => .ok (.run (.ofGiven before after) command)
      | none => .error .rejected
  match request with
  | .ok r => some r
  | .error .version => some .version
  | .error .help => some .help
  | .error .rejected => none

end GoLayout.CommandLine
