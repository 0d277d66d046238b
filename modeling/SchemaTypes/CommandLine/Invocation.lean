import SchemaTypes.CommandLine.Option
import SchemaTypes.Terminal.Color

/-!
# Invocations

The commands of the program, their options, and the reading of a command line.

## Main definitions

* `Command.options`, `Command.below`: what may follow the name of a command.
* `Invocation.parse`: the command that a command line gives.
-/

namespace SchemaTypes

/-- How much is written about a run. -/
inductive Verbosity
  | quiet
  | normal
  | verbose
deriving DecidableEq, Repr, Inhabited

/-- What `generate` is asked to do, with the defaults of all options. -/
structure GenerateArguments where
  input : String
  output : String
  /-- Name of the root type. -/
  className : Option String := none
  moduleRoot : String := "crate"
  /-- Existing types, each as a reference, an equals sign and a path. -/
  references : List String := []
  treatDefaultedAsOptional : Bool := false
  noEnums : Bool := false
  serde : Bool := false
  dryRun : Bool := false
  maxDepth : Nat := 64
  verbosity : Verbosity := .normal
deriving DecidableEq, Repr, Inhabited

/-- What `list` is asked to do. -/
structure ListArguments where
  input : String
  /-- Name of the root type. -/
  className : Option String := none
deriving DecidableEq, Repr, Inhabited

/-- What the program is asked to do. -/
inductive Job
  | generate (arguments : GenerateArguments)
  | listTypes (arguments : ListArguments)
deriving DecidableEq, Repr, Inhabited

/-- The document that a job reads. -/
def Job.input : Job → String
  | .generate arguments => arguments.input
  | .listTypes arguments => arguments.input

/-- A job, and how its output is to look. -/
structure Invocation where
  job : Job
  chosenColor : Option ColorMode := none
  chosenTheme : Option ThemeMode := none
deriving DecidableEq, Repr, Inhabited

namespace Invocation

/-- Whether to color output; left to the terminal unless it was chosen. -/
def color (invocation : Invocation) : ColorMode := invocation.chosenColor.getD .auto

/-- The theme of colored output; left to the terminal unless it was chosen. -/
def theme (invocation : Invocation) : ThemeMode := invocation.chosenTheme.getD .auto

end Invocation

/-- What the options of one command give. -/
structure Given where
  color : Option ColorMode := none
  theme : Option ThemeMode := none
  input : Option String := none
  output : Option String := none
  className : Option String := none
  moduleRoot : Option String := none
  references : List String := []
  maxDepth : Option Nat := none
  treatDefaultedAsOptional : Bool := false
  noEnums : Bool := false
  serde : Bool := false
  dryRun : Bool := false
  verbose : Bool := false
  quiet : Bool := false
deriving DecidableEq, Repr, Inhabited

/-! ## Values -/

namespace OptionValue

/-- The value of an option that is given at most once. -/
def once {α : Type} (option : String) (current : Option α) (value : Except UsageNotice α) :
    Except UsageNotice (Option α) :=
  if current.isSome then .error (.conflict option option) else value.map some

/-- A flag that is given at most once. -/
def raised (option : String) (current : Bool) : Except UsageNotice Bool :=
  if current then .error (.conflict option option) else .ok true

/-- A path is not empty. -/
def path (option value : String) : Except UsageNotice String :=
  if value.isEmpty then .error (.missingValue option) else .ok value

/-- Reads a value that has to be one of several words. -/
def choice {α : Type} (option : String) (choices : List (String × α)) (value : String) :
    Except UsageNotice α :=
  match choices.lookup value with
  | some chosen => .ok chosen
  | none => .error (.notAChoice option value)

/-- A number of 64 bits in decimal digits, after a plus sign if there is one. -/
def count (option value : String) : Except UsageNotice Nat :=
  let digits :=
    match value.toList with
    | '+' :: rest => rest
    | chars => chars
  let number := digits.foldl (fun sum c => 10 * sum + (c.toNat - '0'.toNat)) 0
  if !digits.isEmpty && digits.all Char.isDigit && number < 0x10000000000000000 then .ok number
  else .error (.unreadableValue option value)

end OptionValue

/-! ## Commands -/

/-- A command of the program, below which there may be others. -/
inductive Command
  | root
  | generate
  | list
  | listTypes
  | help
deriving DecidableEq, Repr, Inhabited

namespace Command

open OptionValue

/-- The commands that may follow. -/
def below : Command → List (String × Command)
  | root => [("list", list), ("generate", generate), ("help", help)]
  | list => [("types", listTypes), ("help", help)]
  | generate | listTypes | help => []

/-- `--color`: when to color output. -/
def colorOption : CommandOption Given where
  name := "color"
  action := .value fun value given => do
    let choices := [("always", ColorMode.always), ("auto", .auto), ("never", .never)]
    let color ← once "color" given.color (choice "color" choices value)
    return { given with color }

/-- `--theme`: colors for a dark or a light background. -/
def themeOption : CommandOption Given where
  name := "theme"
  action := .value fun value given => do
    let choices := [("dark", ThemeMode.dark), ("light", .light), ("auto", .auto)]
    let theme ← once "theme" given.theme (choice "theme" choices value)
    return { given with theme }

/-- `--input`: the document. -/
def inputOption : CommandOption Given where
  name := "input"
  letter := some 'i'
  action := .value fun value given => do
    let input ← once "input" given.input (path "input" value)
    return { given with input }

/-- `--output`: the directory that modules are written to. -/
def outputOption : CommandOption Given where
  name := "output"
  letter := some 'o'
  action := .value fun value given => do
    let output ← once "output" given.output (path "output" value)
    return { given with output }

/-- `--class`: the name of the root type. -/
def classOption : CommandOption Given where
  name := "class"
  letter := some 'c'
  action := .value fun value given => do
    let className ← once "class" given.className (.ok value)
    return { given with className }

/-- `--module-root`: the path of the module that types are generated into. -/
def moduleRootOption : CommandOption Given where
  name := "module-root"
  action := .value fun value given => do
    let moduleRoot ← once "module-root" given.moduleRoot (.ok value)
    return { given with moduleRoot }

/-- May be given several times. -/
def referenceOption : CommandOption Given where
  name := "reference"
  letter := some 'r'
  action := .value fun value given =>
    .ok { given with references := given.references ++ [value] }

/-- `--max-depth`: how deep schemas may nest. -/
def maxDepthOption : CommandOption Given where
  name := "max-depth"
  action := .value fun value given => do
    let maxDepth ← once "max-depth" given.maxDepth (count "max-depth" value)
    return { given with maxDepth }

/-- Options without a value, each of which may be given once. -/
def flags : List (CommandOption Given) := [
  { name := "treat-defaulted-as-optional"
    action := .flag fun given => do
      let raised ← raised "treat-defaulted-as-optional" given.treatDefaultedAsOptional
      return { given with treatDefaultedAsOptional := raised } },
  { name := "no-enums"
    action := .flag fun given => do
      return { given with noEnums := ← raised "no-enums" given.noEnums } },
  { name := "serde"
    action := .flag fun given => do
      return { given with serde := ← raised "serde" given.serde } },
  { name := "dry-run"
    action := .flag fun given => do
      return { given with dryRun := ← raised "dry-run" given.dryRun } },
  { name := "verbose"
    letter := some 'v'
    action := .flag fun given => do
      return { given with verbose := ← raised "verbose" given.verbose } },
  { name := "quiet"
    letter := some 'q'
    action := .flag fun given => do
      return { given with quiet := ← raised "quiet" given.quiet } }]

/-- `--help`. -/
def helpOption : CommandOption Given := ⟨"help", some 'h', .answer .help⟩

/-- `--version`. -/
def versionOption : CommandOption Given := ⟨"version", some 'V', .answer .version⟩

/-- The options of a command.  Colours may be chosen anywhere. -/
def options (command : Command) : List (CommandOption Given) :=
  let shared := [colorOption, themeOption, helpOption]
  match command with
  | root => versionOption :: shared
  | generate =>
    [inputOption, outputOption, classOption, moduleRootOption, referenceOption, maxDepthOption] ++
      flags ++ shared
  | listTypes => [inputOption, classOption] ++ shared
  | list => shared
  | help => []

/-- What help on a chain of commands comes to. -/
def helpOn : (command : Command) → List String → UsageNotice
  | _, [] => .help
  | command, name :: rest =>
    match command.below.lookup name with
    | some next => helpOn next rest
    | none => .unknownCommand name

/-- What a command without another one below it asks for. -/
def job (command : Command) (given : Given) : Except UsageNotice Job :=
  match command with
  | generate =>
    if given.verbose && given.quiet then .error (.conflict "verbose" "quiet")
    else
      match given.input, given.output with
      | some input, some output => .ok <| .generate {
          input
          output
          className := given.className
          moduleRoot := given.moduleRoot.getD "crate"
          references := given.references
          treatDefaultedAsOptional := given.treatDefaultedAsOptional
          noEnums := given.noEnums
          serde := given.serde
          dryRun := given.dryRun
          maxDepth := given.maxDepth.getD 64
          verbosity :=
            if given.quiet then .quiet else if given.verbose then .verbose else .normal }
      | input, output =>
        let missing := (if input.isNone then ["input"] else []) ++
          (if output.isNone then ["output"] else [])
        .error (.missingOptions missing)
  | listTypes =>
    match given.input with
    | some input => .ok (.listTypes { input, className := given.className })
    | none => .error (.missingOptions ["input"])
  | root | list | help => .error (if given == {} then .nothingGiven else .missingCommand)

/-- A word that is no option, no value and no command that may follow. -/
def stray (command : Command) (word : String) : UsageNotice :=
  if command.below.isEmpty || (command.below.lookup word).isSome then .unexpectedWord word
  else .unknownCommand word

/-- Reads the words behind the name of a command.  After the separator no word is expected.  A
command below is read to its end before the options of this one are settled, and its choice of
colours comes first. -/
def read (command : Command) (separated : Bool) (reading : Reading Given) :
    List String → Except UsageNotice Invocation
  | [] => do
    let given := (← reading.settle).given
    let job ← command.job given
    return { job, chosenColor := given.color, chosenTheme := given.theme }
  | word :: rest =>
    if separated then .error (command.stray word)
    else
      match if reading.isAwaiting then none else command.below.lookup word with
      | some .help => .error (command.helpOn rest)
      | some next => do
        let invocation ← read next false { given := {} } rest
        let given := (← reading.settle).given
        return {
          job := invocation.job
          chosenColor := invocation.chosenColor <|> given.color
          chosenTheme := invocation.chosenTheme <|> given.theme }
      | none =>
        match CommandWord.ofText word with
        | .separator => read command true reading rest
        | .named name value => do
          read command false (← reading.takeNamed command.options name value) rest
        | .letters letters => do
          read command false (← Reading.takeLetters command.options letters reading) rest
        | .plain =>
          if reading.isAwaiting then read command false (reading.fill word) rest
          else .error (command.stray word)

end Command

/-- The command that a command line gives. -/
def Invocation.parse (words : List String) : Except UsageNotice Invocation :=
  Command.root.read false { given := {} } words

end SchemaTypes
