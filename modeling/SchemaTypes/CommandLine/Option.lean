import SchemaTypes.CommandLine.Notice
import SchemaTypes.Text.Split

/-!
# Options

An option is given by its name behind two dashes, or by its letter behind one.  Letters may be run
together.  A value follows in the same word or in the next one.  A value in a word of its own takes
effect when the next option or the end is reached, so a mistake found before comes first.

## Main definitions

* `CommandOption`: an option that changes a record of what is given.
* `Reading`: what is given so far, and the option that still waits.
* `CommandWord.ofText`: the form of a word.
-/

namespace SchemaTypes

/-- What giving an option does. -/
inductive OptionAction (Given : Type)
  | flag (set : Given → Except UsageNotice Given)
  | value (set : String → Given → Except UsageNotice Given)
  /-- Ends the reading. -/
  | answer (notice : UsageNotice)

/-- An option by its name and perhaps its letter, and what it does to the values given so far. -/
structure CommandOption (Given : Type) where
  name : String
  letter : Option Char := none
  action : OptionAction Given

/-- An option with a value that has not taken effect. -/
structure PendingOption (Given : Type) where
  name : String
  set : String → Given → Except UsageNotice Given
  value : Option String := none

/-- How far the words of a command line have been read: the values given, and an option that still
waits for its own. -/
structure Reading (Given : Type) where
  given : Given
  pending : Option (PendingOption Given) := none

namespace Reading

variable {Given : Type}

/-- The next word is the value of an option. -/
def isAwaiting (reading : Reading Given) : Bool :=
  reading.pending.any fun pending => pending.value.isNone

/-- The option that waits takes effect. -/
def settle (reading : Reading Given) : Except UsageNotice (Reading Given) :=
  match reading.pending with
  | none => .ok reading
  | some ⟨name, _, none⟩ => .error (.missingValue name)
  | some ⟨_, set, some value⟩ => (set value reading.given).map fun given => { given }

/-- The value the last option waits for. -/
def fill (reading : Reading Given) (value : String) : Reading Given :=
  { reading with pending := reading.pending.map fun pending => { pending with value } }

/-- An option is given, with a value if one is in the same word. -/
def take (reading : Reading Given) (option : CommandOption Given) (value : Option String) :
    Except UsageNotice (Reading Given) := do
  let settled ← reading.settle
  match option.action, value with
  | .flag set, _ => return { given := ← set settled.given }
  | .answer notice, _ => throw notice
  | .value set, some value => return { given := ← set value settled.given }
  | .value set, none => return { settled with pending := some ⟨option.name, set, none⟩ }

/-- An option is given by its name. -/
def takeNamed (reading : Reading Given) (options : List (CommandOption Given)) (name : String)
    (value : Option String) : Except UsageNotice (Reading Given) :=
  match options.find? (·.name == name) with
  | none => .error (.unexpectedWord ("--" ++ name))
  | some option =>
    match option.action, value with
    | .value _, _ => reading.take option value
    | _, some value => .error (.unexpectedValue name value)
    | _, none => reading.take option none

/-- Options are given by their letters.  What follows the letter of an option with a value is that
value, after an equals sign if there is one. -/
def takeLetters (options : List (CommandOption Given)) :
    List Char → Reading Given → Except UsageNotice (Reading Given)
  | [], reading => .ok reading
  | letter :: rest, reading =>
    match options.find? (·.letter == some letter) with
    | none => .error (.unexpectedWord (String.ofList ['-', letter]))
    | some option =>
      match option.action, rest with
      | .value _, [] => reading.take option none
      | .value _, '=' :: value => reading.take option (some (String.ofList value))
      | .value _, value => reading.take option (some (String.ofList value))
      | _, rest => do takeLetters options rest (← reading.take option none)

end Reading

/-- The forms of a word. -/
inductive CommandWord
  /-- Two dashes, after which no word is an option. -/
  | separator
  | named (name : String) (value : Option String)
  | letters (letters : List Char)
  | plain
deriving DecidableEq, Repr, Inhabited

/-- What a word of the command line is by its dashes. -/
def CommandWord.ofText (text : String) : CommandWord :=
  match text.toList with
  | ['-', '-'] => .separator
  | '-' :: '-' :: rest =>
    let body := String.ofList rest
    match Text.splitOnce? '=' body with
    | some (name, value) => .named name (some value)
    | none => .named body none
  | '-' :: letter :: rest => .letters (letter :: rest)
  | _ => .plain

end SchemaTypes
