/-!
# Notices

What the program answers when the words of its command line give it nothing to do.
-/

namespace SchemaTypes

/-- Why the words of a command line give no command. -/
inductive UsageNotice
  /-- Help is asked for. -/
  | help
  | version
  /-- A command that needs another one below it is given alone. -/
  | nothingGiven
  | missingCommand
  | unknownCommand (word : String)
  | unexpectedWord (word : String)
  | unexpectedValue (option value : String)
  | missingValue (option : String)
  /-- The value is none of the option's choices. -/
  | notAChoice (option value : String)
  | unreadableValue (option value : String)
  | conflict (option other : String)
  | missingOptions (options : List String)
deriving DecidableEq, Repr, Inhabited

namespace UsageNotice

/-- Whether the notice is what was asked for. -/
def isAnswer : UsageNotice → Bool
  | help | version => true
  | _ => false

/-- The notice as it is shown. -/
def message : UsageNotice → String
  | help => "schema2rs reads a JSON Schema document and writes Rust value types."
  | version => "schema2rs 0.4.0"
  | nothingGiven | missingCommand => "a command is missing"
  | unknownCommand word => s!"unrecognized command '{word}'"
  | unexpectedWord word => s!"unexpected argument '{word}'"
  | unexpectedValue option value => s!"unexpected value '{value}' for '--{option}'"
  | missingValue option => s!"a value is required for '--{option}'"
  | notAChoice option value => s!"'{value}' is no choice for '--{option}'"
  | unreadableValue option value => s!"invalid value '{value}' for '--{option}'"
  | conflict option other =>
    if option == other then s!"'--{option}' cannot be used multiple times"
    else s!"'--{option}' cannot be used with '--{other}'"
  | missingOptions options =>
    "required: " ++ ", ".intercalate (options.map ("--" ++ ·))

end UsageNotice

end SchemaTypes
