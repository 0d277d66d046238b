/-!
# Coloured text

What the program writes is coloured by the part it plays.  Each background has a palette of its
own.

## Main definitions

* `Palette`: a colour for each role.
* `Paint.apply`: text in the colour of a role.
-/

namespace SchemaTypes

/-- When text is coloured. -/
inductive ColorMode
  | always
  /-- On a terminal only. -/
  | auto
  | never
deriving DecidableEq, Repr, Inhabited

/-- The background that colours are chosen for. -/
inductive Theme
  | dark
  | light
deriving DecidableEq, Repr, Inhabited

/-- A background, or that of the terminal. -/
inductive ThemeMode
  | dark
  | light
  | auto
deriving DecidableEq, Repr, Inhabited

/-- The part a piece of text plays. -/
inductive TextRole
  | timestamp
  | primary
  | accent
  | info
  | success
  | label
  | value
deriving DecidableEq, Repr, Inhabited

/-- A colour by its shares of red, green and blue. -/
structure Rgb where
  red : Nat
  green : Nat
  blue : Nat
deriving DecidableEq, Repr, Inhabited

/-- A colour for every role. -/
abbrev Palette := TextRole → Rgb

namespace Theme

/-- The color of each role. -/
def palette : Theme → Palette
  | .dark, .timestamp => ⟨118, 166, 166⟩
  | .dark, .primary => ⟨191, 126, 4⟩
  | .dark, .accent => ⟨166, 84, 55⟩
  | .dark, .info => ⟨118, 166, 166⟩
  | .dark, .success => ⟨118, 166, 166⟩
  | .dark, .label => ⟨217, 164, 4⟩
  | .dark, .value => ⟨242, 211, 56⟩
  | .light, .timestamp => ⟨92, 62, 38⟩
  | .light, .primary => ⟨70, 42, 25⟩
  | .light, .accent => ⟨211, 99, 70⟩
  | .light, .info => ⟨40, 111, 170⟩
  | .light, .success => ⟨34, 142, 90⟩
  | .light, .label => ⟨176, 103, 66⟩
  | .light, .value => ⟨199, 146, 76⟩

/-- The background of the terminal when its index is known: the first eight are dark. -/
def ofBackground : Option Nat → Theme
  | some index => if 8 ≤ index then light else dark
  | none => dark

end Theme

/-- What is known about where text goes to. -/
structure Surroundings where
  /-- Standard output is a terminal on which colours are not switched off. -/
  colorTerminal : Bool := false
  /-- Index of the background colour of the terminal. -/
  background : Option Nat := none
deriving Repr, Inhabited

/-- How text is coloured. -/
structure Paint where
  enabled : Bool
  theme : Theme
deriving DecidableEq, Repr, Inhabited

namespace Paint

/-- Whether to color and for which theme, as far as the terminal has to decide. -/
def choose (color : ColorMode) (theme : ThemeMode) (surroundings : Surroundings) : Paint where
  enabled :=
    match color with
    | .always => true
    | .never => false
    | .auto => surroundings.colorTerminal
  theme :=
    match theme with
    | .dark => .dark
    | .light => .light
    | .auto => .ofBackground surroundings.background

/-- Sets the colour of what follows; the standard colour when there is none. -/
def escape : Option Rgb → String
  | some color => s!"\x1b[38;2;{color.red};{color.green};{color.blue}m"
  | none => "\x1b[39m"

/-- Text in the colour of a role.  The standard colour is set around it also without colours. -/
def apply (paint : Paint) (role : TextRole) (text : String) : String :=
  escape (if paint.enabled then some (paint.theme.palette role) else none) ++ text ++ escape none

end Paint

end SchemaTypes
