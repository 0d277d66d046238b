import SchemaTypes.Pattern.CharacterSet

/-!
# Matching patterns

`Pattern` is a regular expression with groups, references to what a group matched, and tests of
what lies around a place.  `Pattern.ends` gives every place at which a match that starts at a
place may end; `Pattern.isFoundIn` asks whether there is one from any place of a text.

Places are collected as sets, so the time that a match takes does not grow with the number of ways
in which it can be made.  A repetition stops when a round adds no place.
-/

namespace SchemaTypes

/-- A place in a text, with what groups matched on the way there. -/
structure TextPlace where
  /-- Characters before the place, nearest one first. -/
  before : List Char
  after : List Char
  groups : List (Nat × List Char)
deriving DecidableEq, Repr, Inhabited

namespace TextPlace

/-- The place in front of a text, where no group has matched. -/
def start (text : String) : TextPlace := ⟨[], text.toList, []⟩

/-- The place one character on. -/
def next? (place : TextPlace) : Option TextPlace :=
  match place.after with
  | [] => none
  | c :: rest => some { place with before := c :: place.before, after := rest }

/-- The characters from an earlier place to this one. -/
def since (place earlier : TextPlace) : List Char :=
  earlier.after.take (earlier.after.length - place.after.length)

/-- All places at or before this one. -/
def backward (place : TextPlace) : List TextPlace :=
  go place.before place.after
where
  go : List Char → List Char → List TextPlace
    | [], after => [{ place with before := [], after }]
    | c :: before, after =>
      { place with before := c :: before, after } :: go before (c :: after)

/-- All places at or after this one. -/
def forward (place : TextPlace) : List TextPlace :=
  go place.before place.after
where
  go : List Char → List Char → List TextPlace
    | before, [] => [{ place with before, after := [] }]
    | before, c :: after =>
      { place with before, after := c :: after } :: go (c :: before) after

/-- The place after some characters when they come next. -/
def skip? (place : TextPlace) : List Char → Option TextPlace
  | [] => some place
  | c :: rest =>
    match place.after with
    | [] => none
    | d :: after =>
      if c == d then skip? { place with before := d :: place.before, after } rest else none

/-- Adds places that are new. -/
def join (places new : List TextPlace) : List TextPlace :=
  new.foldl (fun places place => if places.contains place then places else places ++ [place]) places

end TextPlace

/-- A regular expression. -/
inductive Pattern
  | empty
  /-- One character of a set. -/
  | one (set : CharacterSet)
  | sequence (first second : Pattern)
  | either (first second : Pattern)
  /-- At least `least` times and, when there is a bound, at most `most` times. -/
  | repeated (least : Nat) (most : Option Nat) (inner : Pattern)
  /-- The characters before and after a place, where there are any, pass a test. -/
  | between (test : Option Char → Option Char → Bool)
  | group (number : Nat) (inner : Pattern)
  /-- What a group matched, once more. -/
  | recall (number : Nat)
  /-- What comes next matches, or does not when `inverted`. -/
  | ahead (inverted : Bool) (inner : Pattern)
  /-- What comes before matches, or does not when `inverted`. -/
  | behind (inverted : Bool) (inner : Pattern)
deriving Inhabited

namespace Pattern

/-- Exactly `count` rounds. -/
def rounds (step : List TextPlace → List TextPlace) : Nat → List TextPlace → List TextPlace
  | 0, places => places
  | count + 1, places =>
    let next := step places
    if next == places then places else rounds step count next

/-- At most `count` rounds. -/
def roundsUpTo (step : List TextPlace → List TextPlace) : Nat → List TextPlace → List TextPlace
  | 0, places => places
  | count + 1, places =>
    let next := TextPlace.join places (step places)
    if next.length == places.length then places else roundsUpTo step count next

/-- The places at which matches from a place end. -/
def ends : Pattern → TextPlace → List TextPlace
  | .empty, place => [place]
  | .one set, place =>
    match place.after with
    | c :: _ => if set c then place.next?.toList else []
    | [] => []
  | .sequence first second, place =>
    (ends first place).foldl (fun found middle => TextPlace.join found (ends second middle)) []
  | .either first second, place => TextPlace.join (ends first place) (ends second place)
  | .repeated least most inner, place =>
    let step := fun places =>
      places.foldl (fun found place => TextPlace.join found (ends inner place)) []
    let further :=
      match most with
      | some most => min (most - least) (place.after.length + 1)
      | none => place.after.length + 1
    roundsUpTo step further (rounds step least [place])
  | .between test, place => if test place.before.head? place.after.head? then [place] else []
  | .group number inner, place =>
    (ends inner place).map fun found =>
      { found with
        groups := (number, found.since place) :: found.groups.filter (·.1 != number) }
  | .recall number, place =>
    match place.groups.lookup number with
    | some matched => (place.skip? matched).toList
    | none => []
  | .ahead inverted inner, place =>
    match ends inner place with
    | [] => if inverted then [place] else []
    | found => if inverted then [] else found.map fun other => { place with groups := other.groups }
  | .behind inverted inner, place =>
    let arrives := place.backward.any fun earlier =>
      (ends inner earlier).any fun found => found.after.length == place.after.length
    if arrives == inverted then [] else [place]

/-- Whether a match starts anywhere in a text. -/
def isFoundIn (pattern : Pattern) (text : String) : Bool :=
  (TextPlace.start text).forward.any fun place => !(pattern.ends place).isEmpty

end Pattern

end SchemaTypes
