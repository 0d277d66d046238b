import SchemaTypes.Text.UpperCase

/-!
# Characters that differ in case only

Two characters are variants of each other when simple case folding sends them to one character.
`foldCase` picks one representative of each class, mostly its upper-case form.
-/

namespace SchemaTypes.Text

/-- Characters whose class the upper-case form does not give, with the representative of their
class. -/
def irregularFolds : List (Nat × Nat) :=
  [
    (0x0131, 0x0131), (0x03F4, 0x0398), (0x1E9E, 0x00DF), (0x1F88, 0x1F80), (0x1F89, 0x1F81),
    (0x1F8A, 0x1F82), (0x1F8B, 0x1F83), (0x1F8C, 0x1F84), (0x1F8D, 0x1F85), (0x1F8E, 0x1F86),
    (0x1F8F, 0x1F87), (0x1F98, 0x1F90), (0x1F99, 0x1F91), (0x1F9A, 0x1F92), (0x1F9B, 0x1F93),
    (0x1F9C, 0x1F94), (0x1F9D, 0x1F95), (0x1F9E, 0x1F96), (0x1F9F, 0x1F97), (0x1FA8, 0x1FA0),
    (0x1FA9, 0x1FA1), (0x1FAA, 0x1FA2), (0x1FAB, 0x1FA3), (0x1FAC, 0x1FA4), (0x1FAD, 0x1FA5),
    (0x1FAE, 0x1FA6), (0x1FAF, 0x1FA7), (0x1FBC, 0x1FB3), (0x1FCC, 0x1FC3), (0x1FFC, 0x1FF3),
    (0x2126, 0x03A9), (0x212A, 0x004B), (0x212B, 0x00C5)
  ]

/-- The representative of the characters that differ from `c` in case only. -/
def foldCase (c : Char) : Char :=
  match irregularFolds.lookup c.toNat with
  | some code => Char.ofNat code
  | none =>
    match upperCase c with
    | [upper] => upper
    | _ => c

/-- Characters that may have the representative `folded`. -/
def foldCandidates (folded : Char) : List Char :=
  let code := folded.toNat
  folded :: folded.toLower ::
    (irregularFolds.filter (·.2 == code)).map (Char.ofNat ·.1) ++
    upperCaseRuns.map fun run => Char.ofNat ((code : Int) - run.shift).toNat

/-- The characters that differ from `c` in case only, among them `c`. -/
def caseVariants (c : Char) : List Char :=
  c :: (foldCandidates (foldCase c)).filter fun candidate =>
    candidate != c && foldCase candidate == foldCase c

end SchemaTypes.Text
