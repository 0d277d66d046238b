import Mathlib
import SchemaTypes.Code.Token
import SchemaTypes.Proofs.Name.TypeName

/-!
# Field names are legal identifiers

A key of any spelling becomes the name of a field.  Its letters and digits are written in ASCII and
joined by underscores, then its words are separated and written in small letters.  What comes last
is a case analysis on keywords and digits, and it must not undo what is done by then.

```text
nothing left       _
self               self_        it has no raw form
a keyword          r#keyword
a leading digit    _1st
any other name     as it is
```

Two keywords that are written as raw identifiers have no raw form either, so their names are no
identifiers at all.

* `Name.IsPlain`: names of letters, digits and underscores, which every step keeps to.
* `Name.fieldNameBy_cases`: what a key becomes.
* `Name.IsFieldName.isIdentifier_eq_false_iff`: the names that are no identifiers.
* `Name.isFieldName_fieldNameBy`: names of fields and of modules are legal but for these two.
-/

namespace SchemaTypes.Name

/-- A character of an identifier. -/
def IsWordCharacter (c : Char) : Prop := isAlphanumeric c = true ∨ c = '_'

/-- A name without the mark of raw identifiers, or anything else but letters, digits and
underscores. -/
def IsPlain (name : List Char) : Prop := ∀ c ∈ name, IsWordCharacter c

instance : DecidablePred IsWordCharacter :=
  fun c => inferInstanceAs (Decidable (isAlphanumeric c = true ∨ c = '_'))

instance : DecidablePred IsPlain := fun name => List.decidableBAll IsWordCharacter name

/-! ## Spelling -/

theorem isPlain_joinRunsFrom (gap begun : Bool) (text : List Char) :
    IsPlain (joinRunsFrom gap begun text) := by
  induction text generalizing gap begun with
  | nil => exact List.forall_mem_nil _
  | cons c rest ih =>
      rw [joinRunsFrom]
      by_cases hc : isAlphanumeric c
      · rw [if_pos hc]
        have hlater : IsPlain (c :: joinRunsFrom false true rest) :=
          List.forall_mem_cons.mpr ⟨.inl hc, ih false true⟩
        split
        · exact List.forall_mem_cons.mpr ⟨.inr rfl, hlater⟩
        · exact hlater
      · rw [if_neg hc]
        exact ih true begun

theorem isPlain_sanitizeBy (spell : List Char → List Char) (text : List Char) :
    IsPlain (sanitizeBy spell text) :=
  isPlain_joinRunsFrom false false _

/-- A small letter, a digit or an underscore. -/
def IsSnakeCharacter (c : Char) : Prop := c.isLower = true ∨ c.isDigit = true ∨ c = '_'

instance : DecidablePred IsSnakeCharacter :=
  fun c => inferInstanceAs (Decidable (c.isLower = true ∨ c.isDigit = true ∨ c = '_'))

/-- Small letters, digits and underscores only. -/
def IsSnake (name : List Char) : Prop := ∀ c ∈ name, IsSnakeCharacter c

instance : DecidablePred IsSnake := fun name => List.decidableBAll IsSnakeCharacter name

/-- A way to separate the words of a plain name that leaves small letters, digits and underscores
only. -/
def WritesSnakeCase (snake : List Char → List Char) : Prop :=
  ∀ text, IsPlain text → IsSnake (snake text)

theorem IsSnakeCharacter.isWordCharacter {c : Char} (hc : IsSnakeCharacter c) :
    IsWordCharacter c := by
  rcases hc with hlower | hdigit | rfl
  · exact .inl (by simp [isAlphanumeric, Char.isAlphanum, Char.isAlpha, hlower])
  · exact .inl (by simp [isAlphanumeric, Char.isAlphanum, hdigit])
  · exact .inr rfl

theorem isSnakeCharacter_toLower {c : Char} (hc : IsWordCharacter c) :
    IsSnakeCharacter c.toLower := by
  rcases hc with hc | rfl
  · by_cases hdigit : c.toLower.isDigit
    · exact .inr (.inl hdigit)
    · have hletter := isAlphanumeric_toLower hc
      left
      simpa [isAlphanumeric, Char.isAlphanum, Char.isAlpha, hdigit] using hletter
  · exact .inr (.inr rfl)

theorem IsSnake.isPlain {name : List Char} (hname : IsSnake name) : IsPlain name :=
  fun c hc => (hname c hc).isWordCharacter

theorem isSnake_snakeCaseFrom (afterSmall : Bool) {text : List Char} (htext : IsPlain text) :
    IsSnake (snakeCaseFrom afterSmall text) := by
  induction text generalizing afterSmall with
  | nil => exact List.forall_mem_nil _
  | cons c rest ih =>
      obtain ⟨hc, hrest⟩ := List.forall_mem_cons.mp htext
      have hlower : IsSnakeCharacter c.toLower := isSnakeCharacter_toLower hc
      rw [snakeCaseFrom]
      split
      · exact List.forall_mem_cons.mpr
          ⟨.inr (.inr rfl), List.forall_mem_cons.mpr ⟨hlower, ih false hrest⟩⟩
      · exact List.forall_mem_cons.mpr ⟨hlower, ih _ hrest⟩

theorem writesSnakeCase_snakeCase : WritesSnakeCase snakeCase :=
  fun _ => isSnake_snakeCaseFrom false

/-! ## Marks -/

theorem bare_raw (word : String) : bare ("r#" ++ word) = word := by
  have hstart : Text.startsWith ("r#" ++ word) "r#" = true := by
    rw [Text.startsWith, String.toList_append, List.isPrefixOf_iff_prefix]
    exact List.prefix_append _ _
  have hrest : ("r#" ++ word).toList.drop "r#".length = word.toList := by
    rw [String.toList_append]
    exact List.drop_left
  rw [bare, Text.dropStart?, if_pos hstart, hrest, String.ofList_toList, Option.getD_some]

theorem bare_plain {name : String} (hname : IsPlain name.toList) : bare name = name := by
  have hstart : ¬Text.startsWith name "r#" = true := by
    intro hstart
    rw [Text.startsWith, List.isPrefixOf_iff_prefix] at hstart
    have hmark : '#' ∈ name.toList := hstart.subset (by decide)
    exact absurd (hname '#' hmark) (by decide)
  rw [bare, Text.dropStart?, if_neg hstart, Option.getD_none]

/-- The mark of a leading digit makes no keyword. -/
theorem markLeadingDigit_not_mem_forbiddenWords {name : List Char}
    (hname : String.ofList name ∉ forbiddenWords) :
    String.ofList (markLeadingDigit '_' name) ∉ forbiddenWords := by
  unfold markLeadingDigit
  split
  · have hstart : ∀ word ∈ forbiddenWords, word.toList.head? ≠ some '_' := by decide
    intro hmember
    apply hstart _ hmember
    rw [String.toList_ofList, List.head?_cons]
  · exact hname

/-- How a name is written in the end. -/
inductive IsWritten (name : List Char) : (written : String) → Prop
  | self (hself : String.ofList name = "self") : IsWritten name "self_"
  | raw (hkeyword : String.ofList name ∈ forbiddenWords) (hother : String.ofList name ≠ "self") :
      IsWritten name ("r#" ++ String.ofList name)
  | plain (hfree : String.ofList name ∉ forbiddenWords) :
      IsWritten name (String.ofList (markLeadingDigit '_' name))

/-- **What a key becomes.**  Nothing may be left of it; else its name is written, after a word for a
leading minus. -/
theorem fieldNameBy_cases (spell snake : List Char → List Char) (key : String) :
    fieldNameBy spell snake key = "_" ∨
      ∃ start text, (start = [] ∨ start = "negative_".toList) ∧
        snake (sanitizeBy spell text) ≠ [] ∧
        IsWritten (start ++ snake (sanitizeBy spell text)) (fieldNameBy spell snake key) := by
  unfold fieldNameBy
  dsimp only
  generalize hnegative : nextIs (· == '-') key.toList = negative
  generalize (if negative = true then key.toList.drop 1 else key.toList) = text
  by_cases hempty : snake (sanitizeBy spell text) = []
  · rw [if_pos (List.isEmpty_iff.mpr hempty)]
    exact .inl rfl
  · rw [if_neg (by rwa [List.isEmpty_iff])]
    have hstart : ∃ start, (start = [] ∨ start = "negative_".toList) ∧
        (if negative = true then "negative_".toList ++ snake (sanitizeBy spell text)
          else snake (sanitizeBy spell text)) = start ++ snake (sanitizeBy spell text) := by
      cases negative with
      | true => exact ⟨_, .inr rfl, rfl⟩
      | false => exact ⟨[], .inl rfl, rfl⟩
    obtain ⟨start, hform, hname⟩ := hstart
    refine .inr ⟨start, text, hform, hempty, ?_⟩
    rw [hname]
    split
    · rename_i hself
      exact .self (beq_iff_eq.mp hself)
    · rename_i hother
      rw [beq_iff_eq] at hother
      split
      · rename_i hkeyword
        exact .raw (List.contains_iff_mem.mp hkeyword) hother
      · rename_i hfree
        exact .plain fun hmember => hfree (List.contains_iff_mem.mpr hmember)

/-! ## Legal names -/

/-- A name of small letters, digits and underscores that does not start with a digit.  It is marked
as a raw identifier if it is a keyword, and only then. -/
structure IsFieldName (name : String) : Prop where
  spelling : ∃ first rest, (bare name).toList = first :: rest ∧ first.isDigit = false ∧
    IsSnake (first :: rest)
  mark : name = if bare name ∈ forbiddenWords then "r#" ++ bare name else bare name
  notSelf : bare name ≠ "self"

/-- A name that is no keyword has no mark. -/
theorem isFieldName_of_plain {name : String} {first : Char} {rest : List Char}
    (hchars : name.toList = first :: rest) (hfirst : first.isDigit = false)
    (hsnake : IsSnake (first :: rest)) (hfree : name ∉ forbiddenWords) :
    IsFieldName name := by
  have hbare : bare name = name := by
    apply bare_plain
    rw [hchars]
    exact hsnake.isPlain
  constructor
  · rw [hbare]
    exact ⟨first, rest, hchars, hfirst, hsnake⟩
  · rw [hbare, if_neg hfree]
  · rw [hbare]
    rintro rfl
    exact hfree (by decide)

section

variable {name : List Char} {written : String}

theorem IsWritten.isFieldName (hwritten : IsWritten name written) (hsome : name ≠ [])
    (hname : IsSnake name) : IsFieldName written := by
  cases hwritten with
  | self => exact @isFieldName_of_plain _ 's' "elf_".toList rfl rfl (by decide) (by decide)
  | raw hkeyword hother =>
      -- a keyword begins with no digit
      have hletter : ∀ word ∈ forbiddenWords, nextIs Char.isDigit word.toList = false := by decide
      have hfirst := hletter _ hkeyword
      obtain ⟨first, rest, rfl⟩ := List.exists_cons_of_ne_nil hsome
      rw [String.toList_ofList] at hfirst
      constructor
      · rw [bare_raw, String.toList_ofList]
        exact ⟨first, rest, rfl, hfirst, hname⟩
      · rw [bare_raw, if_pos hkeyword]
      · rwa [bare_raw]
  | plain hfree =>
      have hword := markLeadingDigit_not_mem_forbiddenWords hfree
      obtain ⟨first, rest, rfl⟩ := List.exists_cons_of_ne_nil hsome
      -- a digit in front gets an underscore before it
      cases hdigit : first.isDigit with
      | true =>
          have hmarked : markLeadingDigit '_' (first :: rest) = '_' :: first :: rest :=
            if_pos hdigit
          rw [hmarked] at hword ⊢
          exact isFieldName_of_plain String.toList_ofList rfl
            (List.forall_mem_cons.mpr ⟨.inr (.inr rfl), hname⟩) hword
      | false =>
          have hmarked : markLeadingDigit '_' (first :: rest) = first :: rest :=
            if_neg (by simp [nextIs, hdigit])
          rw [hmarked] at hword ⊢
          exact isFieldName_of_plain String.toList_ofList hdigit hname hword

end

/-- The names of two keywords that have no raw form. -/
def unwritableNames : List String := ["r#crate", "r#super"]

/-- **Names that are no identifiers.**  All other names of fields are. -/
theorem IsFieldName.isIdentifier_eq_false_iff {name : String} (hname : IsFieldName name) :
    Token.isIdentifier name = false ↔ name ∈ unwritableNames := by
  obtain ⟨⟨first, rest, hchars, hfirst, hsnake⟩, hmark, hself⟩ := hname
  by_cases hkeyword : bare name ∈ forbiddenWords
  · rw [if_pos hkeyword] at hmark
    have hwords : ∀ word ∈ forbiddenWords, word ≠ "self" → word ≠ "Self" →
        (Token.isIdentifier ("r#" ++ word) = false ↔ "r#" ++ word ∈ unwritableNames) := by
      decide +kernel
    -- field names have no capital letters
    have hcapital : bare name ≠ "Self" := by
      intro hcapital
      rw [hcapital] at hchars
      obtain ⟨rfl, -⟩ := List.cons.inj hchars
      exact absurd (hsnake _ List.mem_cons_self) (by decide)
    rw [hmark]
    exact hwords _ hkeyword hself hcapital
  · rw [if_neg hkeyword] at hmark
    rw [← hmark] at hchars
    have hstart : Token.isIdentifierStart first = true := by
      rcases hsnake first List.mem_cons_self with hlower | hdigit | rfl
      · simp [Token.isIdentifierStart, Char.isAlpha, hlower]
      · rw [hfirst] at hdigit
        cases hdigit
      · rfl
    have hrest : rest.all Token.isIdentifierContinue = true := by
      refine List.all_eq_true.mpr fun c hc => ?_
      rcases (hsnake c (List.mem_cons_of_mem _ hc)).isWordCharacter with hlabel | rfl
      · simp only [isAlphanumeric] at hlabel
        simp [Token.isIdentifierContinue, hlabel]
      · rfl
    -- the name is not raw, so it is an identifier by its characters
    have hunmarked : ∀ more, first :: rest ≠ 'r' :: '#' :: more := by
      intro more hraw
      have hhash := hsnake '#' (by rw [hraw]; simp)
      exact absurd hhash (by decide)
    refine iff_of_false ?_ fun hraw => ?_
    · unfold Token.isIdentifier
      rw [hchars]
      split
      · rename_i more hraw
        exact absurd hraw (hunmarked more)
      · simp [Token.isPlainIdentifier, hstart, hrest]
    · have hraws : ∀ name ∈ unwritableNames, ∃ more, name.toList = 'r' :: '#' :: more :=
        List.forall_mem_cons.mpr ⟨⟨_, rfl⟩, List.forall_mem_singleton.mpr ⟨_, rfl⟩⟩
      obtain ⟨more, hmore⟩ := hraws name hraw
      exact hunmarked more (hchars.symm.trans hmore)

/-! ## Names of fields and modules -/

section

variable {snake : List Char → List Char} (hsnake : WritesSnakeCase snake)

include hsnake

theorem isFieldName_fieldNameBy_of_snake (spell : List Char → List Char) (key : String) :
    IsFieldName (fieldNameBy spell snake key) := by
  rcases fieldNameBy_cases spell snake key with hnone | ⟨start, text, hstart, hsome, hwritten⟩
  · rw [hnone]
    exact @isFieldName_of_plain _ '_' [] rfl rfl (by decide) (by decide)
  · refine hwritten.isFieldName (List.append_ne_nil_of_right_ne_nil _ hsome) ?_
    have hword : IsSnake start := by
      rcases hstart with rfl | rfl
      · exact List.forall_mem_nil _
      · decide
    exact List.forall_mem_append.mpr ⟨hword, hsnake _ (isPlain_sanitizeBy spell text)⟩

theorem isFieldName_moduleNameBy (spell : List Char → List Char) (segment : String) :
    IsFieldName (moduleNameBy spell snake segment) := by
  unfold moduleNameBy
  dsimp only
  split
  · exact @isFieldName_of_plain _ 'u' "nnamed".toList rfl rfl (by decide) (by decide)
  · exact isFieldName_fieldNameBy_of_snake hsnake spell segment

/-- **Names of fields and modules are legal**, whatever way keys are written in ASCII.  They are
small letters, digits and underscores without a digit in front, and they are marked as raw
identifiers exactly if they are keywords.  All of them are identifiers, except for the two keywords
that have no raw form. -/
theorem isFieldName_fieldNameBy (spell : List Char → List Char) (key : String) :
    (IsFieldName (fieldNameBy spell snake key) ∧
      (Token.isIdentifier (fieldNameBy spell snake key) = false ↔
        fieldNameBy spell snake key ∈ unwritableNames)) ∧
    IsFieldName (moduleNameBy spell snake key) ∧
      (Token.isIdentifier (moduleNameBy spell snake key) = false ↔
        moduleNameBy spell snake key ∈ unwritableNames) := by
  have hfield := isFieldName_fieldNameBy_of_snake hsnake spell key
  have hmodule := isFieldName_moduleNameBy hsnake spell key
  exact ⟨⟨hfield, hfield.isIdentifier_eq_false_iff⟩, hmodule, hmodule.isIdentifier_eq_false_iff⟩

end

/-- A spelling that knows two letters beyond ASCII. -/
@[reducible]
def germanSpelling : Spelling where
  ascii text := text.flatMap fun c =>
    if c = 'ö' then ['o'] else if c = 'ß' then ['s', 's'] else [c]
  snake := snakeCase

attribute [local instance] germanSpelling

/-- Keywords with and without a raw form, a digit, a minus and nothing at all. -/
theorem isFieldName_spelled :
    ["crate", "self", "match", "2ndSize", "-Größe", "!"].map fieldName =
        ["r#crate", "self_", "r#match", "_2nd_size", "negative_grosse", "_"] ∧
      WritesSnakeCase Spelling.snake ∧ IsFieldName (fieldName "crate") ∧
      Token.isIdentifier (fieldName "crate") = false ∧
      Token.isIdentifier (moduleName "crate") = false := by
  have hkey : fieldName "crate" = "r#crate" := by decide +kernel
  have hsegment : moduleName "crate" = "r#crate" := by decide +kernel
  have hsnake : WritesSnakeCase Spelling.snake := writesSnakeCase_snakeCase
  obtain ⟨⟨hname, hfield⟩, -, hmodule⟩ := isFieldName_fieldNameBy hsnake Spelling.ascii "crate"
  refine ⟨by decide +kernel, hsnake, hname, hfield.mpr ?_, hmodule.mpr ?_⟩
  · rw [← fieldName.eq_def, hkey]
    exact List.mem_cons_self
  · rw [← moduleName.eq_def, hsegment]
    exact List.mem_cons_self

end SchemaTypes.Name
