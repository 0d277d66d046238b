import Mathlib.Tactic
import SchemaTypes.Json.Pointer

/-!
# Pointers lead where they were built for

A pointer is built from the root by one key after the other, each of them escaped.  Looking the
pointer up cuts it into tokens again and follows the keys that they stand for, so a pointer names
exactly the node that its keys lead to.

* `Pointer.escapeTokenChars_eq`: a token is escaped as if its tildes came first.
* `Pointer.unescapeToken_escapeToken`: a token stands for the key that it was written for.
* `Pointer.split_descendant`: the tokens of a pointer, which `Pointer.token_roundTrip` is about.
* `Pointer.keys?_descendant`: the keys of a pointer.
* `Pointer.index?_toString`: the decimal form of an index.
* `Json.named?_descendant`: the node that a pointer names.
-/

namespace SchemaTypes

namespace Text

/-! ## Pieces between separators -/

theorem pieces_of_not_mem {separator : Char} {text : List Char} (htext : separator ∉ text) :
    pieces separator text = [text] := by
  induction text with
  | nil => rfl
  | cons c rest ih =>
      rw [List.mem_cons, not_or] at htext
      have hother : ¬(c == separator) = true := by
        rw [beq_iff_eq]
        exact Ne.symm htext.1
      rw [pieces, if_neg hother, ih htext.2]

theorem pieces_ne_nil (separator : Char) (text : List Char) : pieces separator text ≠ [] := by
  cases text with
  | nil => exact List.cons_ne_nil _ _
  | cons c rest =>
      rw [pieces]
      split
      · exact List.cons_ne_nil _ _
      · split
        · exact List.cons_ne_nil _ _
        · exact List.cons_ne_nil _ _

/-- A separator ends one piece and starts another one. -/
theorem pieces_append_cons (separator : Char) (before after : List Char) :
    pieces separator (before ++ separator :: after) =
      pieces separator before ++ pieces separator after := by
  induction before with
  | nil => exact if_pos (beq_self_eq_true separator)
  | cons c rest ih =>
      rw [List.cons_append, pieces, pieces, ih]
      by_cases hc : c == separator
      · rw [if_pos hc, if_pos hc, List.cons_append]
      · rw [if_neg hc, if_neg hc]
        cases hrest : pieces separator rest with
        | nil => exact absurd hrest (pieces_ne_nil separator rest)
        | cons piece more => rfl

/-- Pieces that were put behind a text, each after a separator, are found again. -/
theorem pieces_append_flatMap {α : Type} {separator : Char} {piece : α → List Char}
    {items : List α} (hitems : ∀ item ∈ items, separator ∉ piece item) (text : List Char) :
    pieces separator (text ++ items.flatMap fun item => separator :: piece item) =
      pieces separator text ++ items.map piece := by
  induction items generalizing text with
  | nil => rw [List.flatMap_nil, List.append_nil, List.map_nil, List.append_nil]
  | cons item rest ih =>
      obtain ⟨hitem, hrest⟩ := List.forall_mem_cons.mp hitems
      calc pieces separator (text ++ (item :: rest).flatMap fun item => separator :: piece item)
          = pieces separator
              ((text ++ separator :: piece item) ++
                rest.flatMap fun item => separator :: piece item) := by
            rw [List.flatMap_cons, List.append_assoc]
        _ = pieces separator (text ++ separator :: piece item) ++ rest.map piece := ih hrest _
        _ = pieces separator text ++ (item :: rest).map piece := by
            rw [pieces_append_cons, pieces_of_not_mem hitem, List.append_assoc, List.map_cons,
              List.singleton_append]

theorem replacePair_cons_of_ne {first second c : Char} {substitute : List Char} (hc : c ≠ first)
    (rest : List Char) :
    replacePair first second substitute (c :: rest) =
      c :: replacePair first second substitute rest := by
  cases rest with
  | nil => rfl
  | cons d more =>
      have hother : ¬(c == first && d == second) = true := by simp [hc]
      rw [replacePair, if_neg hother]

end Text

namespace Pointer

open Text

/-! ## Tokens -/

theorem escapeTokenChars_cons_of_ne {c : Char} (htilde : c ≠ '~') (hslash : c ≠ '/')
    (rest : List Char) : escapeTokenChars (c :: rest) = c :: escapeTokenChars rest := by
  rw [escapeTokenChars]
  · exact htilde
  · exact hslash

/-- A key with its tildes escaped, but not its slashes. -/
def escapeTildes (key : List Char) : List Char :=
  key.flatMap fun c => if c = '~' then ['~', '0'] else [c]

/-- A key with its slashes escaped, but not its tildes. -/
def escapeSlashes (key : List Char) : List Char :=
  key.flatMap fun c => if c = '/' then ['~', '1'] else [c]

/-- A token is escaped in one pass.  Two passes give the same when the tildes come first, for then
the second pass meets the slashes of the key and no others. -/
theorem escapeTokenChars_eq (key : List Char) :
    escapeTokenChars key = escapeSlashes (escapeTildes key) := by
  induction key with
  | nil => rfl
  | cons c rest ih =>
      have hpasses : escapeSlashes (escapeTildes (c :: rest)) =
          escapeSlashes (if c = '~' then ['~', '0'] else [c]) ++ escapeTokenChars rest := by
        rw [ih, escapeTildes, List.flatMap_cons]
        exact List.flatMap_append
      rw [hpasses]
      by_cases htilde : c = '~'
      · subst htilde
        rfl
      · rw [if_neg htilde]
        by_cases hslash : c = '/'
        · subst hslash
          rfl
        · rw [escapeTokenChars_cons_of_ne htilde hslash, escapeSlashes, List.flatMap_singleton,
            if_neg hslash, List.singleton_append]

/-- The slashes of a token are unescaped first. -/
theorem replacePair_escapeTokenChars (key : List Char) :
    replacePair '~' '1' ['/'] (escapeTokenChars key) = escapeTildes key := by
  induction key with
  | nil => rfl
  | cons c rest ih =>
      rw [escapeTildes, List.flatMap_cons, ← escapeTildes, ← ih]
      by_cases htilde : c = '~'
      · subst htilde
        have hzero : ¬('~' == '~' && '0' == '1') = true := by decide
        rw [escapeTokenChars, replacePair, if_neg hzero, replacePair_cons_of_ne (by decide)]
        rfl
      · rw [if_neg htilde]
        by_cases hslash : c = '/'
        · subst hslash
          rfl
        · rw [escapeTokenChars_cons_of_ne htilde hslash, replacePair_cons_of_ne htilde]
          rfl

/-- The tildes of a token are unescaped last. -/
theorem replacePair_escapeTildes (key : List Char) :
    replacePair '~' '0' ['~'] (escapeTildes key) = key := by
  induction key with
  | nil => rfl
  | cons c rest ih =>
      rw [escapeTildes, List.flatMap_cons, ← escapeTildes]
      by_cases htilde : c = '~'
      · subst htilde
        have hzero : ('~' == '~' && '0' == '0') = true := by decide
        rw [if_pos rfl, List.cons_append, List.cons_append, replacePair, if_pos hzero,
          List.nil_append, ih]
        rfl
      · rw [if_neg htilde, List.singleton_append, replacePair_cons_of_ne htilde, ih]

theorem unescapeTokenChars_escapeTokenChars (key : List Char) :
    unescapeTokenChars (escapeTokenChars key) = key := by
  rw [unescapeTokenChars, replacePair_escapeTokenChars, replacePair_escapeTildes]

/-- **Tokens stand for the keys** that they were written for. -/
theorem unescapeToken_escapeToken (key : String) : unescapeToken (escapeToken key) = key := by
  rw [unescapeToken, escapeToken, String.toList_ofList, unescapeTokenChars_escapeTokenChars,
    String.ofList_toList]

/-- A token never ends before the key does. -/
theorem slash_not_mem_escapeTokenChars (key : List Char) : '/' ∉ escapeTokenChars key := by
  induction key with
  | nil => exact List.not_mem_nil
  | cons c rest ih =>
      by_cases htilde : c = '~'
      · subst htilde
        simpa [escapeTokenChars] using ih
      · by_cases hslash : c = '/'
        · subst hslash
          simpa [escapeTokenChars] using ih
        · rw [escapeTokenChars_cons_of_ne htilde hslash, List.mem_cons, not_or]
          exact ⟨Ne.symm hslash, ih⟩

theorem escapeTokenChars_ne_nil {key : List Char} (hkey : key ≠ []) :
    escapeTokenChars key ≠ [] := by
  intro hnil
  have hback := unescapeTokenChars_escapeTokenChars key
  rw [hnil] at hback
  exact hkey hback.symm

/-- Keys without tildes and slashes are their own tokens. -/
theorem escapeTokenChars_eq_self {key : List Char} (hkey : ∀ c ∈ key, c ≠ '~' ∧ c ≠ '/') :
    escapeTokenChars key = key := by
  induction key with
  | nil => rfl
  | cons c rest ih =>
      rw [List.forall_mem_cons] at hkey
      rw [escapeTokenChars_cons_of_ne hkey.1.1 hkey.1.2, ih hkey.2]

/-! ## Whole pointers -/

theorem toList_descendant (pointer : String) (keys : List String) :
    (descendant pointer keys).toList =
      pointer.toList ++ keys.flatMap fun key => '/' :: escapeTokenChars key.toList := by
  induction keys generalizing pointer with
  | nil => simp [descendant]
  | cons key rest ih =>
      have hstep : descendant pointer (key :: rest) = descendant (child pointer key) rest := rfl
      have hchild : (child pointer key).toList =
          pointer.toList ++ '/' :: escapeTokenChars key.toList := by
        simp [child, escapeToken, String.toList_append]
      rw [hstep, ih, hchild, List.flatMap_cons, List.append_assoc]

theorem descendant_append (pointer : String) (keys others : List String) :
    descendant pointer (keys ++ others) = descendant (descendant pointer keys) others :=
  List.foldl_append

/-- A key that needs no escape is its own token. -/
theorem descendant_plain {key : String} (hplain : escapeToken key = key) (pointer : String) :
    descendant pointer [key] = pointer ++ "/" ++ key :=
  congrArg (pointer ++ "/" ++ ·) hplain

/-- The tokens of a pointer are its pieces between slashes. -/
theorem pieces_tokens (key : String) (keys : List String) :
    pieces '/' (escapeTokenChars key.toList ++
        keys.flatMap fun key => '/' :: escapeTokenChars key.toList) =
      (key :: keys).map fun key => escapeTokenChars key.toList := by
  rw [pieces_append_flatMap fun key _ => slash_not_mem_escapeTokenChars key.toList,
    pieces_of_not_mem (slash_not_mem_escapeTokenChars key.toList), List.map_cons,
    List.singleton_append]

/-- **Tokens of a pointer.**  Cutting a pointer at its slashes gives the tokens that were put behind
it. -/
theorem split_descendant (pointer : String) (keys : List String) :
    split '/' (descendant pointer keys) = split '/' pointer ++ keys.map escapeToken := by
  rw [split, split, toList_descendant,
    pieces_append_flatMap fun key _ => slash_not_mem_escapeTokenChars key.toList, List.map_append,
    List.map_map]
  rfl

/-- **Tokens round-trip.**  The token of a key has its tildes and then its slashes replaced, it
holds no slash, and it stands for this key and no other.  The tokens of a pointer are found again
between its slashes. -/
theorem token_roundTrip :
    (∀ key : String,
      escapeToken key = String.ofList (escapeSlashes (escapeTildes key.toList)) ∧
        '/' ∉ (escapeToken key).toList ∧ unescapeToken (escapeToken key) = key) ∧
      Function.Injective escapeToken ∧
      ∀ (pointer : String) (keys : List String),
        split '/' (descendant pointer keys) = split '/' pointer ++ keys.map escapeToken := by
  refine ⟨fun key => ⟨?_, ?_, unescapeToken_escapeToken key⟩, ?_, split_descendant⟩
  · rw [escapeToken, escapeTokenChars_eq]
  · rw [escapeToken, String.toList_ofList]
    exact slash_not_mem_escapeTokenChars key.toList
  · exact Function.LeftInverse.injective unescapeToken_escapeToken

/-- **Keys of a pointer.**  A pointer has the keys that it was built from. -/
theorem keys?_descendant (keys : List String) : keys? (descendant "" keys) = some keys := by
  have htext := toList_descendant "" keys
  cases keys with
  | nil => rfl
  | cons key rest =>
      have htokens : (descendant "" (key :: rest)).toList =
          '/' :: (escapeTokenChars key.toList ++
            rest.flatMap fun key => '/' :: escapeTokenChars key.toList) := by
        rw [htext, List.flatMap_cons]
        rfl
      have hkeys : ∀ key : String,
          String.ofList (unescapeTokenChars (escapeTokenChars key.toList)) = key := by
        intro key
        rw [unescapeTokenChars_escapeTokenChars, String.ofList_toList]
      rw [keys?, htokens]
      simp only
      rw [pieces_tokens, List.map_map]
      simp only [Function.comp_def, hkeys, List.map_id']

/-- The sign of references comes before the tokens. -/
theorem dropStart?_descendant (keys : List String) :
    dropStart? (descendant root keys) root = some (descendant "" keys) := by
  have htext : (descendant root keys).toList = '#' :: (descendant "" keys).toList := by
    rw [toList_descendant, toList_descendant]
    rfl
  have hstart : startsWith (descendant root keys) root = true := by
    rw [startsWith, htext]
    rfl
  rw [dropStart?, if_pos hstart, htext]
  exact congrArg some String.ofList_toList

theorem descendant_root_injective : Function.Injective (descendant root) := by
  intro keys others hsame
  have htexts := dropStart?_descendant keys
  rw [hsame, dropStart?_descendant others, Option.some.injEq] at htexts
  have hkeys := keys?_descendant keys
  rw [← htexts, keys?_descendant others, Option.some.injEq] at hkeys
  exact hkeys.symm

/-! ## Indices -/

theorem head?_toDigits {number : Nat} (hnumber : number ≠ 0) :
    (Nat.toDigits 10 number).head? ≠ some '0' := by
  induction number using Nat.strong_induction_on with
  | _ number ih =>
      by_cases hsmall : number < 10
      · rw [Nat.toDigits_of_lt_base hsmall]
        interval_cases number
        all_goals first | exact absurd rfl hnumber | decide
      · -- the first digit is that of the quotient
        have hquotient : number / 10 ≠ 0 := by omega
        have hfirst := ih (number / 10) (by omega) hquotient
        rw [Nat.toDigits_of_base_le (by decide) (by omega), List.head?_append]
        cases hhead : (Nat.toDigits 10 (number / 10)).head? with
        | none => exact absurd (List.head?_eq_none_iff.mp hhead) Nat.toDigits_ne_nil
        | some c =>
            rw [hhead] at hfirst
            exact hfirst

/-- **Indices** of 64 bits are read from their decimal form. -/
theorem index?_toString {index : Nat} (hindex : index < 0x10000000000000000) :
    index? (toString index) = some index := by
  have htext : (toString index).toList = Nat.toDigits 10 index := by
    rw [Nat.toString_eq_repr, Nat.toList_repr]
  have hempty : (Nat.toDigits 10 index).isEmpty = false :=
    List.isEmpty_eq_false_iff.mpr Nat.toDigits_ne_nil
  have hdigits : (Nat.toDigits 10 index).all Char.isDigit = true :=
    List.all_eq_true.mpr fun c hc =>
      Nat.isDigit_of_mem_toDigits (by decide) (by decide) hc
  have hzero : ((Nat.toDigits 10 index).head? == some '0' &&
      decide ((Nat.toDigits 10 index).length > 1)) = false := by
    by_cases hindex : index = 0
    · subst hindex
      rfl
    · rw [beq_eq_false_iff_ne.mpr (head?_toDigits hindex), Bool.false_and]
  have hvalue : (Nat.toDigits 10 index).foldl (fun value c => value * 10 + (c.toNat - 48)) 0 =
      index := by
    have hzero : '0'.toNat = 48 := rfl
    have hread := @Nat.ofDigitChars_toDigits 10 index (by decide) (by decide)
    simpa only [Nat.ofDigitChars, hzero, Nat.mul_comm 10] using hread
  rw [index?, htext, hempty, hdigits, hzero, hvalue]
  exact if_pos hindex

theorem escapeToken_toString (index : Nat) : escapeToken (toString index) = toString index := by
  rw [escapeToken, escapeTokenChars_eq_self, String.ofList_toList]
  intro c hc
  rw [Nat.toString_eq_repr, Nat.toList_repr] at hc
  have hdigit := Nat.isDigit_of_mem_toDigits (by decide) (by decide) hc
  refine ⟨?_, ?_⟩ <;> · rintro rfl; exact absurd hdigit (by decide)

end Pointer

namespace Json

/-- The node of a document that a pointer names. -/
def named? (document : Json) (pointer : String) : Option Json :=
  (Text.dropStart? pointer Pointer.root).bind document.atPointer?

theorem at?_append (node : Json) (keys others : List String) :
    node.at? (keys ++ others) = (node.at? keys).bind (·.at? others) := by
  induction keys generalizing node with
  | nil => rfl
  | cons key rest ih =>
      rw [List.cons_append, at?, at?]
      cases node.child? key with
      | none => rfl
      | some child => exact ih child

theorem at?_concat (node : Json) (keys : List String) (key : String) :
    node.at? (keys ++ [key]) = (node.at? keys).bind (·.child? key) := by
  rw [at?_append]
  refine congrArg _ (funext fun inner => ?_)
  simp [at?]

/-- **Named nodes.**  A pointer names the node that its keys lead to. -/
theorem named?_descendant (document : Json) (keys : List String) :
    document.named? (Pointer.descendant Pointer.root keys) = document.at? keys := by
  rw [named?, Pointer.dropStart?_descendant, Option.bind_some, atPointer?,
    Pointer.keys?_descendant, Option.bind_some]

end Json

end SchemaTypes
