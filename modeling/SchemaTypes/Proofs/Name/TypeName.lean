import Mathlib
import SchemaTypes.Name.Identifier

/-!
# Type names are valid and lose nothing

A name of any spelling becomes the name of a type.  Whatever way it is written in ASCII, all letters
and digits stay, in their order, and only their case may change; what is no identifier yet gets a
letter in front, and what is reserved gets a word at its end.

* `Name.map_toLower_capitalizeWordsFrom`: capitalising words loses and repeats no letter.
* `Name.isLower_head_capitalizeWordsFrom`: the first letter is a capital.  The invariant is that a
  letter or digit that comes first starts a word.
* `Name.Finishes`: what is added in the end, and `Name.Finishes.isTypeName`: it makes a valid name.
* `Name.isTypeName_typeNameBy`: names of types are valid and lose nothing.
-/

namespace SchemaTypes.Name

/-! ## Letters and digits -/

section

variable {c : Char}

theorem isAlphanumeric_toLower (hc : isAlphanumeric c = true) :
    isAlphanumeric c.toLower = true := by
  by_cases hletter : c.isAlpha
  · exact Bool.or_eq_true_iff.mpr (.inl ((Char.isAlpha_toLower_eq_isAlpha c).trans hletter))
  · have hupper : ¬c.isUpper := fun hupper => hletter (Bool.or_eq_true_iff.mpr (.inl hupper))
    rwa [Char.toLower_eq_of_not_isUpper hupper]

theorem isAlphanumeric_toUpper (hc : isAlphanumeric c = true) :
    isAlphanumeric c.toUpper = true := by
  by_cases hletter : c.isAlpha
  · exact Bool.or_eq_true_iff.mpr (.inl ((Char.isAlpha_toUpper_eq_isAlpha c).trans hletter))
  · have hlower : ¬c.isLower := fun hlower => hletter (Bool.or_eq_true_iff.mpr (.inr hlower))
    rwa [Char.toUpper_eq_of_not_isLower hlower]

theorem isUpper_of_isAlphanumeric (hc : isAlphanumeric c = true) (hlower : c.isLower = false)
    (hdigit : c.isDigit = false) : c.isUpper = true := by
  simpa [isAlphanumeric, Char.isAlphanum, Char.isAlpha, hlower, hdigit] using hc

theorem toNat_lt_of_isAlphanumeric (hc : isAlphanumeric c = true) : c.toNat < 0x80 := by
  simp only [isAlphanumeric, Char.isAlphanum, Char.isAlpha, Char.isUpper, Char.isLower,
    Char.isDigit, Bool.or_eq_true, Bool.and_eq_true, decide_eq_true_eq, ge_iff_le,
    UInt32.le_iff_toNat_le] at hc
  change c.val.toNat < 0x80
  have hbounds : (65 ≤ c.val.toNat ∧ c.val.toNat ≤ 90 ∨ 97 ≤ c.val.toNat ∧ c.val.toNat ≤ 122) ∨
      48 ≤ c.val.toNat ∧ c.val.toNat ≤ 57 := hc
  omega

theorem upperCase_of_isAlphanumeric (hc : isAlphanumeric c = true) :
    Text.upperCase c = [c.toUpper] :=
  if_pos (toNat_lt_of_isAlphanumeric hc)

end

/-- Letters and digits, the first of which is no small letter. -/
structure IsTitle (body : List Char) : Prop where
  labels : ∀ c ∈ body, isAlphanumeric c = true
  head : ∀ c ∈ body.head?, c.isLower = false

/-! ## Capitalising words -/

/-- A letter or digit is written once, in one case or the other. -/
theorem map_toLower_capitalizeWordsFrom (start afterSmall : Bool) (text : List Char) :
    ((capitalizeWordsFrom start afterSmall text).filter isAlphanumeric).map Char.toLower =
      (text.filter isAlphanumeric).map Char.toLower := by
  fun_induction capitalizeWordsFrom start afterSmall text with
  | case1 start afterSmall => rfl
  | case2 start afterSmall c rest hother ih =>
      have hc : ¬isAlphanumeric c = true := by simpa using hother
      rw [List.filter_cons_of_neg hc, List.filter_cons_of_neg hc, ih]
  | case3 start afterSmall c rest hlabel opens ih =>
      have hc : isAlphanumeric c = true := by simpa using hlabel
      have hcased : isAlphanumeric (if opens then c.toUpper else c.toLower) = true := by
        split
        · exact isAlphanumeric_toUpper hc
        · exact isAlphanumeric_toLower hc
      have hsame : (if opens then c.toUpper else c.toLower).toLower = c.toLower := by
        split
        · exact Char.toLower_toUpper_eq_toLower c
        · exact Char.toLower_toLower_eq_toLower c
      rw [List.filter_cons_of_pos hcased, List.filter_cons_of_pos hc, List.map_cons, List.map_cons,
        hsame, ih]

/-- The first letter is a capital: a word starts with it, or other characters come before it, and
then a word starts after them. -/
theorem isLower_head_capitalizeWordsFrom {start afterSmall : Bool} {text : List Char}
    (hstart : nextIs isAlphanumeric text = true → start = true) :
    ∀ c ∈ ((capitalizeWordsFrom start afterSmall text).filter isAlphanumeric).head?,
      c.isLower = false := by
  fun_induction capitalizeWordsFrom start afterSmall text with
  | case1 start afterSmall => simp
  | case2 start afterSmall c rest hother ih =>
      rw [List.filter_cons_of_neg (by simpa using hother)]
      exact ih id
  | case3 start afterSmall c rest hlabel opens ih =>
      have hc : isAlphanumeric c = true := by simpa using hlabel
      have hopens : opens = true := by simp [opens, hstart hc]
      rw [if_pos hopens, List.filter_cons_of_pos (isAlphanumeric_toUpper hc), List.head?_cons]
      rintro _ ⟨⟩
      exact Char.isLower_toUpper_eq_false c

theorem isTitle_capitalizeWords (text : List Char) :
    IsTitle ((capitalizeWords text).filter isAlphanumeric) where
  labels _ hc := (List.mem_filter.mp hc).2
  head := isLower_head_capitalizeWordsFrom fun _ => rfl

theorem capitalize_cons {c : Char} (hc : isAlphanumeric c = true) (rest : List Char) :
    capitalize (c :: rest) = c.toUpper :: rest := by
  rw [capitalize, upperCase_of_isAlphanumeric hc, List.singleton_append]

theorem isTitle_capitalize {body : List Char} (hbody : ∀ c ∈ body, isAlphanumeric c = true) :
    IsTitle (capitalize body) := by
  cases body with
  | nil => exact ⟨by simp [capitalize], by simp [capitalize]⟩
  | cons c rest =>
      obtain ⟨hc, hrest⟩ := List.forall_mem_cons.mp hbody
      rw [capitalize_cons hc]
      refine ⟨List.forall_mem_cons.mpr ⟨isAlphanumeric_toUpper hc, hrest⟩, ?_⟩
      rintro _ ⟨⟩
      exact Char.isLower_toUpper_eq_false c

theorem map_toLower_capitalize {body : List Char} (hbody : ∀ c ∈ body, isAlphanumeric c = true) :
    (capitalize body).map Char.toLower = body.map Char.toLower := by
  cases body with
  | nil => rfl
  | cons c rest =>
      rw [capitalize_cons (hbody c List.mem_cons_self), List.map_cons,
        Char.toLower_toUpper_eq_toLower, List.map_cons]

theorem isAlphanumeric_of_mem_camelCaseFrom (capital begun : Bool) (text : List Char) :
    ∀ c ∈ camelCaseFrom capital begun text, isAlphanumeric c = true := by
  fun_induction camelCaseFrom capital begun text with
  | case1 capital begun => simp
  | case2 capital begun c rest hseparator ih => exact ih
  | case3 capital begun c rest hseparator hother ih => exact ih
  | case4 capital begun c rest hseparator hlabel ih =>
      have hc : isAlphanumeric c = true := by simpa using hlabel
      refine List.forall_mem_cons.mpr ⟨?_, ih⟩
      split
      · exact isAlphanumeric_toUpper hc
      · exact hc

/-! ## Finishing a name -/

/-- What is added to the letters and digits of a name in the end, if anything. -/
inductive Finishes (body : List Char) : (name : String) → Prop
  | unnamed (hnone : body = []) : Finishes body "Unnamed"
  | marked (hdigit : nextIs Char.isDigit body = true) : Finishes body (String.ofList ('T' :: body))
  | extended (hreserved : String.ofList body ∈ reservedTypeNames) :
      Finishes body (String.ofList body ++ "Type")
  | kept (hsome : body ≠ []) (hletter : nextIs Char.isDigit body = false)
      (hfree : String.ofList body ∉ reservedTypeNames) : Finishes body (String.ofList body)

theorem exists_cons_of_mem_reservedTypeNames {word : String} (hword : word ∈ reservedTypeNames) :
    ∃ c rest, word.toList = c :: rest ∧ c.isDigit = false ∧ c ≠ 'T' := by
  have hall : ∀ word ∈ reservedTypeNames,
      nextIs (fun c => !c.isDigit && c != 'T') word.toList = true := by decide
  have hstart := hall word hword
  cases hchars : word.toList with
  | nil =>
      rw [hchars] at hstart
      cases hstart
  | cons c rest =>
      rw [hchars] at hstart
      exact ⟨c, rest, rfl, by simpa [nextIs] using hstart⟩

/-- A mark in front makes no reserved name. -/
theorem marked_not_mem_reservedTypeNames (body : List Char) :
    String.ofList ('T' :: body) ∉ reservedTypeNames := by
  intro hmember
  obtain ⟨c, rest, hchars, -, hmark⟩ := exists_cons_of_mem_reservedTypeNames hmember
  rw [String.toList_ofList] at hchars
  exact hmark (List.cons.inj hchars).1.symm

theorem finishes_finishTypeName (body : List Char) : Finishes body (finishTypeName body) := by
  unfold finishTypeName
  split
  · rename_i hempty
    exact .unnamed (List.isEmpty_iff.mp hempty)
  · rename_i hsome
    rw [List.isEmpty_iff] at hsome
    cases hdigit : nextIs Char.isDigit body with
    | true =>
        have hmarked : markLeadingDigit 'T' body = 'T' :: body := if_pos hdigit
        dsimp only
        rw [hmarked, if_neg (by simpa using marked_not_mem_reservedTypeNames body)]
        exact .marked hdigit
    | false =>
        have hmarked : markLeadingDigit 'T' body = body := if_neg (by simp [hdigit])
        dsimp only
        rw [hmarked]
        split
        · rename_i hreserved
          exact .extended (List.contains_iff_mem.mp hreserved)
        · rename_i hfree
          exact .kept hsome hdigit fun hmember => hfree (List.contains_iff_mem.mpr hmember)

/-- A first character of some kind and letters and digits after it, which make no reserved name. -/
structure IsTypeName (opening : Char → Bool) (name : String) : Prop where
  spelling : ∃ first rest, name.toList = first :: rest ∧ opening first = true ∧
    ∀ c ∈ rest, isAlphanumeric c = true
  free : name ∉ reservedTypeNames

section

variable {opening : Char → Bool} {body : List Char} {name : String}

/-- Letters and digits that are finished make a valid name. -/
theorem Finishes.isTypeName (hname : Finishes body name)
    (hbody : ∀ c ∈ body, isAlphanumeric c = true)
    (hhead : ∀ c ∈ body.head?, c.isDigit = false → opening c = true)
    (hmark : opening 'T' = true) (hunnamed : opening 'U' = true) : IsTypeName opening name := by
  cases hname with
  | unnamed hnone =>
      exact ⟨⟨'U', "nnamed".toList, rfl, hunnamed, List.all_eq_true.mp rfl⟩, by decide⟩
  | marked hdigit =>
      exact ⟨⟨'T', body, String.toList_ofList, hmark, hbody⟩, marked_not_mem_reservedTypeNames body⟩
  | extended hreserved =>
      obtain ⟨c, rest, hchars, hdigit, -⟩ := exists_cons_of_mem_reservedTypeNames hreserved
      obtain rfl : body = c :: rest := String.toList_ofList.symm.trans hchars
      have hlonger : ∀ word ∈ reservedTypeNames, word ++ "Type" ∉ reservedTypeNames := by decide
      have hending : ∀ c ∈ "Type".toList, isAlphanumeric c = true := List.all_eq_true.mp rfl
      refine ⟨⟨c, rest ++ "Type".toList, ?_, hhead c rfl hdigit, ?_⟩, hlonger _ hreserved⟩
      · rw [String.toList_append, String.toList_ofList, List.cons_append]
      · exact List.forall_mem_append.mpr ⟨(List.forall_mem_cons.mp hbody).2, hending⟩
  | kept hsome hletter hfree =>
      obtain ⟨c, rest, rfl⟩ := List.exists_cons_of_ne_nil hsome
      exact ⟨⟨c, rest, String.toList_ofList, hhead c rfl hletter,
        (List.forall_mem_cons.mp hbody).2⟩, hfree⟩

theorem IsTitle.isTypeName (hbody : IsTitle body) (hname : Finishes body name) :
    IsTypeName Char.isUpper name := by
  refine hname.isTypeName hbody.labels (fun c hc hdigit => ?_) rfl rfl
  exact isUpper_of_isAlphanumeric (hbody.labels c (List.mem_of_mem_head? hc)) (hbody.head c hc)
    hdigit

end

/-! ## Names of types -/

/-- What a name is finished from: all its letters and digits, and a capital first. -/
theorem exists_title_of_typeNameBy (spell : List Char → List Char) (name : String) :
    ∃ body, IsTitle body ∧
      body.map Char.toLower = ((spell name.toList).filter isAlphanumeric).map Char.toLower ∧
      Finishes body (typeNameBy spell name) := by
  unfold typeNameBy titleBy
  dsimp only
  split
  · -- the capitals of a name that mixes both cases stay
    have hlabels : ∀ c ∈ (spell name.toList).filter isAlphanumeric, isAlphanumeric c = true :=
      fun c hc => (List.mem_filter.mp hc).2
    exact ⟨_, isTitle_capitalize hlabels, map_toLower_capitalize hlabels, finishes_finishTypeName _⟩
  · exact ⟨_, isTitle_capitalizeWords _, map_toLower_capitalizeWordsFrom true false _,
      finishes_finishTypeName _⟩

theorem isTypeName_typeNameForBy (spell : List Char → List Char) {parent key suffix : String}
    (hparent : ∀ c ∈ parent.toList, isAlphanumeric c = true)
    (hsuffix : ∀ c ∈ suffix.toList, isAlphanumeric c = true) :
    IsTypeName Char.isAlpha (typeNameForBy spell parent key suffix) := by
  have hkey : ∀ c ∈ capitalize (camelCaseBy spell key.toList), isAlphanumeric c = true :=
    (isTitle_capitalize (isAlphanumeric_of_mem_camelCaseFrom false false _)).labels
  have hbody : ∀ c ∈ parent.toList ++ capitalize (camelCaseBy spell key.toList) ++ suffix.toList,
      isAlphanumeric c = true :=
    List.forall_mem_append.mpr ⟨List.forall_mem_append.mpr ⟨hparent, hkey⟩, hsuffix⟩
  refine (finishes_finishTypeName _).isTypeName hbody (fun c hc hdigit => ?_) rfl rfl
  have hlabel := Bool.or_eq_true_iff.mp (hbody c (List.mem_of_mem_head? hc))
  exact hlabel.resolve_right (by simp [hdigit])

/-- **Names of types are valid and lose nothing**, whatever way they are written in ASCII.  A name
becomes a capital letter with letters and digits after it, which is not reserved.  Up to case, it
consists of the letters and digits of the name, and something is added only where these make no
valid name.  The type of a property has a valid name if its struct and the suffix consist of letters
and digits. -/
theorem isTypeName_typeNameBy (spell : List Char → List Char) :
    (∀ name, IsTypeName Char.isUpper (typeNameBy spell name) ∧
      ∃ body : List Char,
        body.map Char.toLower = ((spell name.toList).filter isAlphanumeric).map Char.toLower ∧
        Finishes body (typeNameBy spell name)) ∧
    ∀ parent key suffix : String, (∀ c ∈ parent.toList, isAlphanumeric c = true) →
      (∀ c ∈ suffix.toList, isAlphanumeric c = true) →
      IsTypeName Char.isAlpha (typeNameForBy spell parent key suffix) := by
  refine ⟨fun name => ?_, fun _ _ _ => isTypeName_typeNameForBy spell⟩
  obtain ⟨body, htitle, hsame, hname⟩ := exists_title_of_typeNameBy spell name
  exact ⟨htitle.isTypeName hname, body, hsame, hname⟩

attribute [local instance] Spelling.plain

/-- Words, a digit, a reserved name and nothing at all; and the type of a property. -/
theorem isTypeName_spelled :
    [typeName "user-profile.schema", typeName "1st HTTPServer", typeName "option", typeName "$"] =
        ["UserProfileSchema", "T1stHttpServer", "OptionType", "Unnamed"] ∧
      (∀ name, IsTypeName Char.isUpper (typeName name) ∧
        ∃ body : List Char,
          body.map Char.toLower =
            ((Spelling.ascii name.toList).filter isAlphanumeric).map Char.toLower ∧
          Finishes body (typeName name)) ∧
      typeNameFor "Root" "1st choice" "Item" = "Root1stChoiceItem" ∧
      IsTypeName Char.isAlpha (typeNameFor "Root" "1st choice" "Item") := by
  obtain ⟨hnames, hproperties⟩ := isTypeName_typeNameBy Spelling.ascii
  exact ⟨by decide, hnames, by decide,
    hproperties "Root" "1st choice" "Item" (List.all_eq_true.mp rfl)
      (List.all_eq_true.mp rfl)⟩

end SchemaTypes.Name
