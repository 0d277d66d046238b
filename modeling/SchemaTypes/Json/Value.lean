import SchemaTypes.Number.Notation

/-!
# JSON values

A JSON document as data.  Objects keep their members in order of declaration; a key occurs at
most once, since a repeated key keeps the place of the first occurrence and the value of the
last.  Numbers remember whether they were written as integers.

## Main definitions

* `Json`, `JsonNumber` and `Members`.
* `Members.insert`, `Members.erase`: replacing a value keeps its place, and the last member moves
  into the place of an erased one.
* `Json.equiv`: equality of meaning, in which the order of members does not count and an integer
  differs from a floating-point number of equal value.
-/

namespace SchemaTypes

/-- A JSON number: an integer of 64 bits, signed or unsigned, or a finite double. -/
inductive JsonNumber
  | integer (value : Int)
  | float (value : Binary64)
deriving DecidableEq, Repr, Inhabited

namespace JsonNumber

/-- The least signed integer of 64 bits. -/
def leastSigned : Int := -0x8000000000000000

/-- The greatest signed integer of 64 bits. -/
def greatestSigned : Int := 0x7fffffffffffffff

/-- The greatest unsigned integer of 64 bits. -/
def greatestUnsigned : Int := 0xffffffffffffffff

/-- The value as a signed integer of 64 bits, when it is written as one. -/
def signed? : JsonNumber → Option Int
  | .integer value =>
    if leastSigned ≤ value && value ≤ greatestSigned then some value else none
  | .float _ => none

/-- The nearest double. -/
def toBinary64 : JsonNumber → Binary64
  | .integer value => Binary64.ofInt value
  | .float value => value

/-- The number in the notation that JSON is written in. -/
def text : JsonNumber → String
  | .integer value => toString value
  | .float value => value.jsonText

/-- Equal integers, or floating-point numbers of equal value. -/
def equiv : JsonNumber → JsonNumber → Bool
  | .integer a, .integer b => a == b
  | .float a, .float b => a.sameValue b
  | _, _ => false

end JsonNumber

/-- A JSON value. -/
inductive Json
  | null
  | bool (value : Bool)
  | number (value : JsonNumber)
  | string (value : String)
  | array (items : List Json)
  | object (members : List (String × Json))
deriving Repr, Inhabited

/-- The members of an object, in order. -/
abbrev Members := List (String × Json)

namespace Members

/-- The value of a key. -/
def get? (members : Members) (key : String) : Option Json :=
  members.lookup key

/-- Whether there is a value for a key. -/
def contains (members : Members) (key : String) : Bool :=
  (members.get? key).isSome

/-- Sets the value of a key.  A key that is present keeps its place; a new one comes last. -/
def insert : Members → String → Json → Members
  | [], key, value => [(key, value)]
  | (k, v) :: rest, key, value =>
    if k == key then (k, value) :: rest else (k, v) :: insert rest key value

/-- Puts `substitute` into the place of `key`. -/
def substitute (members : Members) (key : String) (substitute : String × Json) : Members :=
  members.map fun entry => if entry.1 == key then substitute else entry

/-- Removes a key.  The last member moves into the place of the removed one. -/
def erase (members : Members) (key : String) : Members :=
  match members.getLast? with
  | none => []
  | some final =>
    if !members.contains key then members
    else if final.1 == key then members.dropLast
    else substitute members.dropLast key final

/-- Members from a list of pairs in which keys may repeat. -/
def ofList (pairs : List (String × Json)) : Members :=
  pairs.foldl (fun members pair => insert members pair.1 pair.2) []

theorem mem_of_get? {members : Members} {key : String} {value : Json}
    (found : members.get? key = some value) : (key, value) ∈ members := by
  induction members with
  | nil => simp [get?] at found
  | cons entry rest ih =>
    obtain ⟨k, v⟩ := entry
    by_cases same : key == k
    · have : key = k := by simpa using same
      subst this
      simp_all [get?]
    · simp only [get?, List.lookup_cons, same] at found ih
      exact List.mem_cons_of_mem _ (ih found)

end Members

namespace Json

/-! ## Views -/

/-- The members of an object. -/
def members? : Json → Option Members
  | .object members => some members
  | _ => none

/-- The items of an array. -/
def items? : Json → Option (List Json)
  | .array items => some items
  | _ => none

/-- The text of a string. -/
def string? : Json → Option String
  | .string value => some value
  | _ => none

/-- The truth value of a boolean. -/
def bool? : Json → Option Bool
  | .bool value => some value
  | _ => none

/-- The number of a number. -/
def number? : Json → Option JsonNumber
  | .number value => some value
  | _ => none

/-- A number written as a signed integer of 64 bits. -/
def signed? (value : Json) : Option Int := value.number?.bind JsonNumber.signed?

/-- Whether the value is `null`. -/
def isNull : Json → Bool
  | .null => true
  | _ => false

/-- Whether the value is a string. -/
def isString (value : Json) : Bool := value.string?.isSome

/-- Whether the value is an object. -/
def isObject (value : Json) : Bool := value.members?.isSome

/-- Whether the value is written as a signed integer of 64 bits. -/
def isSigned (value : Json) : Bool := value.signed?.isSome

/-- The member of an object under `key`.  Other values have no members. -/
def get? (value : Json) (key : String) : Option Json :=
  value.members?.bind (·.get? key)

/-! ## Equality of meaning -/

mutual

/-- Equality of meaning: members are compared by key, numbers within their kind. -/
def equiv : Json → Json → Bool
  | .null, .null => true
  | .bool a, .bool b => a == b
  | .number a, .number b => a.equiv b
  | .string a, .string b => a == b
  | .array a, .array b => equivItems a b
  | .object a, .object b => a.length == b.length && equivMembers a b
  | _, _ => false

/-- Equality item by item. -/
def equivItems : List Json → List Json → Bool
  | [], [] => true
  | a :: as, b :: bs => equiv a b && equivItems as bs
  | _, _ => false

/-- Whether every member on the left has an equal one under its key on the right. -/
def equivMembers : List (String × Json) → Members → Bool
  | [], _ => true
  | (key, a) :: rest, members =>
    (match members.get? key with
      | some b => equiv a b
      | none => false) && equivMembers rest members

end

instance : BEq Json := ⟨equiv⟩

/-! ## Size -/

/-- A member is smaller than its object. -/
theorem sizeOf_lt_of_get? {value child : Json} {key : String}
    (found : value.get? key = some child) :
    sizeOf child < sizeOf value := by
  cases value with
  | object members =>
    have := List.sizeOf_lt_of_mem (Members.mem_of_get? (by simpa [get?, members?] using found))
    simp only [Prod.mk.sizeOf_spec] at this
    simp only [Json.object.sizeOf_spec]
    omega
  | _ => simp [get?, members?] at found

end Json

end SchemaTypes
