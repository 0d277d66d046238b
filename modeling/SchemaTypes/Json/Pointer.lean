import SchemaTypes.Json.Value
import SchemaTypes.Text.Split

/-!
# JSON pointers

A pointer names a node of a document by the keys and indices on the way to it.  It is written as a
text in which every token follows a slash; inside a token `~` is written `~0` and `/` is written
`~1`.  A reference to a node of the same document is such a text after the sign `#`.
-/

namespace SchemaTypes

namespace Pointer

/-- Writes a tilde as `~0` and a slash as `~1`. -/
def escapeTokenChars : List Char → List Char
  | [] => []
  | '~' :: rest => '~' :: '0' :: escapeTokenChars rest
  | '/' :: rest => '~' :: '1' :: escapeTokenChars rest
  | c :: rest => c :: escapeTokenChars rest

/-- Reads `~1` as a slash first and then `~0` as a tilde. -/
def unescapeTokenChars (token : List Char) : List Char :=
  Text.replacePair '~' '0' ['~'] (Text.replacePair '~' '1' ['/'] token)

/-- A key as a token of a pointer. -/
def escapeToken (key : String) : String := String.ofList (escapeTokenChars key.toList)

/-- The key that a token stands for. -/
def unescapeToken (token : String) : String := String.ofList (unescapeTokenChars token.toList)

/-- The pointer to the child under `key`. -/
def child (pointer key : String) : String := pointer ++ "/" ++ escapeToken key

/-- The pointer to a node further down. -/
def descendant (pointer : String) (keys : List String) : String := keys.foldl child pointer

/-- The reference to the root of a document. -/
def root : String := "#"

/-- What references to other nodes of the document start with. -/
def localStart : String := "#/"

/-- The keys of a pointer text without the sign `#`; nothing when it does not start with a
slash. -/
def keys? (text : String) : Option (List String) :=
  match text.toList with
  | [] => some []
  | '/' :: rest =>
    some ((Text.pieces '/' rest).map fun token => String.ofList (unescapeTokenChars token))
  | _ => none

/-- An index into an array: decimal digits, without a sign and without leading zeros. -/
def index? (key : String) : Option Nat :=
  let chars := key.toList
  if chars.isEmpty || !chars.all Char.isDigit || (chars.head? == some '0' && chars.length > 1) then
    none
  else
    let value := chars.foldl (fun value c => value * 10 + (c.toNat - 48)) 0
    if value < 0x10000000000000000 then some value else none

end Pointer

namespace Json

/-- The child under a key of a pointer. -/
def child? (node : Json) (key : String) : Option Json :=
  match node with
  | .object members => Members.get? members key
  | .array items => (Pointer.index? key).bind (items[·]?)
  | _ => none

/-- The node at the end of a path of keys. -/
def at? (node : Json) : List String → Option Json
  | [] => some node
  | key :: rest => (node.child? key).bind (·.at? rest)

/-- The node that a pointer text without the sign `#` names. -/
def atPointer? (node : Json) (text : String) : Option Json :=
  (Pointer.keys? text).bind node.at?

end Json

end SchemaTypes
