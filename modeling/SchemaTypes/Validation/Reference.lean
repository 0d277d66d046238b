import SchemaTypes.Json.Pointer

/-!
# References of a schema

The schema that a `$ref` names in its document: the document itself, the node at a pointer, or the
node that carries an anchor.  Pointers in references are written with percent signs for bytes
that a URI cannot hold.
-/

namespace SchemaTypes

namespace Pointer

/-- The number that a hexadecimal digit stands for. -/
def hexDigit? (c : Char) : Option Nat :=
  if c.isDigit then some (c.toNat - 48)
  else if 'a' ≤ c && c ≤ 'f' then some (c.toNat - 87)
  else if 'A' ≤ c && c ≤ 'F' then some (c.toNat - 55)
  else none

/-- Bytes of a text in which a percent sign and two hexadecimal digits stand for one byte. -/
def percentDecodedBytes : List Char → List UInt8
  | [] => []
  | '%' :: a :: b :: rest =>
    match hexDigit? a, hexDigit? b with
    | some high, some low => UInt8.ofNat (high * 16 + low) :: percentDecodedBytes rest
    | _, _ => String.utf8EncodeChar '%' ++ percentDecodedBytes (a :: b :: rest)
  | c :: rest => String.utf8EncodeChar c ++ percentDecodedBytes rest

/-- The text without percent signs; none when its bytes are not text. -/
def percentDecoded? (text : String) : Option String :=
  String.fromUTF8? ⟨(percentDecodedBytes text.toList).toArray⟩

end Pointer

namespace Json

mutual

/-- The first schema that carries an anchor. -/
def anchored? (anchor : String) : Json → Option Json
  | .object members =>
    if [members.lookup "$anchor", members.lookup "$dynamicAnchor"].any fun found =>
        (found.bind string?) == some anchor then
      some (.object members)
    else anchoredMember? anchor members
  | .array items => anchoredItem? anchor items
  | _ => none

/-- The node with an anchor in one of the items. -/
def anchoredItem? (anchor : String) : List Json → Option Json
  | [] => none
  | item :: rest => (anchored? anchor item).or (anchoredItem? anchor rest)

/-- The node with an anchor below one of the members. -/
def anchoredMember? (anchor : String) : List (String × Json) → Option Json
  | [] => none
  | (_, value) :: rest => (anchored? anchor value).or (anchoredMember? anchor rest)

end

end Json

/-- Why a reference names nothing. -/
inductive ReferenceFault
  | noNode (pointer : String)
  | noAnchor (name : String)
  /-- Anchors have no slash in them. -/
  | badAnchor (name : String)
  | noDocument (location reason : String)
deriving DecidableEq, Repr, Inhabited

namespace ReferenceFault

/-- The fault as the validator words it. -/
def message : ReferenceFault → String
  | noNode pointer => s!"Pointer '{pointer}' does not exist"
  | noAnchor name => s!"Anchor '{name}' does not exist"
  | badAnchor name => s!"Anchor '{name}' is invalid"
  | noDocument location reason =>
    s!"Resource '{location}' is not present in a registry and retrieving it failed: {reason}"

/-- The scheme that a reference starts with. -/
def scheme? (reference : String) : Option String :=
  match Text.splitOnce? ':' reference with
  | some (scheme, _) =>
    let isPart := fun (c : Char) => c.isAlphanum || c == '+' || c == '-' || c == '.'
    if (scheme.toList.head?.any Char.isAlpha) && scheme.toList.all isPart then some scheme else none
  | none => none

/-- A reference to another document.  Without a scheme it is one beside this document, which has
no place of its own. -/
def outside (reference : String) : ReferenceFault :=
  let location := String.ofList (reference.toList.takeWhile (· != '#'))
  let needed := fun (feature means : String) =>
    s!"`{feature}` feature or a custom resolver is required to resolve external schemas via {means}"
  match scheme? location with
  | none =>
    noDocument ("json-schema:///" ++ String.ofList (location.toList.dropWhile (· == '/')))
      "Retrieving external resources is not supported once the registry is populated"
  | some scheme =>
    noDocument location <|
      if scheme == "http" || scheme == "https" then needed "resolve-http" "HTTP"
      else if scheme == "file" then needed "resolve-file" "files"
      else s!"Unknown scheme {scheme}"

end ReferenceFault

/-- The node of a document that a reference names.  Only references within the document can be
followed. -/
def Json.resolveReference (root : Json) (reference : String) : Except ReferenceFault Json :=
  match reference.toList with
  | '#' :: rest =>
    let fragment := String.ofList rest
    match rest with
    | [] => .ok root
    | '/' :: _ =>
      match (Pointer.percentDecoded? fragment).bind root.atPointer? with
      | some node => .ok node
      | none => .error (.noNode fragment)
    | _ =>
      match root.anchored? fragment with
      | some node => .ok node
      | none => .error (if rest.contains '/' then .badAnchor fragment else .noAnchor fragment)
  | _ => .error (.outside reference)

end SchemaTypes
