import SchemaTypes.Yaml.Node
import SchemaTypes.Yaml.Scalar

/-!
# YAML documents as JSON

A document as the JSON value that it describes.  Keys are scalars and count as text, a repeated key
keeps the last value, and collections with tags of their own are refused.

Collections nest at most 128 deep, in which aliases count as the node they stand for.  The number of
aliases that are followed is bounded by the size of the document, so that no small text describes a
huge value.
-/

namespace SchemaTypes.Yaml

mutual

/-- Marks of beginnings and ends of collections, scalars and aliases. -/
def Node.eventCount : Node → Nat
  | .scalar _ _ _ => 1
  | .reference _ => 1
  | .sequence _ items => eventCountOfItems items + 2
  | .mapping _ entries => eventCountOfEntries entries + 2

/-- Number of events that the items of a sequence make. -/
def Node.eventCountOfItems : List Node → Nat
  | [] => 0
  | item :: rest => Node.eventCount item + eventCountOfItems rest

/-- Number of events that the entries of a mapping make. -/
def Node.eventCountOfEntries : List (Node × Node) → Nat
  | [] => 0
  | (key, value) :: rest =>
    Node.eventCount key + Node.eventCount value + eventCountOfEntries rest

end

namespace Document

/-- Aliases that may be followed for each event of a document. -/
def aliasesPerEvent : Nat := 100

/-- Depth to which collections nest. -/
def greatestDepth : Nat := 128

/-- A conversion that counts the aliases it may still follow. -/
abbrev Convert := StateT Nat Option

/-- The node that an alias stands for. -/
def follow (document : Document) (number : Nat) : Convert Node := do
  match ← get, document.node? number with
  | left + 1, some node =>
    set left
    return node
  | _, _ => failure

/-- The text of a key. -/
def keyText (document : Document) (node : Node) : Convert String := do
  let node ←
    match node with
    | .reference number => document.follow number
    | node => pure node
  match node with
  | .scalar _ _ text => return text
  | _ => failure

/-- The value of a node.  `depth` is the number of collections that may still be opened. -/
def valueOf (document : Document) : (fuel depth : Nat) → Node → Convert Json
  | 0, _, _ => failure
  | fuel + 1, depth, node =>
    match node, depth with
    | .scalar tag plain text, _ => fun left => (Scalar.value? tag plain text).map (·, left)
    | .reference number, depth => do valueOf document fuel depth (← document.follow number)
    | .sequence tag items, depth + 1 => do
      if Scalar.isCustomTag tag then failure
      return .array (← items.mapM (valueOf document fuel depth))
    | .mapping tag entries, depth + 1 => do
      if Scalar.isCustomTag tag then failure
      let members ← entries.mapM fun entry => do
        let key ← document.keyText entry.1
        return (key, ← valueOf document fuel depth entry.2)
      return .object (Members.ofList members)
    | _, 0 => failure

/-- The value of a document. -/
def toJson? (document : Document) : Option Json :=
  ((document.valueOf (2 * greatestDepth + 2) greatestDepth document.root).run
    (aliasesPerEvent * document.root.eventCount)).map (·.1)

end Document

/-- Reads the value of the only document of a text.  A mark of the order of bytes at its beginning
does not count. -/
def parse? (bytes : List UInt8) : Option Json := do
  let text ← String.fromUTF8? ⟨bytes.toArray⟩
  let chars :=
    match text.toList with
    | '\ufeff' :: rest => rest
    | chars => chars
  let document ← Document.ofTokens? (← tokens? chars)
  document.toJson?

end SchemaTypes.Yaml
