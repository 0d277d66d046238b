import SchemaTypes.Yaml.Token

/-!
# Nodes of a YAML document

The tree that tokens describe: scalars, sequences and mappings with their tags, and aliases that
stand for a node with an anchor.

An anchor is numbered by the names that are in use before it, so a name that is used again takes a
new number, which the next new name shares.  An alias stands for the last node with the number of
its name, also when that node comes later.

## Main definitions

* `Node` and `Document`.
* `Document.ofTokens?`: the only document of a text, when there is one.
-/

namespace SchemaTypes.Yaml

/-- A node of a document as it is written, before tags and anchors are made out. -/
inductive Node
  | scalar (tag : Option String) (plain : Bool) (text : String)
  | sequence (tag : Option String) (items : List Node)
  | mapping (tag : Option String) (entries : List (Node × Node))
  /-- The node with the number of an anchor. -/
  | reference (number : Nat)
deriving Repr, Inhabited

/-- A node with an anchor. -/
structure Anchored where
  number : Nat
  /-- Number of anchors before it. -/
  place : Nat
  node : Node
deriving Repr, Inhabited

/-- A document with the nodes that aliases stand for. -/
structure Document where
  root : Node
  anchored : List Anchored
deriving Repr, Inhabited

namespace Reading

/-- The tokens still to be read and what is known from those before. -/
structure State where
  tokens : List Token
  /-- Handles of tags and their expansions. -/
  handles : List (String × String)
  /-- Names of anchors and their numbers. -/
  names : List (String × Nat)
  anchored : List Anchored
  /-- Number of anchors so far. -/
  places : Nat
deriving Repr, Inhabited

/-- A step of reading tokens, which fails on a text that is no document. -/
abbrev Read := StateT State Option

/-- The token that comes next. -/
def peek : Read Token := return (← get).tokens.headD .streamEnd

/-- Goes past a token. -/
def skip : Read Unit := modify fun state => { state with tokens := state.tokens.tail }

/-- Steps over a token when it comes next, and tells whether it does. -/
def skipToken (token : Token) : Read Bool := do
  if (← peek) == token then
    skip
    return true
  else return false

/-- Takes a token that has to be there. -/
def expect (token : Token) : Read Unit := do
  if ← skipToken token then return else failure

/-- The node where nothing is written. -/
def emptyScalar : Node := .scalar none true ""

/-! ## Tags and anchors -/

/-- The tag that a handle and a suffix stand for. -/
def resolveTag (handle suffix : String) : Read String := do
  if handle.isEmpty then return suffix
  match (← get).handles.lookup handle with
  | some expansion => return expansion ++ suffix
  | none => failure

/-- Takes the number of an anchor, and its place. -/
def openAnchor (name : String) : Read (Nat × Nat) := do
  let state ← get
  let number := state.names.length
  set { state with
    names := (name, number) :: state.names.filter (·.1 != name)
    places := state.places + 1 }
  return (number, state.places)

/-- Tag and anchor before a node, in any order and each at most once. -/
def readProperties : Read (Option String × Option String) := do
  match ← peek with
  | .anchor name =>
    skip
    match ← peek with
    | .tag handle suffix =>
      skip
      return (some (← resolveTag handle suffix), some name)
    | _ => return (none, some name)
  | .tag handle suffix =>
    skip
    match ← peek with
    | .anchor name =>
      skip
      return (some (← resolveTag handle suffix), some name)
    | _ => return (some (← resolveTag handle suffix), none)
  | _ => return (none, none)

/-- The tag `!` says nothing about a scalar. -/
def scalarTag (tag : Option String) : Option String := tag.filter (· != "!")

/-! ## Nodes -/

/-- A node unless one of some tokens comes next, before which it is left out. -/
def unlessAt (tokens : List Token) (node : Read Node) : Read Node := do
  if tokens.contains (← peek) then return emptyScalar else node

mutual

/-- Reads a node.  In a block, indented collections may come, and where a key stands before it a
sequence that is not indented. -/
def readNode (fuel : Nat) (inBlock afterKey : Bool) : Read Node :=
  match fuel with
  | 0 => failure
  | fuel + 1 => do
    match ← peek with
    | .alias name =>
      skip
      match (← get).names.lookup name with
      | some number => return .reference number
      | none => failure
    | _ =>
      let (tag, name) ← readProperties
      let described := tag.isSome || name.isSome
      match name with
      | none => readContent fuel tag described inBlock afterKey
      | some name =>
        let (number, place) ← openAnchor name
        let node ← readContent fuel tag described inBlock afterKey
        modify fun state => { state with anchored := ⟨number, place, node⟩ :: state.anchored }
        return node

/-- Reads a node after its tag and anchor.  A node that has one of them may be empty. -/
def readContent (fuel : Nat) (tag : Option String) (described inBlock afterKey : Bool) :
    Read Node :=
  match fuel with
  | 0 => failure
  | fuel + 1 => do
    match ← peek, inBlock, afterKey with
    | .blockEntry, _, true => return .sequence tag (← readFlatItems fuel [])
    | .scalar text plain, _, _ =>
      skip
      return .scalar (scalarTag tag) plain text
    | .flowSequenceStart, _, _ =>
      skip
      return .sequence tag (← readFlowItems fuel true [])
    | .flowMappingStart, _, _ =>
      skip
      return .mapping tag (← readFlowEntries fuel true [])
    | .blockSequenceStart, true, _ =>
      skip
      return .sequence tag (← readBlockItems fuel [])
    | .blockMappingStart, true, _ =>
      skip
      return .mapping tag (← readBlockEntries fuel [])
    | _, _, _ =>
      if described then return .scalar (scalarTag tag) true "" else failure

/-- Reads the entries of an indented sequence up to its end. -/
def readBlockItems (fuel : Nat) (items : List Node) : Read (List Node) :=
  match fuel with
  | 0 => failure
  | fuel + 1 => do
    if ← skipToken .blockEntry then
      let item ← unlessAt [.blockEntry, .blockEnd] (readNode fuel true false)
      readBlockItems fuel (item :: items)
    else
      expect .blockEnd
      return items.reverse

/-- Reads the entries of a sequence that is not indented. -/
def readFlatItems (fuel : Nat) (items : List Node) : Read (List Node) :=
  match fuel with
  | 0 => failure
  | fuel + 1 => do
    if ← skipToken .blockEntry then
      let item ← unlessAt [.blockEntry, .key, .value, .blockEnd] (readNode fuel true false)
      readFlatItems fuel (item :: items)
    else return items.reverse

/-- Reads the keys and values of an indented mapping up to its end. -/
def readBlockEntries (fuel : Nat) (entries : List (Node × Node)) : Read (List (Node × Node)) :=
  match fuel with
  | 0 => failure
  | fuel + 1 => do
    if ← skipToken .key then
      let part := unlessAt [.key, .value, .blockEnd] (readNode fuel true true)
      let key ← part
      let value ← if ← skipToken .value then part else pure emptyScalar
      readBlockEntries fuel ((key, value) :: entries)
    else
      expect .blockEnd
      return entries.reverse

/-- Reads the items of a sequence in brackets.  An item with a key is a mapping of its own. -/
def readFlowItems (fuel : Nat) (first : Bool) (items : List Node) : Read (List Node) :=
  match fuel with
  | 0 => failure
  | fuel + 1 => do
    if ← skipToken .flowSequenceEnd then return items.reverse
    if !first then expect .flowEntry
    if ← skipToken .flowSequenceEnd then return items.reverse
    if ← skipToken .key then
      let key ←
        if [.value, .flowEntry, .flowSequenceEnd].contains (← peek) then
          -- the sign in the place of the key is passed over
          skip
          pure emptyScalar
        else readNode fuel false false
      let value ←
        if ← skipToken .value then
          unlessAt [.flowEntry, .flowSequenceEnd] (readNode fuel false false)
        else pure emptyScalar
      readFlowItems fuel false (.mapping none [(key, value)] :: items)
    else
      let item ← readNode fuel false false
      readFlowItems fuel false (item :: items)

/-- Reads the keys and values of a mapping in braces.  A key may lack its value. -/
def readFlowEntries (fuel : Nat) (first : Bool) (entries : List (Node × Node)) :
    Read (List (Node × Node)) :=
  match fuel with
  | 0 => failure
  | fuel + 1 => do
    if ← skipToken .flowMappingEnd then return entries.reverse
    if !first then expect .flowEntry
    if ← skipToken .flowMappingEnd then return entries.reverse
    if ← skipToken .key then
      let key ← unlessAt [.value, .flowEntry, .flowMappingEnd] (readNode fuel false false)
      let value ←
        if ← skipToken .value then
          unlessAt [.flowEntry, .flowMappingEnd] (readNode fuel false false)
        else pure emptyScalar
      readFlowEntries fuel false ((key, value) :: entries)
    else
      let key ← readNode fuel false false
      readFlowEntries fuel false ((key, emptyScalar) :: entries)

end

/-! ## Documents -/

/-- Handles that need no directive. -/
def knownHandles : List (String × String) := [("!", "!"), ("!!", "tag:yaml.org,2002:")]

/-- Reads the directives before a document: at most one version, and handles each once. -/
def readDirectives : (fuel : Nat) → (versioned : Bool) → (handles : List (String × String)) →
    Read Unit
  | 0, _, _ => failure
  | fuel + 1, versioned, handles => do
    match ← peek with
    | .versionDirective major minor =>
      if versioned || major != 1 || !(minor == 1 || minor == 2) then failure
      skip
      readDirectives fuel true handles
    | .tagDirective handle expansion =>
      if (handles.lookup handle).isSome then failure
      skip
      readDirectives fuel versioned ((handle, expansion) :: handles)
    | _ => modify ({ · with handles := handles ++ knownHandles })

/-- Whether a token is a directive in front of a document. -/
def isDirective : Token → Bool
  | .versionDirective _ _ => true
  | .tagDirective _ _ => true
  | _ => false

/-- Reads the node of the first document, which starts with a mark when it has directives. -/
def readRoot (fuel : Nat) : Read Node := do
  let first ← peek
  if isDirective first || first == .documentStart then
    readDirectives fuel false []
    expect .documentStart
    let second ← peek
    if isDirective second || [.documentStart, .documentEnd, .streamEnd].contains second then
      return emptyScalar
  readNode fuel true false

/-- Nothing may follow the first document but marks of its end. -/
def isFinished (tokens : List Token) : Bool := tokens.dropWhile (· == .documentEnd) == [.streamEnd]

end Reading

/-- The document that tokens describe.  There is no second one.  A text without any holds an empty
scalar. -/
def Document.ofTokens? (tokens : List Token) : Option Document :=
  if tokens == [.streamEnd] then some ⟨Reading.emptyScalar, []⟩
  else
    let state : Reading.State := ⟨tokens, Reading.knownHandles, [], [], 0⟩
    match (Reading.readRoot (4 * tokens.length + 4)).run state with
    | some (root, state) =>
      if Reading.isFinished state.tokens then some ⟨root, state.anchored⟩ else none
    | none => none

/-- The last node with the number of an anchor. -/
def Document.node? (document : Document) (number : Nat) : Option Node :=
  let found := document.anchored.filter (·.number == number)
  let latest := found.foldl (fun latest anchored => max latest anchored.place) 0
  (found.find? (·.place == latest)).map (·.node)

end SchemaTypes.Yaml
