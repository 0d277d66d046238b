import SchemaTypes.Generation.Realize
import SchemaTypes.Code.Format
import SchemaTypes.Schema.Cycle

/-!
# Generation runs

A run collects the definitions of a document, realizes each of them and then the root, groups the
units by namespace, and writes one file per namespace.

## Main definitions

* `Generation`: the document, the name of its root type, options, existing types and hooks.
* `Generation.run`: the files, the types in them and statistics.
-/

namespace SchemaTypes

/-- One emitted file. -/
structure GeneratedFile where
  /-- Path below the output directory. -/
  path : String
  /-- What the file holds, as tokens. -/
  code : Code
  /-- The formatted text. -/
  contents : String
deriving Repr, Inhabited

/-- A generated type and the file it lies in. -/
structure TypeSummary where
  path : TypePath
  category : TypeUnit.Category
  file : String
deriving Repr, Inhabited

/-- What a run reports about itself. -/
structure GenerationStats where
  categories : List TypeUnit.Category
  definitions : Nat
  files : Nat
  cycles : List (List String)
  warnings : List GenerationWarning
deriving Repr, Inhabited

namespace GenerationStats

/-- Number of generated types. -/
def types (stats : GenerationStats) : Nat := stats.categories.length

/-- Number of generated types of one category. -/
def count (stats : GenerationStats) (category : TypeUnit.Category) : Nat :=
  stats.categories.count category

end GenerationStats

/-- The result of a run. -/
structure GenerationOutput where
  files : List GeneratedFile
  /-- Types grouped by file, in order of emission. -/
  types : List TypeSummary
  stats : GenerationStats
deriving Repr, Inhabited

/-- Everything a run starts from. -/
structure Generation where
  document : Json
  rootName : String
  options : Options := {}
  /-- Existing types by the reference they replace. -/
  external : List (String × TypePath) := []
  hooks : Hooks := .none
  /-- The source shown at the head of every file. -/
  sourcePath : String := ""
deriving Inhabited

/-! ## Modules -/

namespace Namespace

/-- All beginnings of a namespace, itself included. -/
def beginnings : List String → List (List String)
  | [] => [[]]
  | segment :: rest => [] :: (beginnings rest).map (segment :: ·)

/-- Path of the file of a namespace. -/
def filePath (segments : List String) : String :=
  "/".intercalate (segments.map Name.bare ++ ["mod.rs"])

/-- The namespace of a type below the module that generated code is mounted at. -/
def ofPath (moduleRoot : List String) (path : TypePath) : List String :=
  path.modules.drop moduleRoot.length

/-- The namespaces of some types and all those above them, sorted, each once. -/
def tree (namespaces : List (List String)) : List (List String) :=
  (([] :: namespaces.flatMap beginnings).eraseDups).mergeSort fun a b => decide (¬ b < a)

/-- Names of the modules right below a namespace, sorted. -/
def children (all : List (List String)) (parent : List String) : List String :=
  all.filterMap fun segments =>
    if segments.dropLast == parent then segments.getLast? else none

end Namespace

namespace Generation

variable [Spelling]

/-- The targets of all references of the document. -/
def lookup (document : Json) (rootName : String) (options : Options)
    (external : List (String × TypePath)) (definitions : List Definition)
    (cycles : List (List String)) : Lookup :=
  let cyclic := cycles.flatten
  { root := document
    rootPath := .inNamespace options.moduleRoot [] rootName
    definitions := definitions.map fun definition =>
      (definition.pointer,
        .ofDefinition definition.pointer
          (.inNamespace options.moduleRoot definition.namespace definition.typeName)
          definition.schema options.enumsSupported (cyclic.contains definition.pointer))
    external := external.reverse
    cyclic }

/-- The request for the struct of the root. -/
def rootRequest (document : Json) (rootName : String) (options : Options) : ClassRequest where
  schema := document
  typeName := rootName
  moduleRoot := options.moduleRoot
  «namespace» := []
  pointer := Pointer.root
  depth := 0

/-- The request for a definition, unless references to it stand for another type. -/
def definitionRequest? (lookup : Lookup) (options : Options) (definition : Definition) :
    Option ClassRequest :=
  let request : ClassRequest := {
    schema := definition.schema
    typeName := definition.typeName
    moduleRoot := options.moduleRoot
    «namespace» := definition.namespace
    pointer := definition.pointer
    depth := 0 }
  if (lookup.find definition.pointer).path? == some request.path then some request else none

/-- A root that only carries definitions gives no struct of its own. -/
def isRealizableRoot (document : Json) (definitions : List Definition) : Bool :=
  definitions.isEmpty || document.isObjectShaped || document.allOf?.isSome ||
    document.enumValues?.isSome

/-- The head of every file. -/
def header (sourcePath : String) : String :=
  s!"//! AUTO-GENERATED CODE - DO NOT EDIT!\n//!\n//! Source: {sourcePath}\n" ++
    "//! Generated by `schema2rs`\n\n"

/-- Writes a file. -/
def writeFile (sourcePath : String) (file : FileUnit) : Except GenerationError GeneratedFile := do
  let code := file.code
  Generator.checkIdentifiers code
  match code.format? with
  | some text => return ⟨file.path, code, header sourcePath ++ text⟩
  | none => throw (.invalidSource file.path)

/-- The files of the units, one for each namespace. -/
def files (moduleRoot : List String) (hooks : Hooks) (units : List TypeUnit) : List FileUnit :=
  let placed := units.map fun unit => (Namespace.ofPath moduleRoot unit.path, unit)
  let namespaces := Namespace.tree (placed.map (·.1))
  namespaces.map fun segments =>
    hooks.applyFile {
      path := Namespace.filePath segments
      «namespace» := segments
      submodules := Namespace.children (namespaces.filter (!·.isEmpty)) segments
      types := (placed.filter (·.1 == segments)).map (·.2) }

/-- The types of a file, each with its category and the path of the file. -/
def summaries (file : FileUnit) : List TypeSummary :=
  file.types.map fun unit => ⟨unit.path, unit.category, file.path⟩

/-- Realizes all definitions and the root. -/
def realizeAll (generation : Generation) (lookup : Lookup) (definitions : List Definition) :
    Except GenerationError Progress := do
  let options := generation.options
  let generator : Generator :=
    ⟨⟨options, lookup⟩, generation.document, generation.hooks⟩
  let realize := generator.realize (options.maxDepth + 1)
  let requests := definitions.filterMap (definitionRequest? lookup options)
  let progress ← requests.foldlM (fun progress request => realize request progress) .empty
  if isRealizableRoot generation.document definitions then
    realize (rootRequest generation.document generation.rootName options) progress
  else return progress

/-- Runs the generation. -/
def run (generation : Generation) : Except GenerationError GenerationOutput := do
  let document := generation.document
  let options := generation.options
  let definitions := Definition.collect document
  let cycles := referenceCycles document definitions
  let lookup :=
    lookup document generation.rootName options generation.external definitions cycles
  let progress ← generation.realizeAll lookup definitions
  let units := progress.units.map (·.2)
  let files := files options.moduleRoot generation.hooks units
  let written ← files.mapM (writeFile generation.sourcePath)
  return {
    files := written
    types := files.flatMap summaries
    stats := {
      categories := units.map (·.category)
      definitions := definitions.length
      files := files.length
      cycles
      warnings := progress.warnings } }

end Generation

end SchemaTypes
