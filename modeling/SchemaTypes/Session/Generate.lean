import SchemaTypes.CommandLine.Invocation
import SchemaTypes.Generation.Run
import SchemaTypes.Session.Spelling
import SchemaTypes.Session.TypeName
import SchemaTypes.Terminal.Table

/-!
# Generating types

The plan of a run that generates the types of a schema and writes them to files, with the lines
that tell about it.

## Main definitions

* `GenerateSettings.ofArguments`: checks what the command line says.
* `GenerateSettings.plan`: the plan, given what can be read at the place of the schema.
-/

namespace SchemaTypes

/-- What a run that generates types starts from. -/
structure GenerateSettings where
  arguments : GenerateArguments
  rootName : String
  options : Options
  /-- Existing types by the reference they replace. -/
  references : List (String × TypePath)
deriving Inhabited

namespace GenerateSettings

/-- An existing type: a reference and a path around the first equals sign. -/
def readReference (entry : String) : Except SessionFault (String × TypePath) :=
  match Text.splitOnce? '=' entry with
  | none => .error (.malformedReference entry)
  | some (pointer, path) =>
    match TypePath.parse? path with
    | some found => .ok (Text.trim pointer, found)
    | none => .error (.notATypePath entry path)

/-- The settings that arguments stand for.  The root type has a name, and the module root has
segments. -/
def ofArguments (arguments : GenerateArguments) : Except SessionFault GenerateSettings := do
  let rootName ← rootTypeName arguments.input arguments.className
  let moduleRoot := TypePath.moduleSegments arguments.moduleRoot
  if moduleRoot.isEmpty then throw .noModuleRoot
  let references ← arguments.references.mapM readReference
  return {
    arguments
    rootName
    options := {
      treatDefaultedAsOptional := arguments.treatDefaultedAsOptional
      enumsSupported := !arguments.noEnums
      maxDepth := arguments.maxDepth
      moduleRoot }
    references }

/-- The run for a document. -/
def generation (settings : GenerateSettings) (document : Json) : Generation where
  document
  rootName := Name.typeName settings.rootName
  options := settings.options
  external := settings.references
  hooks := if settings.arguments.serde then .serde else .none
  sourcePath := settings.arguments.input

/-! ## Lines about the run -/

variable (settings : GenerateSettings) (paint : Paint)

/-- A line that a quiet run leaves out. -/
def unlessQuiet (actions : List Action) : List Action :=
  if settings.arguments.verbosity == .quiet then [] else actions

/-- A step of the run. -/
def step (text : String) : List Action :=
  settings.unlessQuiet [.printTimed paint (paint.apply .primary text)]

/-- What only a verbose run tells. -/
def detail (text : String) : List Action :=
  if settings.arguments.verbosity == .verbose then
    [.printTimed paint (paint.apply .info text)]
  else []

/-- A line of the statistics, with a label in front of a value. -/
def statistic (label value : String) : Action :=
  .print (Table.repeated ' ' 12 ++ paint.apply .label label ++ " " ++ paint.apply .value value)

/-- What is shown before a run. -/
def startLines : List Action :=
  let moduleRoot := "::".intercalate settings.options.moduleRoot
  settings.step paint s!"Generating Rust types for {settings.rootName}..." ++
  settings.detail paint s!"Module root: {moduleRoot}" ++
  settings.references.flatMap fun (pointer, path) =>
    settings.detail paint s!"Reference {pointer} -> {path.text}"

/-- The number of cycles, and each of them when details are asked for. -/
def cycleLines (cycles : List (List String)) : List Action :=
  if cycles.isEmpty then []
  else
    let details := cycles.zipIdx.map fun entry =>
      Action.print
        (Table.repeated ' ' 14 ++ paint.apply .accent s!"Cycle {entry.2 + 1}" ++ ": " ++
          paint.apply .info (" -> ".intercalate entry.1))
    statistic paint "Cycles:" (toString cycles.length) ::
      if settings.arguments.verbosity == .verbose then details else []

/-- The warnings, when details are asked for. -/
def warningLines (warnings : List GenerationWarning) : List Action :=
  if warnings.isEmpty || settings.arguments.verbosity != .verbose then []
  else
    .print "" :: warnings.map fun warning =>
      .warn (paint.apply .accent "Warning:" ++ " " ++ paint.apply .primary warning.message)

/-- What is shown behind a run, unless it is to be quiet. -/
def statisticLines (stats : GenerationStats) : List Action :=
  let count := fun (category : TypeUnit.Category) (noun : String) =>
    statistic paint "" s!"{stats.count category} {noun}"
  settings.unlessQuiet <|
    [statistic paint "Types generated:" (toString stats.types),
      count .struct "structs", count .enumeration "enums", count .union "unions"] ++
    (if stats.count .entry > 0 then [count .entry "map entries"] else []) ++
    [statistic paint "Definitions collected:" (toString stats.definitions),
      statistic paint "Files:" (toString stats.files)] ++
    (if stats.warnings.isEmpty then []
      else [statistic paint "Warnings:" (toString stats.warnings.length)]) ++
    settings.cycleLines paint stats.cycles ++
    settings.warningLines paint stats.warnings

/-- Writes the files, or shows them.  A quiet run shows them too. -/
def fileActions (files : List GeneratedFile) : List Action :=
  let arguments := settings.arguments
  let announced :=
    if arguments.dryRun then "Dry run, nothing is written" else s!"Writing to: {arguments.output}"
  settings.step paint announced ++
  (files.flatMap fun file => settings.detail paint s!"Emitting {file.path}") ++
  files.flatMap fun file =>
    let target := FilePath.join arguments.output file.path
    if arguments.dryRun then
      [.print "", .print (paint.apply .accent "==>" ++ " " ++ paint.apply .label target),
        .print file.contents]
    else [.write target file.contents]

/-- The last lines of a run that has written its files. -/
def successLines : List Action :=
  settings.unlessQuiet
    [.print "", .printTimed paint (paint.apply .success "Successfully generated Rust types")]

/-! ## The plan -/

/-- The plan for a schema document. -/
def planFor (document : Json) : Plan :=
  match (settings.generation document).run with
  | .error error =>
    { actions :=
        settings.startLines paint ++
          match error.pointer? with
          | some pointer => settings.detail paint s!"Failing schema node: {pointer}"
          | none => []
      fault := some (.generation settings.arguments.input error) }
  | .ok output =>
    { actions :=
        settings.startLines paint ++ settings.statisticLines paint output.stats ++
          settings.fileActions paint output.files ++ settings.successLines paint }

/-- The plan of a run. -/
def plan (document : Except DocumentFault Json) : Plan :=
  let input := settings.arguments.input
  let loading := settings.step paint s!"Loading schema from: {input}"
  match document with
  | .error fault => { actions := loading, fault := some (.document input fault) }
  | .ok document => (settings.planFor paint document).after loading

end GenerateSettings

end SchemaTypes
