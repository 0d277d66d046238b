import SchemaTypes.Session.Generate
import SchemaTypes.Session.ListTypes

/-!
# Sessions

What a run of the program does, from the words of its command line and the schema it is to read.
-/

namespace SchemaTypes

namespace Invocation

/-- How the output of an invocation is colored. -/
def paint (invocation : Invocation) (surroundings : Surroundings) : Paint :=
  .choose invocation.color invocation.theme surroundings

/-- Reads the schema of the invocation from the bytes at its place. -/
def document (invocation : Invocation) (source : Except FileFault (List UInt8)) :
    Except DocumentFault Json :=
  match source with
  | .error fault => .error (.unreadable fault.message)
  | .ok bytes => readDocument (.ofPath invocation.job.input) bytes

/-- The plan of a run.  What the command line says is checked before the schema is read. -/
def plan (invocation : Invocation) (surroundings : Surroundings)
    (source : Except FileFault (List UInt8)) : Plan :=
  let document := invocation.document source
  match invocation.job with
  | .listTypes arguments => arguments.plan document
  | .generate arguments =>
    match GenerateSettings.ofArguments arguments with
    | .error fault => .failed fault
    | .ok settings => settings.plan (invocation.paint surroundings) document

end Invocation

end SchemaTypes
