import SchemaTypes.Generation.Error
import SchemaTypes.Schema.Document
import SchemaTypes.Session.FileTree
import SchemaTypes.Terminal.Color

/-!
# Plans

A plan lists what a run of the program does, up to the point where it fails or is done.  It can be
carried out, or rehearsed on a tree of files.

## Main definitions

* `Plan`: actions in order and the failure at their end.
* `Plan.rehearse`: what a plan writes, and the files it leaves.  It stops at the first file that
  cannot be written.
-/

namespace SchemaTypes

/-- Why a run of the program fails. -/
inductive SessionFault
  | noTypeName (input : String)
  | noModuleRoot
  | malformedReference (entry : String)
  | notATypePath (entry path : String)
  | document (path : String) (fault : DocumentFault)
  /-- The types of the schema cannot be listed. -/
  | listing (error : GenerationError)
  | generation (input : String) (error : GenerationError)
  | file (fault : FileFault)
deriving DecidableEq, Repr, Inhabited

/-- What failed, and then why. -/
def SessionFault.messages : SessionFault → List String
  | .noTypeName input => [s!"Cannot derive a type name from '{input}'; pass --class"]
  | .noModuleRoot => ["Module root must name at least one module (e.g., crate::models)"]
  | .malformedReference entry =>
    [s!"Invalid reference format '{entry}': expected POINTER=PATH " ++
      "(e.g., #/definitions/Money=crate::shared::Money)"]
  | .notATypePath entry path =>
    [s!"Invalid reference format '{entry}': '{path}' is not a Rust type path"]
  | .document path fault => [fault.message path]
  | .listing error => [error.message]
  | .generation input error => [s!"Failed to generate types from {input}", error.message]
  | .file fault => [fault.message]

/-- One thing that a run does. -/
inductive Action
  /-- Writes a line. -/
  | print (line : String)
  /-- Writes a line behind the time of day, which is in the colour of time stamps. -/
  | printTimed (paint : Paint) (line : String)
  /-- Writes a line apart from the others, for warnings. -/
  | warn (line : String)
  | write (path contents : String)
deriving DecidableEq, Repr, Inhabited

/-- What a job does, and how it ends.  The actions before a fault are carried out. -/
structure Plan where
  actions : List Action := []
  fault : Option SessionFault := none
deriving Repr, Inhabited

namespace Plan

/-- A run that only fails. -/
def failed (fault : SessionFault) : Plan := { fault := some fault }

/-- Does something before a plan. -/
def after (actions : List Action) (plan : Plan) : Plan :=
  { plan with actions := actions ++ plan.actions }

end Plan

/-- What a run has written so far. -/
structure Transcript where
  output : List String := []
  warnings : List String := []
  tree : FileTree := {}
  fault : Option SessionFault := none
deriving Repr, Inhabited

namespace Transcript

/-- Lines as text, each with its end. -/
def text (lines : List String) : String := String.join (lines.map (· ++ "\n"))

end Transcript

/-- A line behind the time of day. -/
def timed (paint : Paint) (time line : String) : String :=
  paint.apply .timestamp time ++ " " ++ line

namespace Plan

/-- Carries out actions on a tree of files, with the same time of day for all. -/
def perform (time : String) : List Action → Transcript → Transcript
  | [], done => done
  | action :: rest, done =>
    match action with
    | .print line => perform time rest { done with output := done.output ++ [line] }
    | .printTimed paint line =>
      perform time rest { done with output := done.output ++ [timed paint time line] }
    | .warn line => perform time rest { done with warnings := done.warnings ++ [line] }
    | .write path contents =>
      match done.tree.write path contents with
      | .ok tree => perform time rest { done with tree }
      | .error fault => { done with fault := some (.file fault) }

/-- Carries out a plan on a tree of files. -/
def rehearse (plan : Plan) (time : String) (tree : FileTree) : Transcript :=
  let done := perform time plan.actions { tree }
  { done with fault := done.fault <|> plan.fault }

end Plan

end SchemaTypes
