import Typewright.Coercion.Registry

/-! Artifacts: generated units as data, with every type, member and function body decided. -/
namespace Typewright

inductive ArtifactKind where
  | enum
  | record
  | interface
  | function
deriving DecidableEq

structure Param where
  name : String
  type : TargetType
deriving DecidableEq

inductive Body where
  /-- Builds a record from a raw object. -/
  | buildRecord (record : QualifiedName) (fields : List FieldCoercion)
  /-- Turns a page into a connection. A function that gives each node its cursor comes as one more
  parameter. -/
  | buildConnection (node : TargetType) (edge connection pageInfo : QualifiedName)
deriving DecidableEq

structure Function where
  params : List Param
  returns : TargetType
  body : Body
deriving DecidableEq

/-- Names of members are spelt as in the schema. -/
inductive Member where
  | variant (name : String)
  | field (name : String) (type : TargetType)
  | typeParam (name : String)
  | method (name : String) (params : List Param) (returns : TargetType)
  | function (definition : Function)
deriving DecidableEq

structure Artifact where
  name : QualifiedName
  kind : ArtifactKind
  /-- Schema node it stands for; empty for the items of a whole run. -/
  origin : String
  members : List Member
deriving DecidableEq

namespace Artifact

def variants (artifact : Artifact) : List String :=
  artifact.members.filterMap fun
    | .variant name => some name
    | _ => none

def fields (artifact : Artifact) : List (String × TargetType) :=
  artifact.members.filterMap fun
    | .field name type => some (name, type)
    | _ => none

def typeParams (artifact : Artifact) : List String :=
  artifact.members.filterMap fun
    | .typeParam name => some name
    | _ => none

def methods (artifact : Artifact) : List (String × List Param × TargetType) :=
  artifact.members.filterMap fun
    | .method name params returns => some (name, params, returns)
    | _ => none

def function? (artifact : Artifact) : Option Function :=
  artifact.members.findSome? fun
    | .function definition => some definition
    | _ => none

def recipe? (artifact : Artifact) : Option (QualifiedName × Recipe) :=
  match artifact.function? with
  | some ⟨_, _, .buildRecord record fields⟩ => some (artifact.name, ⟨record, fields⟩)
  | _ => none

end Artifact

def Registry.ofArtifacts (artifacts : List Artifact) : Registry :=
  .ofList (artifacts.filterMap Artifact.recipe?)

end Typewright
