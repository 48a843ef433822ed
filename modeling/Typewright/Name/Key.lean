import Typewright.Schema.Definition

/-! What a name is made for: the role of the item and the schema node it belongs to. -/
namespace Typewright

inductive Role where
  /-- The type generated for a schema type. -/
  | typeName (kind : Kind)
  /-- Contract that serves one field. -/
  | fieldResolver
  /-- Record of a field's arguments. -/
  | fieldArguments
  | argumentParser
  | inputParser
  /-- Box that tells an explicit null from an absent key. -/
  | valueBox
  /-- What every resolver receives: source, arguments and context. -/
  | environment
  | page
  | edge
  | connection
  | pageInfo
  | connectionBuilder
deriving DecidableEq

namespace Role

def label : Role → String
  | typeName .scalar => "TypeName(Scalar)"
  | typeName .enum => "TypeName(Enum)"
  | typeName .input => "TypeName(InputRecord)"
  | typeName .output => "TypeName(OutputRecord)"
  | typeName .interface => "TypeName(Interface)"
  | typeName .union => "TypeName(Union)"
  | fieldResolver => "FieldResolver"
  | fieldArguments => "FieldArguments"
  | argumentParser => "ArgumentParser"
  | inputParser => "InputParser"
  | valueBox => "ValueBox"
  | environment => "EnvironmentWrapper"
  | page => "PaginationResult"
  | edge => "PaginationEdge"
  | connection => "PaginationConnection"
  | pageInfo => "PageInfo"
  | connectionBuilder => "ConnectionBuilder"

def segment : Role → String
  | typeName .scalar => "scalars"
  | typeName .enum => "enums"
  | typeName .input | inputParser => "inputs"
  | typeName .output => "objects"
  | typeName .interface => "interfaces"
  | typeName .union => "unions"
  | fieldResolver | fieldArguments | argumentParser => "resolvers"
  | valueBox | environment => "runtime"
  | page | edge | connection | pageInfo | connectionBuilder => "pagination"

/-- Items shared by a whole run keep their names whatever the configured prefix. -/
def isShared : Role → Bool
  | valueBox | environment | pageInfo => true
  | _ => false

/-- Functions are spelt in snake case, all else in camel case. -/
def isFunction : Role → Bool
  | argumentParser | inputParser | connectionBuilder => true
  | _ => false

end Role

structure Key where
  container : Option String
  field : Option String
  role : Role
deriving DecidableEq

namespace Key

def ofType (role : Role) (name : String) : Key := ⟨some name, none, role⟩

def typeName (kind : Kind) (name : String) : Key := ofType (.typeName kind) name

def ofField (role : Role) (container field : String) : Key := ⟨some container, some field, role⟩

def shared (role : Role) : Key := ⟨none, none, role⟩

@[simp] theorem role_ofType (role : Role) (name : String) : (ofType role name).role = role := rfl

@[simp] theorem role_typeName (kind : Kind) (name : String) :
    (typeName kind name).role = .typeName kind := rfl

@[simp] theorem role_ofField (role : Role) (container field : String) :
    (ofField role container field).role = role := rfl

@[simp] theorem role_shared (role : Role) : (shared role).role = role := rfl

def display (key : Key) : String :=
  key.role.label ++
    match key.container, key.field with
    | some container, some field => s!"({container}.{field})"
    | some container, none => s!"({container})"
    | none, some field => s!"(.{field})"
    | none, none => ""

end Key

end Typewright
