import Typewright.Draft
import Typewright.Policy
import Typewright.Target.Basic

/-! From schema types to target types. -/
namespace Typewright

/-- A schema together with the settings under which it is worked. -/
structure Job where
  schema : Schema
  settings : Settings

def builtinScalar? : String → Option String
  | "String" => some "String"
  | "Boolean" => some "bool"
  | "Int" => some "i32"
  | "Float" => some "f64"
  | "ID" => some "String"
  | "Long" => some "i64"
  | "Short" => some "i16"
  | "Byte" => some "u8"
  | "Decimal" => some "rust_decimal::Decimal"
  | "BigInt" => some "num_bigint::BigInt"
  | _ => none

/-- The base that all members share, if there is one. Members after the first that differs are
not looked at. -/
def sharedBase (resolve : String → Draft Base) : Option Base → List String → Draft (Option Base)
  | shared, [] => pure shared
  | shared, member :: rest => do
    let base ← resolve member
    match shared with
    | none => sharedBase resolve (some base) rest
    | some common => if common = base then sharedBase resolve shared rest else pure none

/-- The wrappers of the modifiers and the nullability of what they hold. A non-null marker is
pending until the next list, or the base, takes it. -/
def nesting : (pendingNonNull : Bool) → List Layer → List Wrapper × Bool
  | pending, [] => ([], !pending)
  | _, .nonNull :: inner => nesting true inner
  | pending, .list :: inner =>
    let (wrapping, nullable) := nesting false inner
    (⟨.list, !pending⟩ :: wrapping, nullable)
  | pending, .named _ :: inner => nesting pending inner

def splitLayers (layers : List Layer) : Option (List Layer × String) :=
  match layers.getLast? with
  | some (.named name) => some (layers.dropLast, name)
  | _ => none

namespace Job

def name (job : Job) (key : Key) : Draft QualifiedName := Draft.name job.settings key

def isRemapped (job : Job) (scalar : String) : Bool :=
  (job.settings.scalars.get? scalar).isSome

def generated (job : Job) (kind : Kind) (name : String) : Draft Base := do
  return .generated (← job.name (.typeName kind name))

/-- A union whose members share a base is that base. As a union opens, one of the `nested` ones
that may still open is used up; a schema has fewer than that of them inside one another unless
one contains itself. -/
def baseOfDefinition (job : Job) (nested : Nat) (definition : Definition) : Draft Base := do
  match ← Policy.representationOf definition.name definition.directives with
  | some external => return .external external
  | none =>
    match definition, nested with
    | .scalar .., _ | .interface _, _ => return .unknown
    | .enum name .., _ => job.generated .enum name
    | .input record, _ => job.generated .input record.name
    | .output record, _ =>
      if ← Policy.shouldGenerate record.name record.directives job.settings.generateAll then
        job.generated .output record.name
      else return .unknown
    | .union .., 0 => return .unknown
    | .union name members _, nested + 1 =>
      let member name' := do job.baseOfDefinition nested (← job.schema.lookup name name')
      return (← sharedBase member none members).getD .unknown

def resolveDefinition (job : Job) (definition : Definition) : Draft Base :=
  job.baseOfDefinition (job.schema.size + 1) definition

/-- Configured scalars go before built-in ones, and these before the schema. -/
def resolveBase (job : Job) (node name : String) : Draft Base :=
  match job.settings.scalars.get? name with
  | some target => pure (.builtin target)
  | none =>
    match builtinScalar? name with
    | some target => pure (.builtin target)
    | none => do job.resolveDefinition (← job.schema.lookup node name)

/-- A representation on the field or argument stands in for the named type. -/
def baseUnder (job : Job) (node name : String) (policy : Option Policy) : Draft Base :=
  match policy.bind (·.representation) with
  | some external => pure (.external external)
  | none => job.resolveBase node name

/-- A double null policy puts one nullable box around a type that takes null. -/
def boxFor (policy : Option Policy) (type : TargetType) : TargetType :=
  if policy.any (·.doubleNull) && type.isNullable then
    { type with wrapping := ⟨.box, true⟩ :: type.wrapping }
  else type

def resolve (job : Job) (node : String) (type : TypeRef) (policy : Option Policy) :
    Draft TargetType := do
  match splitLayers type.layers with
  | none => Draft.fail (.unknownType node type.display)
  | some (modifiers, name) =>
    let base ← job.baseUnder node name policy
    let (wrapping, nullable) := nesting false modifiers
    return boxFor policy ⟨base, nullable, wrapping⟩

end Job

end Typewright
