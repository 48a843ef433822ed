import Typewright.Coercion.Chain
import Typewright.Coercion.Coerced
import Typewright.Fault

/-! Running chains on raw values. Parse functions may call one another in cycles. A run ends all the
same: `opened` takes the input apart once, and a step hands on nothing but parts of what it got. -/
namespace Typewright

structure Recipe where
  record : QualifiedName
  fields : List FieldCoercion

/-- Parse functions by name; of two with one name the first in the list counts. -/
structure Registry where
  recipes : List (QualifiedName × Recipe)

def Registry.find? (registry : Registry) (builder : QualifiedName) : Option Recipe :=
  (registry.recipes.find? (·.1 = builder)).map Prod.snd

namespace CoercionFault

def malformed (path expected : String) (found : Value) : CoercionFault :=
  .malformedInput path expected found.kindName

def noParser (path : String) (builder : QualifiedName) : CoercionFault :=
  .malformedInput path s!"input accepted by `{builder.display}`" "no such parse function"

def unknownField (path key : String) (record : QualifiedName) : CoercionFault :=
  .malformedInput s!"{path}.{key}" s!"a field of `{record.display}`" "unknown field"

end CoercionFault

open CoercionFault

/-- Null is taken as null or refused; the shape decides on anything else. -/
def castValue (path : String) (shape : Shape) (nullable : Bool) (value : Value) :
    Except CoercionFault Coerced :=
  if value.isNull then
    if nullable then .ok .null else .error (malformed path "non-null value" value)
  else if shape.accepts value then .ok (.scalar value)
  else .error (malformed path shape.describe value)

def enumValue (path enumName : String) (values : List String) (nullable : Bool) (value : Value) :
    Except CoercionFault Coerced :=
  if value.isNull then
    if nullable then .ok .null else .error (malformed path "non-null value" value)
  else
    match value.text? with
    | some text =>
      if text ∈ values then .ok (.enum enumName text) else .error (.unknownEnumValue enumName text)
    | none => .error (malformed path "enum value" value)

def leastOf : List String → Option String
  | [] => none
  | text :: rest =>
    match leastOf rest with
    | none => some text
    | some other => some (if other < text then other else text)

def Recipe.unknownKey? (recipe : Recipe) (keys : List String) : Option String :=
  leastOf (keys.filter fun key => !recipe.fields.any (·.key == key))

/-- How one value is converted: at a path, by steps with the outermost first. -/
abbrev Conversion := String → List Step → Except CoercionFault Coerced

/-- A value taken apart: how its elements, or the values of its entries, are converted. -/
inductive Opened where
  | leaf
  | items (conversions : List Conversion)
  | entries (conversions : Dict Conversion)

def convertItems (path : String) (steps : List Step) :
    (index : Nat) → List Conversion → Except CoercionFault (List Coerced)
  | _, [] => .ok []
  | index, item :: rest => do
    let first ← item s!"{path}[{index}]" steps
    return first :: (← convertItems path steps (index + 1) rest)

/-- Hands the value under a key, or null, to a chain. A box tells the two apart. -/
def Chain.convert (chain : Chain) (null : Conversion) (path : String) :
    Option Conversion → Except CoercionFault Coerced
  | none =>
    match chain.presence with
    | .boxed => .ok .absent
    | .plain => null path chain.steps.reverse
  | some conversion =>
    match chain.presence with
    | .boxed => (conversion path chain.steps.reverse).map .present
    | .plain => conversion path chain.steps.reverse

def convertFields (null : Conversion) (path : String) (entries : Dict Conversion) :
    List FieldCoercion → Except CoercionFault (List (String × Coerced))
  | [] => .ok []
  | field :: rest => do
    let value ← field.chain.convert null s!"{path}.{field.key}" (entries.get? field.key)
    return (field.key, value) :: (← convertFields null path entries rest)

/-- Runs steps on a value, with `build` for its parse functions. With no step left the value is
taken as it is. -/
def runSteps (build : String → QualifiedName → Except CoercionFault Coerced) (value : Value)
    (opened : Opened) (path : String) : List Step → Except CoercionFault Coerced
  | [] => .ok (.scalar value)
  | .nonNull :: inner =>
    if value.isNull then .error (malformed path "non-null value" value)
    else runSteps build value opened path inner
  | .mapList nullable _ :: inner =>
    match opened with
    | .items conversions => (convertItems path inner 0 conversions).map .list
    | _ => if nullable && value.isNull then .ok .null else .error (malformed path "list" value)
  | .cast _ shape nullable :: _ => castValue path shape nullable value
  | .parseEnum enumName _ values nullable :: _ => enumValue path enumName values nullable value
  | .buildInput _ builder nullable :: _ =>
    if value.isNull then
      if nullable then .ok .null else .error (malformed path "non-null value" value)
    else build path builder

def convertNull : Conversion :=
  runSteps (fun path _ => .error (malformed path "object" .null)) .null .leaf

namespace Registry

/-- Runs a parse function on a value that is taken apart. An unknown key is refused before any
field is converted. -/
def buildOpened (registry : Registry) (value : Value) (opened : Opened) (path : String)
    (builder : QualifiedName) : Except CoercionFault Coerced :=
  match registry.find? builder, opened with
  | none, _ => .error (noParser path builder)
  | some recipe, .entries conversions =>
    match recipe.unknownKey? conversions.keys with
    | some key => .error (unknownField path key recipe.record)
    | none => (convertFields convertNull path conversions recipe.fields).map (.record recipe.record)
  | some _, _ => .error (malformed path "object" value)

def convertOpened (registry : Registry) (value : Value) (opened : Opened) : Conversion :=
  runSteps (registry.buildOpened value opened) value opened

mutual

def opened (registry : Registry) : Value → Opened
  | .list items => .items (registry.openedItems items)
  | .object entries => .entries (registry.openedEntries entries)
  | _ => .leaf

def openedItems (registry : Registry) : List Value → List Conversion
  | [] => []
  | item :: rest => registry.convertOpened item (registry.opened item) :: registry.openedItems rest

def openedEntries (registry : Registry) : List (String × Value) → List (String × Conversion)
  | [] => []
  | (key, value) :: rest =>
    (key, registry.convertOpened value (registry.opened value)) :: registry.openedEntries rest

end

def convert (registry : Registry) (value : Value) : Conversion :=
  registry.convertOpened value (registry.opened value)

def buildAt (registry : Registry) (value : Value) (path : String) (builder : QualifiedName) :
    Except CoercionFault Coerced :=
  registry.buildOpened value (registry.opened value) path builder

theorem openedItems_eq (registry : Registry) (items : List Value) :
    registry.openedItems items = items.map registry.convert := by
  induction items with
  | nil => rfl
  | cons item rest ih => rw [openedItems, ih]; rfl

theorem openedEntries_eq (registry : Registry) (entries : List (String × Value)) :
    registry.openedEntries entries =
      entries.map fun entry => (entry.1, registry.convert entry.2) := by
  induction entries with
  | nil => rfl
  | cons entry rest ih => rw [openedEntries, ih]; rfl

theorem convert_null (registry : Registry) : registry.convert .null = convertNull := by
  funext path steps
  show runSteps (registry.buildOpened .null .leaf) .null .leaf path steps = convertNull path steps
  induction steps with
  | nil => rfl
  | cons step inner ih => cases step <;> simp_all [runSteps, convertNull, Value.isNull]

/-- Later artifacts go before earlier ones of their name. -/
def ofList (recipes : List (QualifiedName × Recipe)) : Registry := ⟨recipes.reverse⟩

def build (registry : Registry) (builder : QualifiedName) (input : Value) :
    Except CoercionFault Coerced :=
  registry.buildAt input "$" builder

/-- Runs a chain on a raw value; without one its key was absent. -/
def evaluateAt (registry : Registry) (chain : Chain) (path : String) (input : Option Value) :
    Except CoercionFault Coerced :=
  chain.convert convertNull path (input.map registry.convert)

def evaluate (registry : Registry) (chain : Chain) (input : Option Value) :
    Except CoercionFault Coerced :=
  registry.evaluateAt chain "$" input

def evaluateField (registry : Registry) (path : String) (entries : Dict Value)
    (field : FieldCoercion) : Except CoercionFault (String × Coerced) := do
  let value ← registry.evaluateAt field.chain s!"{path}.{field.key}" (entries.get? field.key)
  return (field.key, value)

/-- Runs each chain on the entry under its key. Other entries are left alone. -/
def evaluateObject (registry : Registry) (fields : List FieldCoercion) (entries : Dict Value) :
    Except CoercionFault (List (String × Coerced)) :=
  fields.mapM (registry.evaluateField "$" entries)

end Registry

end Typewright
