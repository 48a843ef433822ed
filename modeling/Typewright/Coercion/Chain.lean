import Typewright.Coercion.Shape
import Typewright.Target.Basic

/-! Coercion chains: one conversion step for each layer of a type, innermost first. A step leaves
whatever it contains to the step before it. -/
namespace Typewright

inductive Step where
  /-- Takes a value of the shape as it is. -/
  | cast (target : Base) (shape : Shape) (nullable : Bool)
  /-- Takes a text that is one of the values. -/
  | parseEnum (enumName : String) (target : Base) (values : List String) (nullable : Bool)
  /-- Hands the value to the parse function of an input record. -/
  | buildInput (input : String) (builder : QualifiedName) (nullable : Bool)
  /-- Refuses null. -/
  | nonNull
  /-- Takes a list, element by element. -/
  | mapList (nullable elementsNullable : Bool)
deriving DecidableEq

def Step.isTerminal : Step → Bool
  | .cast .. | .parseEnum .. | .buildInput .. => true
  | .nonNull | .mapList .. => false

inductive Presence where
  /-- An absent key counts as null. -/
  | plain
  /-- An absent key gives no box, any other a box around what it holds. -/
  | boxed
deriving DecidableEq

structure Chain where
  steps : List Step
  presence : Presence
  /-- The type of what the chain yields. -/
  target : TargetType
deriving DecidableEq

/-- How the value under one key of a raw object becomes one field of a record. -/
structure FieldCoercion where
  key : String
  chain : Chain
deriving DecidableEq

end Typewright
