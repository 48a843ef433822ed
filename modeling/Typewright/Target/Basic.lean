import Typewright.Name.Qualified

/-! Types of the target language: a base inside lists and boxes, each with its own nullability. -/
namespace Typewright

inductive WrapperKind where
  | list
  /-- One-field box that tells an explicit null from an absent key. -/
  | box
deriving DecidableEq

structure Wrapper where
  kind : WrapperKind
  nullable : Bool
deriving DecidableEq

/-- A base with its nullability and its wrappers, outermost first. -/
structure Wrapped (β : Type) where
  base : β
  nullable : Bool
  wrapping : List Wrapper
deriving DecidableEq, Inhabited

inductive Base where
  /-- What a scalar maps to. -/
  | builtin (text : String)
  | generated (name : QualifiedName)
  /-- A type that a representation or the settings supply. -/
  | external (text : String)
  /-- No mapping: any value. -/
  | unknown
  /-- Generic parameter of the artifact around it. -/
  | param (name : String)
  /-- Generic artifact with its arguments. -/
  | applied (name : QualifiedName) (arguments : List (Wrapped Base))
deriving Inhabited

abbrev TargetType := Wrapped Base

namespace Base

mutual
def same : Base → Base → Bool
  | builtin a, builtin b => a == b
  | generated a, generated b => a == b
  | external a, external b => a == b
  | unknown, unknown => true
  | param a, param b => a == b
  | applied a xs, applied b ys => a == b && sameAll xs ys
  | _, _ => false

def sameAll : List (Wrapped Base) → List (Wrapped Base) → Bool
  | [], [] => true
  | x :: xs, y :: ys => sameWrapped x y && sameAll xs ys
  | _, _ => false

def sameWrapped : Wrapped Base → Wrapped Base → Bool
  | ⟨a, n, ws⟩, ⟨b, m, vs⟩ => same a b && n == m && ws == vs
end

mutual
theorem same_iff : (a b : Base) → (same a b = true ↔ a = b)
  | builtin a, b => by cases b <;> simp [same]
  | generated a, b => by cases b <;> simp [same]
  | external a, b => by cases b <;> simp [same]
  | unknown, b => by cases b <;> simp [same]
  | param a, b => by cases b <;> simp [same]
  | applied a xs, b => by cases b <;> simp [same, sameAll_iff]

theorem sameAll_iff : (xs ys : List (Wrapped Base)) → (sameAll xs ys = true ↔ xs = ys)
  | [], ys => by cases ys <;> simp [sameAll]
  | x :: xs, ys => by cases ys <;> simp [sameAll, sameWrapped_iff x, sameAll_iff xs]

theorem sameWrapped_iff : (x y : Wrapped Base) → (sameWrapped x y = true ↔ x = y)
  | ⟨a, n, ws⟩, ⟨b, m, vs⟩ => by simp [sameWrapped, same_iff a, and_assoc]
end

instance : DecidableEq Base := fun a b => decidable_of_iff _ (same_iff a b)

end Base

namespace Wrapped

def required (base : β) : Wrapped β := ⟨base, false, []⟩

def optional (base : β) : Wrapped β := ⟨base, true, []⟩

def listOf (type : Wrapped β) (nullable : Bool) : Wrapped β :=
  { type with wrapping := ⟨.list, nullable⟩ :: type.wrapping }

def isNullable (type : Wrapped β) : Bool :=
  match type.wrapping with
  | [] => type.nullable
  | outer :: _ => outer.nullable

def isBoxed (type : Wrapped β) : Bool :=
  match type.wrapping with
  | ⟨.box, _⟩ :: _ => true
  | _ => false

def unboxed (type : Wrapped β) : Wrapped β :=
  match type.wrapping with
  | ⟨.box, _⟩ :: inner => { type with wrapping := inner }
  | _ => type

def element? (type : Wrapped β) : Option (Wrapped β) :=
  match type.wrapping with
  | ⟨.list, _⟩ :: inner => some { type with wrapping := inner }
  | _ => none

end Wrapped

def WrapperKind.display (inner : String) : WrapperKind → String
  | list => s!"Vec<{inner}>"
  | box => s!"Present<{inner}>"

def optionOf (nullable : Bool) (text : String) : String :=
  if nullable then s!"Option<{text}>" else text

def Wrapper.display (wrapper : Wrapper) (inner : String) : String :=
  optionOf wrapper.nullable (wrapper.kind.display inner)

namespace Base

mutual
def display : Base → String
  | builtin text => text
  | external text => text
  | generated name => name.display
  | unknown => "Unknown"
  | param name => name
  | applied name arguments =>
    name.display ++ "<" ++ String.intercalate ", " (displayAll arguments) ++ ">"

def displayAll : List (Wrapped Base) → List String
  | [] => []
  | argument :: rest => displayWrapped argument :: displayAll rest

def displayWrapped : Wrapped Base → String
  | ⟨base, nullable, wrapping⟩ => wrapping.foldr Wrapper.display (optionOf nullable base.display)
end

end Base

def Wrapped.display (type : TargetType) : String := Base.displayWrapped type

end Typewright
