/-! References to schema types, and their layers: the markers around the name, outermost first,
and then the name. -/
namespace Typewright

inductive TypeRef where
  | named (name : String)
  | list (element : TypeRef)
  | nonNull (inner : TypeRef)
deriving DecidableEq, Inhabited

inductive Layer where
  | list
  | nonNull
  | named (name : String)
deriving DecidableEq

def Layer.isModifier : Layer → Bool
  | .named _ => false
  | _ => true

namespace TypeRef

def display : TypeRef → String
  | named name => name
  | list element => s!"[{element.display}]"
  | nonNull inner => inner.display ++ "!"

def unwrapOne : TypeRef → TypeRef
  | named name => named name
  | list inner => inner
  | nonNull inner => inner

def baseName : TypeRef → String
  | named name => name
  | list inner => inner.baseName
  | nonNull inner => inner.baseName

def unwrapFull (ty : TypeRef) : TypeRef := .named ty.baseName

/-- Non-null markers that stand directly on one another count once. -/
def layers : TypeRef → List Layer
  | named name => [.named name]
  | list element => .list :: element.layers
  | nonNull inner =>
    match inner.layers with
    | .nonNull :: rest => .nonNull :: rest
    | layers => .nonNull :: layers

def isNonNull : TypeRef → Bool
  | nonNull _ => true
  | _ => false

def isList : TypeRef → Bool
  | named _ => false
  | list _ => true
  | nonNull inner => inner.isList

end TypeRef

/-- The type reference with these layers, if the last of them and no other is a name. -/
def rewrap : List Layer → Option TypeRef
  | [] => none
  | [.named name] => some (.named name)
  | .named _ :: _ :: _ => none
  | .list :: inner => (rewrap inner).map .list
  | .nonNull :: inner => (rewrap inner).map .nonNull

end Typewright
