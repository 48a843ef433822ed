import Typewright.Coercion.Chain
import Typewright.Source.Ident
import Typewright.Source.Token

/-! The shape of generated source: items whose identifiers, paths and types are settled, so that
printing cannot fail. -/
namespace Typewright.Source

inductive TypeTree where
  /-- External text in its canonical tokens. -/
  | verbatim (tokens : List Token)
  /-- The type of untyped values. -/
  | anyValue
  | param (name : Ident)
  | item (path : ItemPath) (arguments : List TypeTree)
  | option (inner : TypeTree)
  | list (inner : TypeTree)

/-- One closure of a chain. Those that wrap another call the closure of number `inner`. -/
inductive StepTree where
  | nonNull (inner : Nat)
  | mapList (inner : Nat) (nullable : Bool)
  | cast (target : TypeTree) (shape : Shape) (nullable : Bool)
  | parseEnum (target : TypeTree) (nullable : Bool)
  | buildInput (builder : ItemPath) (nullable : Bool)

/-- The closures of a chain, of which the last is applied. A box goes around its result. -/
structure ChainTree where
  steps : List StepTree
  last : Nat
  box : Option ItemPath

structure FieldTree where
  name : Ident
  key : String
  chain : ChainTree

structure MethodTree where
  name : Ident
  params : List (Ident × TypeTree)
  returns : TypeTree

inductive Item where
  /-- Variants with the values they stand for. -/
  | enum (name : Ident) (schemaName : String) (variants : List (Ident × String))
      (error : ItemPath)
  | record (name : Ident) (generics : List Ident) (fields : List (Ident × TypeTree))
  | contract (name : Ident) (methods : List MethodTree)
  | parser (name input : Ident) (record error malformed : ItemPath) (fields : List FieldTree)
  | builder (name page : Ident) (pageType node : TypeTree) (edge connection pageInfo : ItemPath)

structure Documented where
  origin : String
  item : Item

end Typewright.Source
