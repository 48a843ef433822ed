import Typewright.Name.Qualified
import Typewright.Schema.Value

/-! What coercion yields. -/
namespace Typewright

inductive Coerced where
  /-- The key of a boxed field was not there. -/
  | absent
  | null
  | scalar (value : Value)
  | enum (enumName variant : String)
  | list (items : List Coerced)
  /-- Fields in the order of their declaration. -/
  | record (name : QualifiedName) (fields : List (String × Coerced))
  /-- The box of a field whose key was there. -/
  | present (inner : Coerced)
deriving Inhabited

def Coerced.field? : Coerced → String → Option Coerced
  | record _ fields, name => Dict.get? fields name
  | _, _ => none

end Typewright
