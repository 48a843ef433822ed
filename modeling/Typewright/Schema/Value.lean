import Typewright.Dict

/-! Untyped values, as they come in directive arguments and in raw input. -/
namespace Typewright

/-- A float is kept as the bits of its double and never computed with. -/
inductive Value where
  | null
  | bool (flag : Bool)
  | int (number : Int)
  | float (bits : UInt64)
  | string (text : String)
  | enum (name : String)
  | list (items : List Value)
  | object (entries : List (String × Value))
deriving Inhabited

namespace Value

def isNull : Value → Bool
  | null => true
  | _ => false

def text? : Value → Option String
  | string text => some text
  | enum name => some name
  | _ => none

def kindName : Value → String
  | null => "null"
  | bool _ => "boolean"
  | int _ => "int"
  | float _ => "float"
  | string _ => "string"
  | enum _ => "enum"
  | list _ => "list"
  | object _ => "object"

def ofEntries (entries : List (String × Value)) : Value := .object (Dict.ofList entries)

end Value

end Typewright
