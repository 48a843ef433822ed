import Typewright.Schema.Value
import Typewright.Text.Numeral

/-! The raw shapes that a scalar accepts. -/
namespace Typewright

inductive Shape where
  | string
  /-- Strings and integers. -/
  | id
  | boolean
  /-- Integers between two bounds, both included. -/
  | integer (min max : Int)
  /-- Floats and integers. -/
  | float
  /-- Numbers of any precision: integers, floats and numerals in strings. -/
  | numeric
  /-- Whatever is not null; the consumer checks it. -/
  | any
deriving DecidableEq

namespace Shape

/-- How many integers there are of so many bits. -/
def span (bits : Nat) : Int := Nat.pow 2 bits

def signed (bits : Nat) : Shape := .integer (-span (bits - 1)) (span (bits - 1) - 1)

def unsigned (bits : Nat) : Shape := .integer 0 (span bits - 1)

/-- Raw integers end at the greatest signed one of 64 bits. -/
def longNatural : Shape := .integer 0 (span 63 - 1)

def ofScalar : String → Shape
  | "String" => .string
  | "ID" => .id
  | "Boolean" => .boolean
  | "Int" => signed 32
  | "Long" => signed 64
  | "Short" => signed 16
  | "Byte" => unsigned 8
  | "Float" => .float
  | "Decimal" | "BigInt" => .numeric
  | _ => .any

def ofTarget (type : String) : Shape :=
  match Text.trim type with
  | "String" | "std::string::String" | "::std::string::String" => .string
  | "bool" => .boolean
  | "i8" => signed 8
  | "i16" => signed 16
  | "i32" => signed 32
  | "i64" | "isize" => signed 64
  | "u8" => unsigned 8
  | "u16" => unsigned 16
  | "u32" => unsigned 32
  | "u64" | "usize" => longNatural
  | "f32" | "f64" => .float
  | "rust_decimal::Decimal" | "num_bigint::BigInt" => .numeric
  | _ => .any

def accepts : Shape → Value → Bool
  | any, _ => true
  | string, .string _ => true
  | id, .string _ | id, .int _ => true
  | boolean, .bool _ => true
  | integer min max, .int i => decide (min ≤ i ∧ i ≤ max)
  | float, .float _ | float, .int _ => true
  | numeric, .float _ | numeric, .int _ => true
  | numeric, .string text => Text.isNumeral (Text.trim text)
  | _, _ => false

def describe : Shape → String
  | string => "string"
  | id => "string or int"
  | boolean => "boolean"
  | integer min max => s!"int in {min}..={max}"
  | float => "float"
  | numeric => "number or numeric string"
  | any => "any value"

end Shape

end Typewright
