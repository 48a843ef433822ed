import Typewright.Text.Identifier

/-! Where a number ends that starts at a digit. -/
namespace Typewright.Source

def isHexDigit (c : Char) : Bool := c.isDigit || ('a' ≤ c && c ≤ 'f') || ('A' ≤ c && c ≤ 'F')

def hexValue (c : Char) : Nat :=
  if c.isDigit then c.toNat - '0'.toNat
  else if 'a' ≤ c then c.toNat - 'a'.toNat + 10
  else c.toNat - 'A'.toNat + 10

def suffixWidth : List Char → Nat
  | [] => 0
  | c :: rest =>
    if Text.isIdentifierStart c then (rest.takeWhile Text.isIdentifierContinue).length + 1 else 0

def withSuffix (width : Nat) (cs : List Char) : Option Nat :=
  let suffix := suffixWidth (cs.drop width)
  if suffix = 0 ∧ (cs.drop width).head?.any Text.isIdentifierContinue then none
  else some (width + suffix)

def isGroupedDigit (c : Char) : Bool := c.isDigit || c == '_'

/-- Digits of the base, with underscores between them. Letters beyond the base end the number, but a
decimal digit beyond it is an error. -/
def digitsWidth (base : Nat) (cs : List Char) : Option Nat :=
  let body := cs.takeWhile fun c =>
    isGroupedDigit c || (isHexDigit c && hexValue c < base)
  if body.all (· == '_') || body.any (fun c => c.isDigit && base ≤ hexValue c) then none
  else some body.length

def integerWidth (cs : List Char) : Option Nat := do
  match cs with
  | '0' :: 'x' :: rest => withSuffix (2 + (← digitsWidth 16 rest)) cs
  | '0' :: 'o' :: rest => withSuffix (2 + (← digitsWidth 8 rest)) cs
  | '0' :: 'b' :: rest => withSuffix (2 + (← digitsWidth 2 rest)) cs
  | _ => withSuffix (← digitsWidth 10 cs) cs

/-- The sign and the digits of an exponent. A second sign makes it none, unless digits came
before. -/
def exponentWidth : (signed valued : Bool) → List Char → Option Nat
  | _, valued, [] => if valued then some 0 else none
  | signed, valued, c :: rest =>
    if c == '+' || c == '-' then
      if valued then some 0
      else if signed then none
      else (exponentWidth true valued rest).map (· + 1)
    else if isGroupedDigit c then (exponentWidth signed (valued || c.isDigit) rest).map (· + 1)
    else if valued then some 0
    else none

/-- A fraction or an exponent makes a float. A point before another one, or before a word, belongs
to neither. -/
def floatWidth (cs : List Char) : Option Nat := do
  let whole := (cs.takeWhile isGroupedDigit).length
  match cs.drop whole with
  | '.' :: rest =>
    if rest.head?.any fun c => c == '.' || Text.isIdentifierStart c then none
    else
      let width := whole + 1 + (rest.takeWhile isGroupedDigit).length
      match cs.drop width with
      | 'e' :: rest | 'E' :: rest =>
        match exponentWidth false false rest with
        | some exponent => withSuffix (width + 1 + exponent) cs
        | none => withSuffix width cs
      | _ => withSuffix width cs
  | 'e' :: rest | 'E' :: rest => withSuffix (whole + 1 + (← exponentWidth false false rest)) cs
  | _ => none

def numberWidth (cs : List Char) : Option Nat := floatWidth cs <|> integerWidth cs

end Typewright.Source
