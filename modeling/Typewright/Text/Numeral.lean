import Typewright.Text.Blank

/-! Numerals in decimal notation, with the names of the values that no digits denote. -/
namespace Typewright.Text

def dropSign : List Char → List Char
  | '+' :: rest => rest
  | '-' :: rest => rest
  | cs => cs

/-- An optional mark, an optional sign, and at least one digit up to the end. -/
def isExponent : List Char → Bool
  | [] => true
  | c :: rest =>
    let digits := dropSign rest
    (c == 'e' || c == 'E') && digits != [] && digits.all Char.isDigit

/-- Digits with at most one point, a digit on one side of it, and an exponent or nothing. -/
def isDecimal (cs : List Char) : Bool :=
  let whole := cs.takeWhile Char.isDigit
  match cs.dropWhile Char.isDigit with
  | '.' :: rest =>
    (whole != [] || rest.takeWhile Char.isDigit != []) && isExponent (rest.dropWhile Char.isDigit)
  | rest => whole != [] && isExponent rest

/-- The words for the infinities and for no number, in any case. -/
def isNonFinite (cs : List Char) : Bool :=
  ["inf", "infinity", "nan"].any fun word => word.toList == cs.map Char.toLower

def isNumeral (s : String) : Bool :=
  let cs := dropSign s.toList
  isDecimal cs || isNonFinite cs

end Typewright.Text
