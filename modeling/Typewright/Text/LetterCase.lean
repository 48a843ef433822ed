import Typewright.Text.LetterCase.Table
import Typewright.Text.Property.Alphanumeric
import Typewright.Text.Property.Lowercase
import Typewright.Text.Property.Uppercase

/-! Letters, their case, and the full case mapping of single characters. ASCII is decided
without the tables. -/
namespace Typewright.Text

def isAscii (c : Char) : Bool := c.toNat < 0x80

def isAlphanumeric (c : Char) : Bool :=
  if isAscii c then c.isAlphanum else wideAlphanumeric.contains c

def isLowercase (c : Char) : Bool := if isAscii c then c.isLower else wideLowercase.contains c

def isUppercase (c : Char) : Bool := if isAscii c then c.isUpper else wideUppercase.contains c

def CaseRun.imageOf? (run : CaseRun) (n : Nat) : Option Nat :=
  if run.first ≤ n ∧ n ≤ run.last ∧ (n - run.first) % run.step = 0 then
    some (run.target + (n - run.first))
  else none

/-- A character without an entry maps to itself. -/
def mapWide (runs : List CaseRun) (expansions : List (Nat × List Nat)) (c : Char) : List Char :=
  match expansions.lookup c.toNat with
  | some image => image.map Char.ofNat
  | none =>
    match runs.findSome? (·.imageOf? c.toNat) with
    | some n => [Char.ofNat n]
    | none => [c]

def lowerOf (c : Char) : List Char :=
  if isAscii c then [c.toLower] else mapWide lowerRuns lowerExpansions c

def upperOf (c : Char) : List Char :=
  if isAscii c then [c.toUpper] else mapWide upperRuns upperExpansions c

/-- A capital sigma at the end of the text takes its final form. -/
def lowered : List Char → List Char
  | [] => []
  | ['Σ'] => ['ς']
  | c :: rest => lowerOf c ++ lowered rest

def uppered (cs : List Char) : List Char := cs.flatMap upperOf

end Typewright.Text
