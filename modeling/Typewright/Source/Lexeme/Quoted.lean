import Typewright.Source.Lexeme
import Typewright.Source.Lexeme.Number

/-! Quoted literals: texts, texts of bytes, texts that end in a null, single characters and single
bytes. -/
namespace Typewright.Source

inductive Quotation where
  | text
  | bytes
  | nullEnded
deriving DecidableEq

/-- What an escape stands for, and how many characters it has after the backslash. -/
abbrev Escape := List Char × Nat

/-- A code point in hexadecimal digits, which underscores may part after the first. -/
def codePointEscape (cs : List Char) : Option Escape :=
  let body := cs.takeWhile fun c => isHexDigit c || c == '_'
  let digits := body.filter (· != '_')
  let value := digits.foldl (fun n c => n * 16 + hexValue c) 0
  if body.head?.any isHexDigit && digits.length ≤ 6 && (cs.drop body.length).head? == some '\x7d' &&
      value.isValidChar then
    some ([Char.ofNat value], body.length + 3)
  else none

/-- A line break in a text that is left out together with the white space after it. -/
def continuation : List Char → Option Nat
  | '\r' :: '\n' :: rest => (continuation rest).map (· + 2)
  | '\r' :: _ => none
  | ' ' :: rest | '\t' :: rest | '\n' :: rest => (continuation rest).map (· + 1)
  | [] => none
  | _ :: _ => some 0

def plainEscape (quotation : Quotation) : List Char → Option Escape
  | 'n' :: _ => some (['\n'], 1)
  | 'r' :: _ => some (['\r'], 1)
  | 't' :: _ => some (['\t'], 1)
  | '\\' :: _ => some (['\\'], 1)
  | '\'' :: _ => some (['\''], 1)
  | '"' :: _ => some (['"'], 1)
  | '0' :: _ => if quotation = .nullEnded then none else some (['\x00'], 1)
  | 'x' :: high :: low :: _ =>
    let value := hexValue high * 16 + hexValue low
    if !isHexDigit high || !isHexDigit low then none
    else if quotation = .text ∧ 0x80 ≤ value then none
    else if quotation = .nullEnded ∧ value = 0 then none
    else some ([Char.ofNat value], 3)
  | 'u' :: '\x7b' :: rest =>
    match codePointEscape rest with
    | some (value, width) =>
      if quotation = .bytes ∨ (quotation = .nullEnded ∧ value = ['\x00']) then none
      else some (value, width)
    | none => none
  | _ => none

def textEscape (quotation : Quotation) (cs : List Char) : Option Escape :=
  match cs with
  | '\n' :: _ | '\r' :: _ => (continuation cs).map ([], ·)
  | _ => plainEscape quotation cs

def Quotation.allows : Quotation → Char → Bool
  | .text, _ => true
  | .bytes, c => c.toNat < 0x80
  | .nullEnded, c => c != '\x00'

def cookedText (quotation : Quotation) : (width : Nat) → List Char → Option Escape
  | _, [] => none
  | width + 1, _ :: rest => (cookedText quotation width rest).map fun (value, n) => (value, n + 1)
  | 0, c :: rest =>
    if c = '"' then some ([], 1)
    else if c = '\\' then do
      let (escaped, width) ← textEscape quotation rest
      let (value, n) ← cookedText quotation width rest
      return (escaped ++ value, n + 1)
    else if c = '\r' then
      if rest.head? = some '\n' then
        (cookedText quotation 0 rest).map fun (value, n) => (value, n + 1)
      else none
    else if quotation.allows c then
      (cookedText quotation 0 rest).map fun (value, n) => (c :: value, n + 1)
    else none

/-- The value and the width of a raw text after its opening quote. It ends at a quote with as many
number signs after it as came before. -/
def rawText (quotation : Quotation) (signs : Nat) : List Char → Option Escape
  | [] => none
  | c :: rest =>
    if c = '"' ∧ (rest.takeWhile (· == '#')).length ≥ signs then some ([], signs + 1)
    else if c = '\r' ∧ rest.head? ≠ some '\n' then none
    else if quotation.allows c then
      (rawText quotation signs rest).map fun (value, n) =>
        (if c = '\r' then value else c :: value, n + 1)
    else none

def textAt (quotation : Quotation) : List Char → Option Escape
  | '"' :: rest => (cookedText quotation 0 rest).map fun (value, n) => (value, n + 1)
  | 'r' :: rest =>
    let signs := (rest.takeWhile (· == '#')).length
    match rest.drop signs with
    | '"' :: rest =>
      if signs ≤ 255 then
        (rawText quotation signs rest).map fun (value, n) => (value, n + signs + 2)
      else none
    | _ => none
  | _ => none

def characterWidth (quotation : Quotation) (cs : List Char) : Option Nat := do
  let width ←
    match cs with
    | '\\' :: rest => (plainEscape quotation rest).map (·.2 + 1)
    | c :: _ => if quotation.allows c then some 1 else none
    | [] => none
  if (cs.drop width).head? = some '\'' then some (width + 1) else none

/-- The quoted literal that a text starts with, and its width. Only a text is known by its
value. -/
def quotedAt (cs : List Char) : Option (Lexeme × Nat) := do
  let written (width : Nat) : Lexeme × Nat :=
    let width := width + suffixWidth (cs.drop width)
    (.literal (String.ofList (cs.take width)), width)
  match cs with
  | 'b' :: '\'' :: rest => return written (2 + (← characterWidth .bytes rest))
  | 'b' :: rest => return written (1 + (← textAt .bytes rest).2)
  | 'c' :: rest => return written (1 + (← textAt .nullEnded rest).2)
  | '\'' :: rest => return written (1 + (← characterWidth .text rest))
  | _ =>
    let (value, width) ← textAt .text cs
    return (.text (String.ofList value), width + suffixWidth (cs.drop width))

end Typewright.Source
