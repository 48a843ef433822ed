import Typewright.Source.Lexeme.Gap
import Typewright.Source.Lexeme.Quoted

/-! Taking a text apart into lexemes. -/
namespace Typewright.Source

def pointCharacters : List Char := "~!@#$%^&*-=+|;:,<.>/?'".toList

/-- Whether an operator goes on here. A comment is no part of one. -/
def startsPoint : List Char → Bool
  | '/' :: '/' :: _ | '/' :: '*' :: _ => false
  | c :: _ => pointCharacters.contains c
  | [] => false

/-- Words with a place of their own in paths. They have no escape. -/
def pathWords : List String := ["self", "Self", "super", "crate"]

def wordWidth : List Char → Option Nat
  | 'r' :: '#' :: rest =>
    let width := suffixWidth rest
    if width = 0 ∨ String.ofList (rest.take width) ∈ "_" :: pathWords then none
    else some (width + 2)
  | cs => if suffixWidth cs = 0 then none else some (suffixWidth cs)

/-- The openings of quoted literals, which no word may have. -/
def literalOpenings : List (List Char) :=
  ["r\"", "r#\"", "r##", "b\"", "b'", "br\"", "br#", "c\"", "cr\"", "cr#"].map String.toList

def lifetimeWidth (cs : List Char) : Option Nat := do
  let width ← wordWidth cs
  match cs.drop width with
  | '\'' :: _ => none
  | '#' :: _ => if ['r', '#'].isPrefixOf cs then some width else none
  | _ => some width

def bracketAt : Char → Option Lexeme
  | '(' => some (.opening .round)
  | ')' => some (.closing .round)
  | '[' => some (.opening .square)
  | ']' => some (.closing .square)
  | '\x7b' => some (.opening .curly)
  | '\x7d' => some (.closing .curly)
  | _ => none

def lexemeAt (c : Char) (rest : List Char) : Option (Lexeme × Nat) :=
  let cs := c :: rest
  let taken (width : Nat) : String := String.ofList (cs.take width)
  match bracketAt c, quotedAt cs with
  | some bracket, _ => some (bracket, 1)
  | none, some quoted => some quoted
  | none, none =>
    if c.isDigit then (numberWidth cs).map fun width => (.number (taken width), width)
    else if c = '\'' then
      (lifetimeWidth rest).map fun width => (.lifetime (taken (width + 1)), width + 1)
    else if startsPoint cs then some (.point c (startsPoint rest), 1)
    else if literalOpenings.any (·.isPrefixOf cs) then none
    else (wordWidth cs).map fun width => (.word (taken width), width)

/-- A remark is read as the attribute that says the same. -/
def Remark.lexemes (remark : Remark) : List Lexeme :=
  .point '#' false :: (if remark.inner then [.point '!' false] else []) ++
    [.opening .square, .word "doc", .point '=' false, .text (String.ofList remark.text),
      .closing .square]

def lexemesFrom : (width : Nat) → List Char → Option (List Lexeme)
  | _, [] => some []
  | width + 1, _ :: rest => lexemesFrom width rest
  | 0, c :: rest =>
    if isGap c then lexemesFrom 0 rest
    else
      match commentAt (c :: rest) with
      | some (remark, width) => do
        return (remark.map Remark.lexemes).getD [] ++ (← lexemesFrom (width - 1) rest)
      | none => do
        let (lexeme, width) ← lexemeAt c rest
        return lexeme :: (← lexemesFrom (width - 1) rest)

/-- The lexemes of a text whose brackets match. A byte order mark in front does not count. -/
def lexemes (text : String) : Option (List Lexeme) := do
  let given ← lexemesFrom (if text.toList.head? = some '\ufeff' then 1 else 0) text.toList
  if bracketsMatch [] given then some given else none

end Typewright.Source
