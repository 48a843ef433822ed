import Typewright.Source.Token

/-! The lexemes of source text, and the trees that brackets make of them. -/
namespace Typewright.Source

inductive Bracket where
  | round
  | square
  | curly
deriving DecidableEq

namespace Bracket

def opening : Bracket → String
  | round => "("
  | square => "["
  | curly => "\x7b"

def closing : Bracket → String
  | round => ")"
  | square => "]"
  | curly => "\x7d"

def around (bracket : Bracket) (inner : List Token) : List Token :=
  .mark bracket.opening :: inner ++ [.mark bracket.closing]

end Bracket

inductive Lexeme where
  | word (text : String)
  | lifetime (text : String)
  | number (text : String)
  /-- A text literal, by its value. -/
  | text (value : String)
  /-- Any other quoted literal, as it is written. -/
  | literal (written : String)
  /-- One character of an operator, and whether another one follows at once. -/
  | point (char : Char) (joint : Bool)
  | opening (bracket : Bracket)
  | closing (bracket : Bracket)
deriving DecidableEq

/-- What follows the operator, if the lexemes start with it. Its characters follow one another at
once; whether another one follows the last does not matter. -/
def afterOperator : (operator : List Char) → List Lexeme → Option (List Lexeme)
  | [], rest => some rest
  | [c], .point d _ :: rest => if c = d then some rest else none
  | c :: operator, .point d true :: rest =>
    if c = d then afterOperator operator rest else none
  | _, _ => none

def startsWith (operator : String) (lexemes : List Lexeme) : Bool :=
  (afterOperator operator.toList lexemes).isSome

/-- Whether each bracket is closed by its counterpart; `pending` holds the open ones, the latest
first. -/
def bracketsMatch : (pending : List Bracket) → List Lexeme → Bool
  | pending, [] => pending.isEmpty
  | pending, .opening bracket :: rest => bracketsMatch (bracket :: pending) rest
  | [], .closing _ :: _ => false
  | last :: pending, .closing bracket :: rest => last == bracket && bracketsMatch pending rest
  | pending, _ :: rest => bracketsMatch pending rest

def splitClosing : (depth : Nat) → List Lexeme → List Lexeme × List Lexeme
  | _, [] => ([], [])
  | 0, .closing _ :: rest => ([], rest)
  | depth + 1, .closing bracket :: rest =>
    let (inner, rest) := splitClosing depth rest
    (.closing bracket :: inner, rest)
  | depth, .opening bracket :: rest =>
    let (inner, rest) := splitClosing (depth + 1) rest
    (.opening bracket :: inner, rest)
  | depth, lexeme :: rest =>
    let (inner, rest) := splitClosing depth rest
    (lexeme :: inner, rest)

/-- What follows the first lexeme, or the first bracket with all that it holds. Nothing follows the
last one in a bracket. -/
def afterTree : List Lexeme → List Lexeme
  | [] => []
  | .closing _ :: _ => []
  | .opening _ :: rest => (splitClosing 0 rest).2
  | _ :: rest => rest

def longOperators : List String := [
  "<<=", ">>=", "...", "..=", "::", "->", "=>", "==", "!=", "<=", ">=", "&&", "||", "+=", "-=",
  "*=", "/=", "%=", "^=", "&=", "|=", "..", "<<", ">>"]

/-- The token that a lexeme starts, and how many more lexemes belong to it. -/
def tokenAt (lexeme : Lexeme) (rest : List Lexeme) : Token × Nat :=
  match lexeme with
  | .word text | .lifetime text | .number text | .literal text => (.mark text, 0)
  | .text value => (.literal value, 0)
  | .opening bracket => (.mark bracket.opening, 0)
  | .closing bracket => (.mark bracket.closing, 0)
  | .point c _ =>
    match longOperators.find? fun operator => startsWith operator (lexeme :: rest) with
    | some operator => (.mark operator, operator.length - 1)
    | none => (.mark (String.ofList [c]), 0)

/-- The tokens of the lexemes after the first `width`. A comma before a closing bracket goes. -/
def tokensFrom : (width : Nat) → List Lexeme → List Token
  | _, [] => []
  | width + 1, _ :: rest => tokensFrom width rest
  | 0, lexeme :: rest =>
    match lexeme, rest with
    | .point ',' _, [] => []
    | .point ',' _, .closing _ :: _ => tokensFrom 0 rest
    | _, _ =>
      let (token, width) := tokenAt lexeme rest
      token :: tokensFrom width rest

def tokensOf (lexemes : List Lexeme) : List Token := tokensFrom 0 lexemes

end Typewright.Source
