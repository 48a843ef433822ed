import Typewright.Text.Cut

/-! The tokens of generated source, and their written form. -/
namespace Typewright.Source

inductive Token where
  /-- A word, an operator or a bracket. -/
  | mark (text : String)
  /-- A string literal, by its value. -/
  | literal (value : String)
deriving DecidableEq

def hexDigits (n : Nat) : List Char :=
  let digits := Nat.toDigits 16 n
  List.replicate (4 - digits.length) '0' ++ digits

def escaped (c : Char) : List Char :=
  match c with
  | '"' => ['\\', '"']
  | '\\' => ['\\', '\\']
  | '\n' => ['\\', 'n']
  | '\r' => ['\\', 'r']
  | '\t' => ['\\', 't']
  | '\x08' => ['\\', 'b']
  | '\x0c' => ['\\', 'f']
  | c => if c.toNat < 0x20 then '\\' :: 'u' :: hexDigits c.toNat else [c]

/-- Quotes, backslashes and control characters are escaped, all else stands for itself. -/
def quoted (value : String) : String :=
  String.ofList ('"' :: value.toList.flatMap escaped ++ ['"'])

def Token.written : Token → String
  | mark text => text
  | literal value => quoted value

def written (tokens : List Token) : String :=
  String.intercalate " " (tokens.map Token.written)

/-- The marks between the spaces of a text. -/
def marks (text : String) : List Token := (Text.splitAt ' ' text).map .mark

def parens (inner : List Token) : List Token := .mark "(" :: inner ++ [.mark ")"]

def brackets (inner : List Token) : List Token := .mark "[" :: inner ++ [.mark "]"]

def braces (inner : List Token) : List Token := .mark "\x7b" :: inner ++ [.mark "\x7d"]

def angles (inner : List Token) : List Token := .mark "<" :: inner ++ [.mark ">"]

def commas (items : List (List Token)) : List Token := [.mark ","].intercalate items

end Typewright.Source
