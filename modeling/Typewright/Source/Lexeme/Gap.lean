import Typewright.Text.Blank
import Typewright.Text.Cut

/-! What stands between lexemes: white space, the two direction marks, and comments. -/
namespace Typewright.Source

def isGap (c : Char) : Bool := Text.isBlank c || c == '\u200e' || c == '\u200f'

def blockWidth : (depth : Nat) → List Char → Option Nat
  | depth, '/' :: '*' :: rest => (blockWidth (depth + 1) rest).map (· + 2)
  | 0, _ => none
  | depth + 1, '*' :: '/' :: rest =>
    if depth = 0 then some 2 else (blockWidth depth rest).map (· + 2)
  | depth + 1, _ :: rest => (blockWidth (depth + 1) rest).map (· + 1)
  | _ + 1, [] => none

/-- The rest of a line; a carriage return goes with the line feed after it. -/
def lineWidth : List Char → Nat
  | [] => 0
  | '\n' :: _ => 0
  | '\r' :: '\n' :: _ => 0
  | _ :: rest => lineWidth rest + 1

structure Remark where
  text : List Char
  inner : Bool

/-- A carriage return in a remark stands before a line feed. -/
def isRemarkText : List Char → Bool
  | [] => true
  | '\r' :: rest => rest.head? == some '\n' && isRemarkText rest
  | _ :: rest => isRemarkText rest

def commentAt (cs : List Char) : Option (Option Remark × Nat) :=
  let line := lineWidth cs
  let body := (blockWidth 0 cs).map fun width => ((cs.take (width - 2)).drop 3, width)
  let remark (inner : Bool) (text : List Char) (width : Nat) : Option (Option Remark × Nat) :=
    if isRemarkText text then some (some ⟨text, inner⟩, width) else none
  match cs with
  | '/' :: '/' :: '/' :: '/' :: _ => some (none, line)
  | '/' :: '/' :: '/' :: _ => remark false ((cs.take line).drop 3) line
  | '/' :: '/' :: '!' :: _ => remark true ((cs.take line).drop 3) line
  | '/' :: '/' :: _ => some (none, line)
  | '/' :: '*' :: '*' :: '/' :: _ => some (none, 4)
  | '/' :: '*' :: '*' :: '*' :: _ => body.map fun (_, width) => (none, width)
  | '/' :: '*' :: '*' :: _ => body.bind fun (text, width) => remark false text width
  | '/' :: '*' :: '!' :: _ => body.bind fun (text, width) => remark true text width
  | '/' :: '*' :: _ => body.map fun (_, width) => (none, width)
  | _ => none

end Typewright.Source
