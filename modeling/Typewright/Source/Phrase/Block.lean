import Typewright.Source.Phrase

/-! Attributes, literals and blocks. -/
namespace Typewright.Source

namespace Statement

/-- The statement as it is written, and its body if it is an expression without a semicolon. A
block writes none for an empty one. -/
def written : Statement → Option (List Token × Option (List Token))
  | empty => none
  | expr phrase true =>
    some (phrase.tokens ++ if phrase.losesSemicolon then [] else [.mark ";"],
      if phrase.losesSemicolon then some phrase.body else none)
  | expr phrase false =>
    if phrase.gainsSemicolon then some (phrase.tokens ++ [.mark ";"], none)
    else some (phrase.tokens, some phrase.body)
  | declaration tokens => some (tokens, none)

end Statement

def contentOf (statements : List Statement) : List Token × Option (List Token) :=
  let shown := statements.filterMap Statement.written
  (shown.flatMap (·.1),
    match shown with
    | [(_, body)] => body
    | _ => none)

def smallContentOf : List Statement → List Token × Option (List Token)
  | [.expr phrase false] => (phrase.tokens, some phrase.body)
  | statements => contentOf statements

namespace Reader

def literal? : Reader (Option (List Token)) := do
  match ← get with
  | .number text :: rest | .literal text :: rest => set rest; return some [.mark text]
  | .point '-' _ :: .number text :: rest => set rest; return some [.mark "-", .mark text]
  | .word "true" :: rest => set rest; return some [.mark "true"]
  | .word "false" :: rest => set rest; return some [.mark "false"]
  | .text value :: rest => set rest; return some [.literal value]
  | _ => return none

def plainPath : Reader (List Token) := do
  let lead ← operator? "::"
  let word : Reader (List Token) := do
    match ← next with
    | .word text =>
      if isIdentWord text || pathWords.contains text then return [.mark text] else failure
    | _ => failure
  let first ← word
  let rest ← manyUntil (do return !(← atOperator "::")) do
    expect "::"
    return .mark "::" :: (← word)
  return lead ++ first ++ rest.flatten

def attributeContent (nested : Nested) : Reader (List Token) := do
  let path ← if ← acceptWord "unsafe" then pure [Token.mark "unsafe"] else plainPath
  match ← get with
  | .opening _ :: _ => return path ++ (← verbatim)
  | .point '=' _ :: rest =>
    set rest
    return path ++ .mark "=" :: (← nested.expr true).tokens
  | _ => return path

def attributes (nested : Nested) : Reader (List Token) := do
  let list ← manyUntil (do return !(← atOperator "#")) do
    expect "#"
    return .mark "#" :: brackets (← within .square (attributeContent nested))
  return list.flatten

def innerAttributes (nested : Nested) : Reader (List Token) := do
  let isNext : Reader Bool := do
    match ← get with
    | .point '#' _ :: .point '!' _ :: _ => return true
    | _ => return false
  let list ← manyUntil (do return !(← isNext)) do
    expect "#"
    expect "!"
    return .mark "#" :: .mark "!" :: brackets (← within .square (attributeContent nested))
  return list.flatten

def statements (nested : Nested) : Reader (List Statement) := do
  let (list, _) ← repeatOn (([], true) : List Statement × Bool) fun (list, ended) => do
    if ← accept ";" then return some (.empty :: list, true)
    else if ← atEnd then return none
    else if !ended then failure
    else
      let statement ← nested.statement
      let ends := match statement with
        | .expr phrase false => phrase.standsAlone
        | _ => true
      return some (statement :: list, ends)
  return list.reverse

def blockContent (nested : Nested) : Reader (List Token × List Statement) :=
  within .curly do return (← innerAttributes nested, ← statements nested)

def smallBlock (nested : Nested) : Reader (List Token) := do
  let (inner, list) ← blockContent nested
  return braces (inner ++ (smallContentOf list).1)

def longBlock (nested : Nested) : Reader (List Token) := do
  let (inner, list) ← blockContent nested
  return braces (inner ++ (contentOf list).1)

/-- A block as an expression. An arm or a closure shows a single expression in its place. -/
def blockExpr (nested : Nested) : Reader ExprPhrase := do
  let (inner, list) ← blockContent nested
  let (small, body) := smallContentOf list
  let (long, longBody) := contentOf list
  let tokens := braces (inner ++ small)
  if !inner.isEmpty then return { tokens := tokens, standsAlone := true, endsInBrace := true }
  else
    let arm := match list with
      | [.expr phrase false] => phrase.arm
      | _ => longBody.getD (braces long)
    return {
      tokens := tokens, arm := arm, body := body.getD tokens, standsAlone := true,
      endsInBrace := true }

end Reader

end Typewright.Source
