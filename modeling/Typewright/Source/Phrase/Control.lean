import Typewright.Source.Phrase.Pattern

/-! Expressions that hold blocks, arms or the body of a closure. -/
namespace Typewright.Source

def ExprPhrase.blockLike (tokens : List Token) (losesSemicolon : Bool) : ExprPhrase where
  tokens := tokens
  standsAlone := true
  losesSemicolon := losesSemicolon
  endsInBrace := true

def ExprPhrase.under (attributes : List Token) (phrase : ExprPhrase) : ExprPhrase :=
  if attributes.isEmpty then phrase
  else
    let tokens := attributes ++ phrase.tokens
    { phrase with tokens := tokens, arm := tokens, body := tokens }

namespace Reader

/-- A condition with its blocks. Without a last block no semicolon follows. -/
def conditional (nested : Nested) : Reader ExprPhrase := do
  expectWord "if"
  let condition ← nested.expr false
  let block ← smallBlock nested
  let tokens := .mark "if" :: condition.tokens ++ block
  if ← acceptWord "else" then
    if ← atWord "if" then
      let other ← nested.conditional
      return .blockLike (tokens ++ .mark "else" :: other.tokens) other.losesSemicolon
    else return .blockLike (tokens ++ .mark "else" :: (← smallBlock nested)) false
  else return .blockLike tokens true

def loop? (nested : Nested) : Reader (Option ExprPhrase) := do
  if ← acceptWord "while" then
    let condition ← nested.expr false
    let block ← longBlock nested
    return some (.blockLike (.mark "while" :: condition.tokens ++ block) true)
  else if ← acceptWord "for" then
    let item ← nested.pattern
    expectWord "in"
    let list ← nested.expr false
    let block ← longBlock nested
    return some (.blockLike (.mark "for" :: item.tokens ++ .mark "in" :: list.tokens ++ block) true)
  else if ← acceptWord "loop" then
    return some (.blockLike (.mark "loop" :: (← longBlock nested)) false)
  else return none

def labelled (nested : Nested) : Reader ExprPhrase := do
  let label ← lifetime
  expect ":"
  let lead := label ++ [.mark ":"]
  match ← loop? nested with
  | some phrase => return .blockLike (lead ++ phrase.tokens) phrase.losesSemicolon
  | none => return .blockLike (lead ++ (← blockExpr nested).tokens) false

def matchArm (nested : Nested) : Reader (List Token × Bool) := do
  let lead ← attributes nested
  let pattern ← nested.pattern
  let guard ← if ← acceptWord "if" then
      pure (.mark "if" :: (← nested.expr true).tokens)
    else pure []
  expect "=>"
  let body ← nested.early
  return (lead ++ pattern.tokens ++ guard ++ .mark "=>" :: body.arm, !body.standsAlone)

def matchExpr (nested : Nested) : Reader ExprPhrase := do
  expectWord "match"
  let value ← nested.expr false
  let content ← within .curly do
    let inner ← innerAttributes nested
    let (arms, _) ← repeatOn (([], true) : List (List Token) × Bool) fun (arms, parted) => do
      if ← atEnd then return none
      else if !parted then failure
      else
        let (arm, needsComma) ← matchArm nested
        let comma ← accept ","
        return some (arm :: arms, comma || !needsComma)
    return inner ++ commas arms.reverse
  return .blockLike (.mark "match" :: value.tokens ++ braces content) false

def wordBlock (nested : Nested) (word : String) : Reader ExprPhrase := do
  expectWord word
  return .blockLike (.mark word :: (← smallBlock nested)) false

def closureInput (nested : Nested) : Reader (List Token) := do
  let lead ← attributes nested
  let pattern ← nested.single
  let type ← if ← accept ":" then
      pure (.mark ":" :: (← nested.type true).tokens)
    else pure []
  return lead ++ pattern.tokens ++ type

/-- A closure. Its body is a block if its result has a type; elsewhere a block around a single
expression goes. -/
def closure (nested : Nested) (fields : Bool) : Reader ExprPhrase := do
  let binder ← if ← atWord "for" then binder nested else pure []
  let modes := (← word? "const") ++ (← word? "static") ++ (← word? "async") ++ (← word? "move")
  expect "|"
  let (inputs, _) ← separatedBy "," (atOperator "|") (closureInput nested)
  expect "|"
  let lead := binder ++ modes ++ .mark "|" :: commas inputs ++ [.mark "|"]
  if ← accept "->" then
    let result ← nested.type true
    let block ← smallBlock nested
    return { tokens := lead ++ .mark "->" :: result.tokens ++ block, endsInBrace := true }
  else
    let body ← nested.expr fields
    return { tokens := lead ++ body.body, endsInBrace := body.endsInBrace }

end Reader

end Typewright.Source
