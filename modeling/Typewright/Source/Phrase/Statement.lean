import Typewright.Source.Phrase.Declaration

/-! Statements: bindings, declarations, macro calls and expressions. -/
namespace Typewright.Source

namespace Reader

def letStatement (nested : Nested) : Reader (List Token) := do
  expectWord "let"
  let pattern ← nested.single
  let type ← if ← accept ":" then
      pure (.mark ":" :: (← nested.type true).tokens)
    else pure []
  let value ← if ← accept "=" then do
      let value ← nested.expr true
      let leaves ← if value.endsInBrace then pure false else acceptWord "else"
      let block ← if leaves then pure (.mark "else" :: (← smallBlock nested)) else pure []
      pure (.mark "=" :: value.tokens ++ block)
    else pure []
  expect ";"
  return .mark "let" :: pattern.tokens ++ type ++ value ++ [.mark ";"]

def bracedMacro? : Reader (Option (List Token)) := do
  let given ← get
  match given with
  | .word text :: _ =>
    if !(isIdentWord text || pathWords.contains text) then return none
    else
      match StateT.run plainPath given with
      | some (path, .point '!' _ :: .opening .curly :: rest) =>
        let after := afterTree (.opening .curly :: rest)
        if (startsWith "." after && !startsWith ".." after) || startsWith "?" after then
          return none
        else
          set (Lexeme.opening .curly :: rest)
          return some (path ++ [.mark "!"])
      | _ => return none
  | _ => return none

/-- A statement. A macro call is one of its own if it ends in a brace or in a semicolon; after a
brace the semicolon goes. -/
def statement (nested : Nested) : Reader Statement := do
  let lead ← attributes nested
  match ← bracedMacro? with
  | some call =>
    let tokens ← verbatim
    let _ ← accept ";"
    return .declaration (lead ++ call ++ tokens)
  | none =>
    if ← atWord "let" then return .declaration (lead ++ (← letStatement nested))
    else
      match ← item? nested with
      | some tokens => return .declaration (lead ++ tokens)
      | none =>
        let phrase := ExprPhrase.under lead (← earlyExpr nested)
        let semicolon ← accept ";"
        match phrase.macroBracket? with
        | some .curly => return .declaration phrase.tokens
        | some _ =>
          if semicolon then return .declaration (phrase.tokens ++ [.mark ";"])
          else return .expr phrase false
        | none => return .expr phrase semicolon

end Reader

end Typewright.Source
