import Typewright.Source.Phrase.Expr

/-! Declarations among the statements of a block. -/
namespace Typewright.Source

namespace Reader

def visibility : Reader (List Token) := do
  if ← acceptWord "pub" then
    match ← get with
    | .opening .round :: .word text :: .closing .round :: rest =>
      if ["crate", "self", "super"].contains text then
        set rest
        return .mark "pub" :: parens [.mark text]
      else return [.mark "pub"]
    | .opening .round :: .word "in" :: _ =>
      let place ← within .round do
        expectWord "in"
        plainPath
      let near := ["crate", "self", "super"].any fun word => place == [.mark word]
      return .mark "pub" :: parens (if near then place else .mark "in" :: place)
    | _ => return [.mark "pub"]
  else return []

def constantItem (nested : Nested) : Reader (List Token) := do
  let lead ← if ← acceptWord "const" then pure [Token.mark "const"]
    else do
      expectWord "static"
      pure (.mark "static" :: (← word? "mut"))
  let name ← if ← acceptWord "_" then pure "_" else ident
  expect ":"
  let type ← nested.type true
  expect "="
  let value ← nested.expr true
  expect ";"
  return lead ++ .mark name :: .mark ":" :: type.tokens ++ .mark "=" :: value.tokens ++ [.mark ";"]

def parameter (nested : Nested) : Reader (Bool × List Token) := do
  let lead ← attributes nested
  if ← acceptWord "const" then
    let name ← ident
    expect ":"
    let type ← nested.type true
    let value ← if ← accept "=" then do
        match ← constant? nested with
        | some tokens => pure (.mark "=" :: tokens)
        | none => failure
      else pure []
    return (false, lead ++ .mark "const" :: .mark name :: .mark ":" :: type.tokens ++ value)
  else
    let isLifetime ← atLifetime
    return (isLifetime, lead ++ (← binderItem nested))

def parameters (nested : Nested) : Reader (List Token) := do
  if ← accept "<" then
    let (items, _) ← separatedBy "," (atOperator ">") (parameter nested)
    expect ">"
    return if items.isEmpty then [] else angles (commas (lifetimesFirst items))
  else return []

def aliasItem (nested : Nested) : Reader (List Token) := do
  expectWord "type"
  let name ← ident
  let parameters ← parameters nested
  expect "="
  let type ← nested.type true
  expect ";"
  return .mark "type" :: .mark name :: parameters ++ .mark "=" :: type.tokens ++ [.mark ";"]

def functionItem (nested : Nested) : Reader (List Token) := do
  let modes := (← word? "const") ++ (← word? "async") ++ (← word? "unsafe")
  expectWord "fn"
  let name ← ident
  let parameters ← parameters nested
  let inputs ← within .round <| commaItems do
    let lead ← attributes nested
    let pattern ← nested.single
    expect ":"
    return lead ++ pattern.tokens ++ .mark ":" :: (← nested.type true).tokens
  let result ← if ← accept "->" then
      pure (.mark "->" :: (← nested.type true).tokens)
    else pure []
  let block ← longBlock nested
  return modes ++ .mark "fn" :: .mark name :: parameters ++ parens (commas inputs) ++ result ++
    block

/-- What a declaration of other names brings in; groups in braces lie deeper by `depth`. -/
def useTree : (depth : Nat) → Reader (List Token)
  | 0 => failure
  | depth + 1 => do
    if ← accept "*" then return [.mark "*"]
    else if ← atOpening .curly then
      return braces (commas (← within .curly (commaItems (useTree depth))))
    else
      match ← next with
      | .word text =>
        if !(isIdentWord text || pathWords.contains text) then failure
        if ← accept "::" then return .mark text :: .mark "::" :: (← useTree depth)
        else if ← acceptWord "as" then
          if ← acceptWord "_" then return [.mark text, .mark "as", .mark "_"]
          else return [.mark text, .mark "as", .mark (← ident)]
        else return [.mark text]
      | _ => failure

def useItem : Reader (List Token) := do
  expectWord "use"
  let lead ← operator? "::"
  let tree ← useTree ((← get).length + 1)
  expect ";"
  return .mark "use" :: lead ++ tree ++ [.mark ";"]

def namedField (nested : Nested) : Reader (List Token) := do
  let lead := (← attributes nested) ++ (← visibility)
  let name ← ident
  expect ":"
  return lead ++ .mark name :: .mark ":" :: (← nested.type true).tokens

def placedField (nested : Nested) : Reader (List Token) := do
  let lead := (← attributes nested) ++ (← visibility)
  return lead ++ (← nested.type true).tokens

def fields (nested : Nested) : Reader (List Token × Bool) := do
  if ← atOpening .curly then
    return (braces (commas (← within .curly (commaItems (namedField nested)))), true)
  else if ← atOpening .round then
    return (parens (commas (← within .round (commaItems (placedField nested)))), false)
  else return ([], false)

def recordItem (nested : Nested) : Reader (List Token) := do
  expectWord "struct"
  let name ← ident
  let parameters ← parameters nested
  let (fields, braced) ← fields nested
  let tokens := .mark "struct" :: .mark name :: parameters ++ fields
  if braced then return tokens
  else
    expect ";"
    return tokens ++ [.mark ";"]

def variant (nested : Nested) : Reader (List Token) := do
  let lead ← attributes nested
  let name ← ident
  let (fields, _) ← fields nested
  let number ← if ← accept "=" then
      pure (.mark "=" :: (← nested.expr true).tokens)
    else pure []
  return lead ++ .mark name :: fields ++ number

def variantsItem (nested : Nested) : Reader (List Token) := do
  expectWord "enum"
  let name ← ident
  let parameters ← parameters nested
  let variants ← within .curly (commaItems (variant nested))
  return .mark "enum" :: .mark name :: parameters ++ braces (commas variants)

def bareItem? (nested : Nested) : Reader (Option (List Token)) := do
  let startsFunction : List Lexeme → Bool
    | .word "fn" :: _ | .word "unsafe" :: _ => true
    | _ => false
  match ← get with
  | .word "const" :: rest =>
    match rest with
    | .word "fn" :: _ | .word "unsafe" :: .word "fn" :: _ | .word "async" :: .word "fn" :: _
    | .word "async" :: .word "unsafe" :: _ => return some (← functionItem nested)
    | .word "async" :: _ | .word "static" :: _ | .word "move" :: _ | .opening .curly :: _ =>
      return none
    | _ => if startsWith "|" rest then return none else return some (← constantItem nested)
  | .word "static" :: rest =>
    match rest with
    | .word "mut" :: _ => return some (← constantItem nested)
    | .word text :: _ =>
      if isIdentWord text then return some (← constantItem nested) else return none
    | _ => return none
  | .word "use" :: _ => return some (← useItem)
  | .word "type" :: _ => return some (← aliasItem nested)
  | .word "fn" :: _ => return some (← functionItem nested)
  | .word "struct" :: _ => return some (← recordItem nested)
  | .word "enum" :: _ => return some (← variantsItem nested)
  | .word "unsafe" :: .opening .curly :: _ => return none
  | .word "unsafe" :: _ => return some (← functionItem nested)
  | .word "async" :: rest =>
    if startsFunction rest then return some (← functionItem nested) else return none
  | _ => return none

def item? (nested : Nested) : Reader (Option (List Token)) := do
  let lead ← visibility
  match ← bareItem? nested with
  | some tokens => return some (lead ++ tokens)
  | none => if lead.isEmpty then return none else failure

end Reader

end Typewright.Source
