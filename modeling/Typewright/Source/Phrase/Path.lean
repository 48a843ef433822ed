import Typewright.Source.Phrase.Block

/-! Paths, their arguments, and bounds. -/
namespace Typewright.Source

/-- Lifetimes go before all other generic arguments. -/
def lifetimesFirst (items : List (Bool × List Token)) : List (List Token) :=
  ((items.filter (·.1)) ++ items.filter (!·.1)).map Prod.snd

def plusses (items : List (List Token)) : List Token := [.mark "+"].intercalate items

/-- Bounds after a colon; without any of them the colon goes as well. -/
def colonBounds (items : List (List Token)) : List Token :=
  if items.isEmpty then [] else .mark ":" :: plusses items

namespace Reader

def boundsUntil (stops : List String) (bound : Reader α) : Reader (List α) := do
  let stop : Reader Bool := do
    let lexemes ← get
    return stops.any (startsWith · lexemes)
  return (← separatedBy "+" stop bound).1

def constant? (nested : Nested) : Reader (Option (List Token)) := do
  match ← literal? with
  | some tokens => return some tokens
  | none => if ← atOpening .curly then return some (← blockExpr nested).tokens else return none

def argument (nested : Nested) : Reader (Bool × List Token) := do
  let isLifetime : Reader Bool := do
    match ← get with
    | .lifetime _ :: .point '+' _ :: _ => return false
    | .lifetime _ :: _ => return true
    | _ => return false
  if ← isLifetime then return (true, ← lifetime)
  else
    match ← constant? nested with
    | some tokens => return (false, tokens)
    | none =>
      let type ← nested.type true
      if !type.isName then return (false, type.tokens)
      else if ← accept "=" then
        match ← constant? nested with
        | some tokens => return (false, type.tokens ++ .mark "=" :: tokens)
        | none => return (false, type.tokens ++ .mark "=" :: (← nested.type true).tokens)
      else if ← accept ":" then
        let bounds ← boundsUntil [",", ">"] nested.bound
        return (false, type.tokens ++ colonBounds (bounds.map (·.tokens)))
      else return (false, type.tokens)

/-- Generic arguments in their brackets. An empty list of them leaves no trace. -/
def arguments (nested : Nested) : Reader (List Token) := do
  expect "<"
  let (items, _) ← separatedBy "," (atOperator ">") (argument nested)
  expect ">"
  if items.isEmpty then return [] else return angles (commas (lifetimesFirst items))

def segmentWord : Reader String := do
  match ← next with
  | .word text =>
    if isIdentWord text || pathWords.contains text || text == "try" then return text else failure
  | _ => failure

/-- One word of a path with its arguments. In an expression two colons go before these. -/
def segment (nested : Nested) (inExpr : Bool) :
    Reader PathPhrase := do
  let word ← segmentWord
  let plain : PathPhrase := ⟨[.mark word], true, true, true⟩
  if ["super", "self", "crate", "try"].contains word then return plain
  else
    let lexemes ← get
    let parted := ((afterOperator "::".toList lexemes).map (startsWith "<")).getD false
    if parted || (!inExpr && startsWith "<" lexemes && !startsWith "<=" lexemes) then
      let _ ← accept "::"
      let list ← arguments nested
      let lead := if inExpr && !list.isEmpty then [.mark "::"] else []
      return ⟨.mark word :: lead ++ list, false, true, list.isEmpty⟩
    else return plain

def furtherSegments (nested : Nested) (inExpr inputs : Bool)
    (first : PathPhrase) : Reader PathPhrase :=
  repeatOn first fun path => do
    match afterOperator "::".toList (← get) with
    | none => return none
    | some (.opening .round :: _) => if inputs then return none else failure
    | some rest =>
      set rest
      let last ← segment nested inExpr
      return some ⟨path.tokens ++ .mark "::" :: last.tokens, path.isPlain && last.isPlain, false,
        last.isOpen⟩

def path (nested : Nested) (inExpr : Bool) : Reader PathPhrase := do
  let lead ← operator? "::"
  let first ← segment nested inExpr
  let whole ← furtherSegments nested inExpr true first
  return { whole with tokens := lead ++ whole.tokens, isName := lead.isEmpty && whole.isName }

def qualifiedPath (nested : Nested) (inExpr : Bool) :
    Reader (List Token) := do
  expect "<"
  let self ← nested.type true
  let role ← if ← acceptWord "as" then
      pure (.mark "as" :: (← path nested false).tokens)
    else pure []
  expect ">"
  expect "::"
  let first ← segment nested inExpr
  let rest ← furtherSegments nested inExpr false first
  return angles (self.tokens ++ role) ++ .mark "::" :: rest.tokens

def result (nested : Nested) : Reader (List Token) := do
  if ← accept "->" then return .mark "->" :: (← nested.type false).tokens else return []

def inputs (nested : Nested) : Reader (List Token) := do
  let items ← within .round (commaItems (nested.type true))
  return parens (commas (items.map (·.tokens))) ++ (← result nested)

def binderItem (nested : Nested) : Reader (List Token) := do
  let lead ← attributes nested
  if ← atLifetime then
    let name ← lifetime
    if ← accept ":" then
      return lead ++ name ++ colonBounds (← boundsUntil [",", ">"] lifetime)
    else return lead ++ name
  else
    let name ← ident
    let bounds ← if ← accept ":" then boundsUntil [",", ">", "="] nested.bound else pure []
    let default ← if ← accept "=" then
        pure (.mark "=" :: (← nested.type true).tokens)
      else pure []
    return lead ++ .mark name :: colonBounds (bounds.map (·.tokens)) ++ default

def binder (nested : Nested) : Reader (List Token) := do
  expectWord "for"
  expect "<"
  let (items, _) ← separatedBy "," (atOperator ">") (binderItem nested)
  expect ">"
  return .mark "for" :: angles (commas items)

def trait (nested : Nested) : Reader (List Token) := do
  let lead ← if ← atWord "for" then binder nested else operator? "?"
  let path ← path nested false
  let opens : Reader Bool := do
    let lexemes ← get
    match (afterOperator "::".toList lexemes).getD lexemes with
    | .opening .round :: _ => return true
    | _ => return false
  if path.isOpen && (← opens) then
    let _ ← accept "::"
    return lead ++ path.tokens ++ (← inputs nested)
  else return lead ++ path.tokens

def bound (nested : Nested) : Reader BoundPhrase := do
  if ← atLifetime then return ⟨← lifetime, none⟩
  else if ← atOpening .round then
    let inner ← within .round (trait nested)
    return ⟨parens inner, some inner⟩
  else
    let tokens ← trait nested
    return ⟨tokens, some tokens⟩

def startsBound : Reader Bool := do
  match ← get with
  | .word _ :: _ | .lifetime _ :: _ | .opening .round :: _ | .point '?' _ :: _ => return true
  | _ => atOperator "::"

/-- The bounds after a first one. With `strict` a plus sign has a bound after it; without, the last
one may stand alone. Also whether it does. -/
def furtherBounds (one : Reader BoundPhrase) (strict : Bool) :
    Reader (List BoundPhrase × Bool) := do
  let (list, trailing) ← repeatOn (([], false) : List BoundPhrase × Bool) fun (list, trailing) => do
    if trailing then return none
    else if ← accept "+" then
      let follows ← startsBound
      if strict || follows then return some ((← one) :: list, false)
      else return some (list, true)
    else return none
  return (list.reverse, trailing)

end Reader

end Typewright.Source
