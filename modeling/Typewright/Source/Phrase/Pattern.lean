import Typewright.Source.Phrase.Type

/-! Patterns. -/
namespace Typewright.Source

namespace Reader

def atBar : Reader Bool := do
  let lexemes ← get
  return startsWith "|" lexemes && !startsWith "||" lexemes && !startsWith "|=" lexemes

def rangeEnd? (nested : Nested) : Reader (Option (List Token)) := do
  let lexemes ← get
  let ended ← atEnd
  if ended || ["|", "=", ",", ";"].any (startsWith · lexemes) ||
      (startsWith ":" lexemes && !startsWith "::" lexemes) ||
      lexemes.head? == some (.word "if") then
    return none
  else
    match ← literal? with
    | some tokens => return some tokens
    | none =>
      if ← acceptWord "const" then return some (.mark "const" :: (← smallBlock nested))
      else if startsWith "<" lexemes then return some (← qualifiedPath nested true)
      else return some (← path nested true).tokens

/-- The points of a range in a pattern; three of them count as two with an equals sign. -/
def rangePoints : Reader String := do
  if ← accept "..=" then return "..="
  else if ← accept "..." then return "..="
  else
    expect ".."
    return ".."

/-- A range after its start. Only the open kind may lack its end. -/
def rangeFrom (nested : Nested) (start : List Token) : Reader PatternPhrase := do
  let points ← rangePoints
  match ← rangeEnd? nested with
  | some last => return { tokens := start ++ .mark points :: last }
  | none =>
    if points = ".." then return { tokens := start ++ [.mark points], isHalfOpen := true }
    else failure

def member : Reader (List Token × Bool) := do
  match ← next with
  | .word text => if isIdentWord text then return ([.mark text], true) else failure
  | .number text => if text.all Char.isDigit then return ([.mark text], false) else failure
  | _ => failure

def fieldPattern (nested : Nested) : Reader (List Token) := do
  let mode := (← word? "ref") ++ (← word? "mut")
  let (name, named) ← member
  let parted ← atOperator ":"
  if mode.isEmpty && (parted || !named) then
    expect ":"
    return name ++ .mark ":" :: (← nested.pattern).tokens
  else if named then return mode ++ name
  else failure

def fieldPatterns (nested : Nested) : Reader (List Token) := do
  let items ← within .curly do
    let (items, _) ← repeatOn (([], true) : List (List Token) × Bool) fun (items, more) => do
      let ended ← atEnd
      if !more || ended then return none
      else
        let lead ← attributes nested
        if ← accept ".." then return some ((lead ++ [.mark ".."]) :: items, false)
        else
          let item ← fieldPattern nested
          return some ((lead ++ item) :: items, ← accept ",")
    return items.reverse
  return braces (commas items)

def pathPattern (nested : Nested) : Reader PatternPhrase := do
  let (tokens, isMacro) ← if ← atOperator "<" then
      pure (← qualifiedPath nested true, false)
    else do
      let path ← path nested true
      pure (path.tokens, ← atMacro path)
  if isMacro then return { tokens := (← macroCall tokens).2 }
  else
    match ← get with
    | .opening .curly :: _ => return { tokens := tokens ++ (← fieldPatterns nested) }
    | .opening .round :: _ =>
      let items ← within .round (commaItems nested.pattern)
      return { tokens := tokens ++ parens (commas (items.map (·.tokens))) }
    | lexemes =>
      if startsWith ".." lexemes then rangeFrom nested tokens else return { tokens := tokens }

def namePattern (nested : Nested) : Reader (List Token) := do
  let mode := (← word? "ref") ++ (← word? "mut")
  let name ← if ← acceptWord "self" then pure "self" else ident
  if ← accept "@" then return mode ++ .mark name :: .mark "@" :: (← nested.single).tokens
  else return mode ++ [.mark name]

def leadsPath (rest : List Lexeme) : Bool :=
  startsWith "::" rest || startsWith "!" rest || startsWith ".." rest ||
    rest.head? == some (.opening .curly) || rest.head? == some (.opening .round)

/-- Patterns between square brackets. A range that lacks an end needs parentheses there. -/
def slicePattern (nested : Nested) : Reader (List Token) := do
  let items ← within .square (commaItems nested.pattern)
  if items.any (·.isHalfOpen) then failure
  else return brackets (commas (items.map (·.tokens)))

def single (nested : Nested) : Reader PatternPhrase := do
  let lexemes ← get
  match lexemes with
  | .word text :: rest =>
    if text = "_" then
      let _ ← next
      return { tokens := [.mark "_"] }
    else if ["true", "false", "const"].contains text then
      match ← rangeEnd? nested with
      | some tokens =>
        if ← atOperator ".." then rangeFrom nested tokens else return { tokens := tokens }
      | none => failure
    else if ["Self", "super", "crate"].contains text ||
        (leadsPath rest && isIdentWord text) || (text == "self" && startsWith "::" rest) then
      pathPattern nested
    else return { tokens := ← namePattern nested }
  | .opening .round :: _ =>
    let items ← within .round (commaItems nested.pattern)
    return { tokens := parens (commas (items.map (·.tokens))) }
  | .opening .square :: _ => return { tokens := ← slicePattern nested }
  | .point '&' _ :: rest =>
    set rest
    let mutable ← word? "mut"
    return { tokens := .mark "&" :: mutable ++ (← nested.single).tokens }
  | _ =>
    if startsWith "<" lexemes || startsWith "::" lexemes then pathPattern nested
    else if startsWith ".." lexemes && !startsWith "..." lexemes then
      let points ← rangePoints
      match ← rangeEnd? nested with
      | some last => return { tokens := .mark points :: last, isHalfOpen := true }
      | none =>
        if points = ".." then return { tokens := [.mark ".."] } else failure
    else
      match ← literal? with
      | some tokens =>
        if ← atOperator ".." then rangeFrom nested tokens else return { tokens := tokens }
      | none => failure

/-- Alternatives with a bar between them, and perhaps one in front, which goes. -/
def pattern (nested : Nested) : Reader PatternPhrase := do
  let led ← accept "|"
  let first ← single nested
  let rest ← manyUntil (do return !(← atBar)) do
    expect "|"
    return .mark "|" :: (← single nested).tokens
  if led || !rest.isEmpty then return { tokens := first.tokens ++ rest.flatten }
  else return first

end Reader

end Typewright.Source
