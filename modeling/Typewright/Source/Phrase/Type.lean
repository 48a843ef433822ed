import Typewright.Source.Phrase.Path

/-! Types. -/
namespace Typewright.Source

/-- Bounds as a type have their keyword, also where the text leaves it out. A single trait may
become the first of more bounds. -/
def TypePhrase.ofBounds (first : BoundPhrase) (further : List BoundPhrase) (trailing : Bool) :
    TypePhrase where
  tokens := .mark "dyn" :: plusses ((first :: further).map (·.tokens))
  bound? := if further.isEmpty && !trailing then first.trait? else none

namespace Reader

def traits (nested : Nested) (plus : Bool) (captures : Bool) : Reader (List Token) := do
  let capture : Reader (List Token) := do
    expectWord "use"
    expect "<"
    let (items, _) ← separatedBy "," (atOperator ">") do
      if ← atLifetime then lifetime
      else if ← acceptWord "Self" then return [.mark "Self"]
      else return [.mark (← ident)]
    expect ">"
    return .mark "use" :: angles (commas items)
  let one : Reader BoundPhrase := do
    let captured ← atWord "use"
    if captures && captured then return ⟨← capture, none⟩ else bound nested
  let first ← one
  let (further, _) ← if plus then furtherBounds one false else pure ([], false)
  if (first :: further).any (·.trait?.isSome) then
    return plusses ((first :: further).map (·.tokens))
  else failure

def parenthesized (nested : Nested) (plus : Bool) : Reader TypePhrase := do
  let atMark : Reader Bool := do
    match ← get with
    | _ :: .point '?' _ :: _ => return true
    | _ => return false
  if ← atMark then
    let inner ← within .round (trait nested)
    let (further, _) ← furtherBounds (bound nested) true
    return .ofBounds ⟨parens inner, some inner⟩ further false
  else
    let (items, several) ← within .round (separatedBy "," atEnd (nested.type true))
    match items, several with
    | [type], false =>
      let follows ← atOperator "+"
      match type.bound? with
      | some inner =>
        if plus && follows then
          let (further, _) ← furtherBounds (bound nested) true
          return .ofBounds ⟨parens inner, some inner⟩ further false
        else return { tokens := parens type.tokens }
      | none => return { tokens := parens type.tokens }
    | _, _ => return { tokens := parens (commas (items.map (·.tokens))) }

def atVariadic : Reader Bool := do
  match ← get with
  | .word text :: .point ':' _ :: rest =>
    return (isIdentWord text || text == "_") && startsWith "..." rest
  | _ => atOperator "..."

def pointerInput (nested : Nested) (first : Bool) : Reader (List Token) := do
  let lead ← attributes nested
  match ← get with
  | .word text :: rest =>
    match rest with
    | .point ':' _ :: after =>
      let named := isIdentWord text || text == "_" || (first && text == "self")
      if named && !startsWith "::" rest then
        set after
        return lead ++ .mark text :: .mark ":" :: (← nested.type true).tokens
      else return lead ++ (← nested.type true).tokens
    | _ => return lead ++ (← nested.type true).tokens
  | _ => return lead ++ (← nested.type true).tokens

def variadic (nested : Nested) : Reader (List Token) := do
  let lead ← attributes nested
  let name ← if ← atOperator "..." then pure [] else do
    match ← next with
    | .word text => expect ":"; pure [Token.mark text, .mark ":"]
    | _ => failure
  expect "..."
  let _ ← accept ","
  return lead ++ name ++ [.mark "..."]

def pointer (nested : Nested) (lead : List Token) : Reader (List Token) := do
  let lead := lead ++ (← word? "unsafe")
  let linkage ← if ← acceptWord "extern" then
      match ← get with
      | .text value :: rest => set rest; pure [Token.mark "extern", .literal value]
      | _ => pure [.mark "extern"]
    else pure []
  expectWord "fn"
  let items ← within .round do
    let (items, _) ← repeatOn (([], true) : List (List Token) × Bool) fun (items, more) => do
      let ended ← atEnd
      if !more || ended then return none
      else if ← atVariadic then return some ((← variadic nested) :: items, false)
      else
        let item ← pointerInput nested items.isEmpty
        return some (item :: items, ← accept ",")
    return items.reverse
  return lead ++ linkage ++ .mark "fn" :: parens (commas items) ++ (← result nested)

def macroCall (path : List Token) : Reader (Bracket × List Token) := do
  expect "!"
  match ← get with
  | .opening bracket :: _ => return (bracket, path ++ .mark "!" :: (← verbatim))
  | _ => failure

def atMacro (path : PathPhrase) : Reader Bool := do
  let lexemes ← get
  return path.isPlain && startsWith "!" lexemes && !startsWith "!=" lexemes

def pathType (nested : Nested) (plus : Bool) (binder : List Token) : Reader TypePhrase := do
  let path ← path nested false
  if ← atMacro path then return { tokens := (← macroCall path.tokens).2 }
  else
    let tokens := binder ++ path.tokens
    let (further, trailing) ← if plus then furtherBounds (bound nested) false else pure ([], false)
    if binder.isEmpty && further.isEmpty && !trailing then
      return { tokens := tokens, bound? := some tokens, isName := path.isName }
    else return .ofBounds ⟨tokens, some tokens⟩ further trailing

def sequence (nested : Nested) : Reader (List Token) := do
  let inner ← within .square do
    let element := (← nested.type true).tokens
    if ← accept ";" then return element ++ .mark ";" :: (← nested.expr true).tokens
    else return element
  return brackets inner

/-- A type. With `plus`, bounds may follow one another at its top. -/
def type (nested : Nested) (plus : Bool) : Reader TypePhrase := do
  let binds ← atWord "for"
  let binder ← if binds then binder nested else pure []
  match ← get with
  | .word text :: _ =>
    if ["fn", "unsafe", "extern"].contains text then
      return { tokens := ← pointer nested binder }
    else if isIdentWord text || pathWords.contains text then pathType nested plus binder
    else if binds then failure
    else
      let _ ← next
      match text with
      | "_" => return { tokens := [.mark "_"] }
      | "dyn" => return { tokens := .mark "dyn" :: (← traits nested plus false) }
      | "impl" => return { tokens := .mark "impl" :: (← traits nested plus true) }
      | _ => failure
  | lexeme :: rest =>
    if binds then failure
    else
      match lexeme with
      | .opening .round => parenthesized nested plus
      | .opening .square => return { tokens := ← sequence nested }
      | .lifetime _ =>
        let first ← bound nested
        let (further, trailing) ← furtherBounds (bound nested) false
        if further.any (·.trait?.isSome) then return .ofBounds first further trailing else failure
      | .point '*' _ =>
        set rest
        match ← next with
        | .word "const" =>
          return { tokens := .mark "*" :: .mark "const" :: (← nested.type false).tokens }
        | .word "mut" =>
          return { tokens := .mark "*" :: .mark "mut" :: (← nested.type false).tokens }
        | _ => failure
      | .point '&' _ =>
        set rest
        let lifetime ← lifetime?
        let mutable ← word? "mut"
        return { tokens := .mark "&" :: lifetime ++ mutable ++ (← nested.type false).tokens }
      | .point '!' _ =>
        set rest
        return { tokens := [.mark "!"] }
      | .point '<' _ => return { tokens := ← qualifiedPath nested false }
      | .point ':' _ => pathType nested plus []
      | _ => failure
  | [] => failure

end Reader

end Typewright.Source
