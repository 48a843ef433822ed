import Typewright.Source.Phrase.Control

/-! Expressions: atoms, what follows them, and operators. -/
namespace Typewright.Source

inductive Strength where
  | least
  | assign
  | range
  | or
  | and
  | compare
  | bitOr
  | bitXor
  | bitAnd
  | shift
  | sum
  | product
  | cast
deriving DecidableEq

namespace Strength

def rank : Strength → Nat
  | least => 0
  | assign => 1
  | range => 2
  | or => 3
  | and => 4
  | compare => 5
  | bitOr => 6
  | bitXor => 7
  | bitAnd => 8
  | shift => 9
  | sum => 10
  | product => 11
  | cast => 12

end Strength

/-- Operators between two operands, the longer ones first. -/
def binaryOperators : List (String × Strength) := [
  ("<<=", .assign), (">>=", .assign), ("+=", .assign), ("-=", .assign), ("*=", .assign),
  ("/=", .assign), ("%=", .assign), ("^=", .assign), ("&=", .assign), ("|=", .assign),
  ("&&", .and), ("||", .or), ("<<", .shift), (">>", .shift), ("==", .compare), ("<=", .compare),
  ("!=", .compare), (">=", .compare), ("+", .sum), ("-", .sum), ("*", .product), ("/", .product),
  ("%", .product), ("^", .bitXor), ("&", .bitAnd), ("|", .bitOr), ("<", .compare), (">", .compare)]

inductive Joint where
  | binary (operator : String) (strength : Strength)
  | assign
  | range
  | cast
  | none

def Joint.strength : Joint → Strength
  | binary _ strength => strength
  | assign => .assign
  | range => .range
  | cast => .cast
  | none => .least

def jointAt (lexemes : List Lexeme) : Joint :=
  match binaryOperators.find? fun (operator, _) => startsWith operator lexemes with
  | some (operator, strength) => .binary operator strength
  | none =>
    if startsWith "=" lexemes && !startsWith "=>" lexemes then .assign
    else if startsWith ".." lexemes then .range
    else if lexemes.head? == some (.word "as") then .cast
    else .none

def startsLiteral : List Lexeme → Bool
  | .number _ :: _ | .literal _ :: _ | .text _ :: _ => true
  | .point '-' _ :: .number _ :: _ => true
  | _ => false

def startsExpr (lexemes : List Lexeme) : Bool :=
  match lexemes with
  | .word text :: _ => text != "as"
  | .lifetime _ :: _ | .opening _ :: _ => true
  | _ =>
    let starts (operator : String) (others : List String) : Bool :=
      startsWith operator lexemes && !others.any (startsWith · lexemes)
    startsLiteral lexemes || starts "!" ["!="] || starts "-" ["-=", "->"] || starts "*" ["*="] ||
      starts "|" ["|="] || starts "&" ["&="] || starts ".." [] || starts "<" ["<=", "<<="] ||
      starts "::" [] || starts "#" []

def endsRange (fields : Bool) (lexemes : List Lexeme) : Bool :=
  match lexemes with
  | [] | .closing _ :: _ => true
  | .word "as" :: _ => true
  | .opening .curly :: _ => !fields
  | _ =>
    [",", ";", "?", "=>", "=", "+", "/", "%", "^", ">", "<=", "!=", "-=", "*=", "&=", "|=",
      "<<="].any (startsWith · lexemes) ||
      (startsWith "." lexemes && !startsWith ".." lexemes)

def placesOf (number : String) : Option (List String) :=
  let places := Text.splitAt '.' number
  if places.all fun place => place != "" && place.all Char.isDigit then some places else none

namespace Reader

def callInputs (nested : Nested) : Reader (List Token) := do
  let items ← within .round (commaItems (nested.expr true))
  return parens (commas (items.map (·.tokens)))

def selection (nested : Nested) : Reader (List Token) := do
  match ← next with
  | .number text =>
    match placesOf text with
    | some places => return places.flatMap fun place => [.mark ".", .mark place]
    | none => failure
  | .word text =>
    if text = "await" then return [.mark ".", .mark text]
    else if isIdentWord text then
      let turbofish ← atOperator "::"
      let list ← if turbofish then do
          expect "::"
          let list ← arguments nested
          pure (if list.isEmpty then [] else .mark "::" :: list)
        else pure []
      if turbofish || (← atOpening .round) then
        return .mark "." :: .mark text :: list ++ (← callInputs nested)
      else return [.mark ".", .mark text]
    else failure
  | _ => failure

def trailers (nested : Nested) (first : ExprPhrase) : Reader ExprPhrase :=
  repeatOn first fun phrase => do
    let lexemes ← get
    match lexemes with
    | .opening .round :: _ => return some (.plain (phrase.tokens ++ (← callInputs nested)))
    | .opening .square :: _ =>
      let index ← within .square (nested.expr true)
      return some (.plain (phrase.tokens ++ brackets index.tokens))
    | _ =>
      if phrase.isRange then return none
      else if startsWith "." lexemes && !startsWith ".." lexemes then
        expect "."
        return some (.plain (phrase.tokens ++ (← selection nested)))
      else if ← accept "?" then return some (.plain (phrase.tokens ++ [.mark "?"]))
      else return none

def fieldValues (nested : Nested) : Reader (List Token) := do
  let items ← within .curly do
    let (items, _) ← repeatOn (([], true) : List (List Token) × Bool) fun (items, more) => do
      let ended ← atEnd
      if !more || ended then return none
      else if ← accept ".." then
        let rest ← if ← atEnd then pure [] else pure (← nested.expr true).tokens
        return some ((.mark ".." :: rest) :: items, false)
      else
        let lead ← attributes nested
        let (name, named) ← member
        let parted ← atOperator ":"
        if parted || !named then
          expect ":"
          let value ← nested.expr true
          return some ((lead ++ name ++ .mark ":" :: value.tokens) :: items, ← accept ",")
        else return some ((lead ++ name) :: items, ← accept ",")
    return items.reverse
  return braces (commas items)

def pathExpr (nested : Nested) (fields : Bool) : Reader ExprPhrase := do
  let qualified ← atOperator "<"
  let (tokens, isMacro) ← if qualified then pure (← qualifiedPath nested true, false)
    else do
      let path ← path nested true
      pure (path.tokens, ← atMacro path)
  if isMacro then
    let (bracket, tokens) ← macroCall tokens
    return { tokens := tokens, macroBracket? := some bracket, endsInBrace := bracket == .curly }
  else
    let braced ← atOpening .curly
    if fields && braced then
      return { tokens := tokens ++ (← fieldValues nested), endsInBrace := true }
    else return .plain tokens

/-- An expression in parentheses, or several of them. No expression at all is the unit, for which
an arm shows an empty block. -/
def parenthesizedExpr (nested : Nested) : Reader ExprPhrase := do
  let items ← within .round (commaItems (nested.expr true))
  let tokens := parens (commas (items.map (·.tokens)))
  return { tokens := tokens, arm := if items.isEmpty then braces [] else tokens }

def arrayExpr (nested : Nested) : Reader ExprPhrase := do
  let inner ← within .square do
    if ← atEnd then return []
    else
      let first ← nested.expr true
      if ← accept ";" then return first.tokens ++ .mark ";" :: (← nested.expr true).tokens
      else if ← accept "," then
        return commas (first.tokens :: (← commaItems (nested.expr true)).map (·.tokens))
      else return first.tokens
  return .plain (brackets inner)

def jump (nested : Nested) (fields : Bool) (lead : List Token) : Reader ExprPhrase := do
  let lexemes ← get
  let braced ← atOpening .curly
  if startsExpr lexemes && (fields || !braced) then
    let value ← nested.expr fields
    return {
      tokens := lead ++ value.tokens, gainsSemicolon := true, endsInBrace := value.endsInBrace }
  else return { tokens := lead, gainsSemicolon := true }

def jumpLabel? : Reader (List Token) := do
  match ← get with
  | .lifetime text :: rest =>
    if startsWith ":" rest then failure
    set rest
    return [.mark text]
  | _ => return []

def startsClosure (lexemes : List Lexeme) : Bool :=
  match lexemes with
  | .word "move" :: _ | .word "static" :: _ => true
  | .word "const" :: rest => rest.head? != some (.opening .curly)
  | .word "async" :: rest => startsWith "|" rest || rest.head? == some (.word "move")
  | .word "for" :: .point '<' _ :: rest =>
    match rest with
    | .lifetime _ :: _ | .point '>' _ :: _ => true
    | _ => false
  | _ => startsWith "|" lexemes

def startsAsync : List Lexeme → Bool
  | .word "async" :: .opening .curly :: _ => true
  | .word "async" :: .word "move" :: .opening .curly :: _ => true
  | _ => false

def asyncExpr (nested : Nested) : Reader ExprPhrase := do
  expectWord "async"
  let move ← word? "move"
  return { tokens := .mark "async" :: move ++ (← smallBlock nested), endsInBrace := true }

def blockLike? (nested : Nested) : Reader (Option ExprPhrase) := do
  match ← get with
  | .word "if" :: _ => return some (← conditional nested)
  | .word "match" :: _ => return some (← matchExpr nested)
  | .word "unsafe" :: _ => return some (← wordBlock nested "unsafe")
  | .word "try" :: .opening .curly :: _ => return some (← wordBlock nested "try")
  | .word "const" :: .opening .curly :: _ => return some (← wordBlock nested "const")
  | .opening .curly :: _ => return some (← blockExpr nested)
  | .lifetime _ :: _ => return some (← labelled nested)
  | lexemes => if startsClosure lexemes then return none else loop? nested

def rangeUpTo (fields : Bool) (operand : Strength → Reader ExprPhrase) (lead : List Token) :
    Reader ExprPhrase := do
  let points ← if ← accept "..=" then pure "..="
    else if ← atOperator "..." then failure
    else do
      expect ".."
      pure ".."
  let lexemes ← get
  if points == ".." && endsRange fields lexemes then
    return { tokens := lead ++ [.mark points], isRange := true }
  else
    let last ← operand .range
    return {
      tokens := lead ++ .mark points :: last.tokens, isRange := true
      endsInBrace := last.endsInBrace }

/-- What no other expression is part of at its front. A range without a start and a condition that
binds need the operands of operators. -/
def atom (nested : Nested) (fields : Bool) (operand : Strength → Reader ExprPhrase) :
    Reader ExprPhrase := do
  match ← literal? with
  | some tokens => return .plain tokens
  | none =>
    let lexemes ← get
    if startsAsync lexemes then asyncExpr nested
    else if startsClosure lexemes then closure nested fields
    else
      match ← blockLike? nested with
      | some phrase => return phrase
      | none =>
        match lexemes with
        | .opening .round :: _ => parenthesizedExpr nested
        | .opening .square :: _ => arrayExpr nested
        | .word text :: rest =>
          match text with
          | "break" =>
            set rest
            let label ← jumpLabel?
            jump nested fields (.mark "break" :: label)
          | "continue" =>
            set rest
            let label ← lifetime?
            return { tokens := .mark "continue" :: label, gainsSemicolon := true }
          | "return" =>
            set rest
            jump nested true [.mark "return"]
          | "yield" =>
            set rest
            jump nested true [.mark "yield"]
          | "let" =>
            set rest
            let pattern ← nested.pattern
            expect "="
            let value ← operand .and
            return {
              tokens := .mark "let" :: pattern.tokens ++ .mark "=" :: value.tokens
              endsInBrace := value.endsInBrace }
          | "_" =>
            set rest
            return .plain [.mark "_"]
          | "try" =>
            if startsWith "!" rest || startsWith "::" rest then pathExpr nested fields else failure
          | _ => pathExpr nested fields
        | _ =>
          if startsWith ".." lexemes then rangeUpTo fields operand []
          else pathExpr nested fields

def unaryWith (nested : Nested) (fields : Bool) (operand : Strength → Reader ExprPhrase) :
    Reader ExprPhrase := do
  let lead ← attributes nested
  let signed (sign : List Token) : Reader ExprPhrase := do
    let value ← nested.unary fields
    return ExprPhrase.under lead
      { tokens := sign ++ value.tokens, endsInBrace := value.endsInBrace }
  match ← get with
  | .point '&' _ :: rest =>
    set rest
    let raw := match rest with
      | .word "raw" :: .word "mut" :: _ | .word "raw" :: .word "const" :: _ => true
      | _ => false
    if raw then
      let _ ← next
      match ← next with
      | .word mode => signed [.mark "&", .mark "raw", .mark mode]
      | _ => failure
    else
      let mutable ← word? "mut"
      signed (.mark "&" :: mutable)
  | .point c _ :: rest =>
    if c == '*' || c == '!' || c == '-' then
      set rest
      signed [.mark (String.ofList [c])]
    else
      let first ← atom nested fields operand
      if first.isRange && !lead.isEmpty then failure
      return .under lead (← trailers nested first)
  | _ =>
    let first ← atom nested fields operand
    return .under lead (← trailers nested first)

/-- No call, field or index follows the type of a cast. -/
def checkCast : Reader Unit := do
  match ← get with
  | .opening .square :: _ | .opening .round :: _ | .point '?' _ :: _ => failure
  | lexemes => if startsWith "." lexemes && !startsWith ".." lexemes then failure else return ()

mutual

/-- The operators after an expression that bind at least as strongly as `base`, with what they
bind. Comparisons are not chained, and nothing binds a range. -/
def climb (nested : Nested) (fields : Bool) :
    (fuel : Nat) → (base : Strength) → ExprPhrase → Reader ExprPhrase
  | 0, _, _ => failure
  | fuel + 1, base, left => do
    let joint := jointAt (← get)
    if left.isRange || joint.strength.rank < base.rank then return left
    else
      match joint with
      | .none => return left
      | .binary operator strength =>
        if strength = .compare && left.isComparison then failure
        else
          expect operator
          let right ← operand nested fields fuel strength
          climb nested fields fuel base {
            tokens := left.tokens ++ .mark operator :: right.tokens
            isComparison := strength = .compare
            gainsSemicolon := strength = .assign
            endsInBrace := right.endsInBrace }
      | .assign =>
        expect "="
        let right ← operand nested fields fuel .assign
        climb nested fields fuel base {
          tokens := left.tokens ++ .mark "=" :: right.tokens
          gainsSemicolon := true
          endsInBrace := right.endsInBrace }
      | .range =>
        let phrase ← rangeUpTo fields (operand nested fields fuel) left.tokens
        climb nested fields fuel base phrase
      | .cast =>
        expectWord "as"
        let type ← nested.type false
        checkCast
        climb nested fields fuel base (.plain (left.tokens ++ .mark "as" :: type.tokens))

/-- An operand, with the operators after it that bind more strongly than the one before it. -/
def operand (nested : Nested) (fields : Bool) : (fuel : Nat) → Strength → Reader ExprPhrase
  | 0, _ => failure
  | fuel + 1, strength => do
    let first ← unaryWith nested fields (operand nested fields fuel)
    extend nested fields fuel strength first

def extend (nested : Nested) (fields : Bool) :
    (fuel : Nat) → Strength → ExprPhrase → Reader ExprPhrase
  | 0, _, _ => failure
  | fuel + 1, strength, first => do
    let lexemes ← get
    let joint := (jointAt lexemes).strength
    if strength.rank < joint.rank || (joint == strength && strength == .assign) then
      let further ← climb nested fields fuel joint first
      if (← get).length < lexemes.length then extend nested fields fuel strength further
      else return further
    else return first

end

/-- Steps enough for every operator that is left: each takes a lexeme and at most three steps. -/
def operatorFuel : Reader Nat := do return 4 * ((← get).length + 1)

def unary (nested : Nested) (fields : Bool) : Reader ExprPhrase := do
  let fuel ← operatorFuel
  unaryWith nested fields (operand nested fields fuel)

def operators (nested : Nested) (fields : Bool) (first : ExprPhrase) : Reader ExprPhrase := do
  climb nested fields (← operatorFuel) .least first

def expr (nested : Nested) (fields : Bool) : Reader ExprPhrase := do
  operators nested fields (← unary nested fields)

/-- An expression at the front of a statement or of an arm. A block ends it, unless a point or a
question mark follows. -/
def earlyExpr (nested : Nested) : Reader ExprPhrase := do
  let lead ← attributes nested
  match ← blockLike? nested with
  | none => operators nested true (.under lead (← unary nested true))
  | some phrase =>
    let phrase := ExprPhrase.under lead phrase
    let lexemes ← get
    if (startsWith "." lexemes && !startsWith ".." lexemes) || startsWith "?" lexemes then
      operators nested true (← trailers nested phrase)
    else return phrase

end Reader

end Typewright.Source
