import Typewright.Source.Ident

/-! Readers: they take lexemes from the front, or fail. What a reader does not take is left to the
next one. -/
namespace Typewright.Source

abbrev Reader := StateT (List Lexeme) Option

namespace Reader

def next : Reader Lexeme := do
  match ← get with
  | [] => failure
  | lexeme :: rest => set rest; return lexeme

/-- Whether an operator comes next. The operators that it starts count too. -/
def atOperator (operator : String) : Reader Bool := do return startsWith operator (← get)

def accept (operator : String) : Reader Bool := do
  match afterOperator operator.toList (← get) with
  | some rest => set rest; return true
  | none => return false

def expect (operator : String) : Reader Unit := do
  if ← accept operator then return () else failure

def atWord (word : String) : Reader Bool := do return (← get).head? == some (.word word)

def acceptWord (word : String) : Reader Bool := do
  match ← get with
  | .word text :: rest => if text = word then set rest; return true else return false
  | _ => return false

def expectWord (word : String) : Reader Unit := do
  if ← acceptWord word then return () else failure

def word? (word : String) : Reader (List Token) := do
  if ← acceptWord word then return [.mark word] else return []

def operator? (operator : String) : Reader (List Token) := do
  if ← accept operator then return [.mark operator] else return []

def atOpening (bracket : Bracket) : Reader Bool := do
  return (← get).head? == some (.opening bracket)

/-- Whether nothing is left between the brackets around what is read. -/
def atEnd : Reader Bool := do
  match ← get with
  | [] | .closing _ :: _ => return true
  | _ => return false

def within (bracket : Bracket) (inner : Reader α) : Reader α := do
  if (← next) != .opening bracket then failure
  let value ← inner
  if (← next) == .closing bracket then return value else failure

def verbatim : Reader (List Token) := do
  match ← next with
  | .opening bracket =>
    let (inner, rest) := splitClosing 0 (← get)
    set rest
    return bracket.around (tokensOf inner)
  | _ => failure

def ident : Reader String := do
  match ← next with
  | .word text => if isIdentWord text then return text else failure
  | _ => failure

def atLifetime : Reader Bool := do
  match ← get with
  | .lifetime _ :: _ => return true
  | _ => return false

def lifetime : Reader (List Token) := do
  match ← next with
  | .lifetime text => return [.mark text]
  | _ => failure

def lifetime? : Reader (List Token) := do
  if ← atLifetime then lifetime else return []

/-- Repeats a step on a value until the step gives none. A step that gives one takes a lexeme, so
the work ends before `rounds` do. -/
def repeatFor (step : α → Reader (Option α)) : (rounds : Nat) → α → Reader α
  | 0, value => return value
  | rounds + 1, value => do
    match ← step value with
    | some value => repeatFor step rounds value
    | none => return value

def repeatOn (value : α) (step : α → Reader (Option α)) : Reader α := do
  repeatFor step ((← get).length + 1) value

def manyUntil (stop : Reader Bool) (item : Reader α) : Reader (List α) := do
  let items ← repeatOn [] fun items => do
    if ← stop then return none else return some ((← item) :: items)
  return items.reverse

/-- Items up to the end, with the separator between them and perhaps one after the last; and
whether there is one. -/
def separatedBy (separator : String) (stop : Reader Bool) (item : Reader α) :
    Reader (List α × Bool) := do
  let (items, _, trailing) ← repeatOn (([], true, false) : List α × Bool × Bool)
    fun (items, more, trailing) => do
      if !more then return none
      else if ← stop then return some (items, false, trailing)
      else
        let first ← item
        let parted ← accept separator
        return some (first :: items, parted, parted)
  return (items.reverse, trailing)

def commaItems (item : Reader α) : Reader (List α) := do
  return (← separatedBy "," atEnd item).1

end Reader

end Typewright.Source
