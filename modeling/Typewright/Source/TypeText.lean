import Typewright.Source.Phrase.Statement

/-! Reading the text of an external type. What is read comes back as tokens in their canonical
form. -/
namespace Typewright.Source

namespace Nested

def none : Nested where
  type _ := failure
  bound := failure
  expr _ := failure
  unary _ := failure
  early := failure
  conditional := failure
  statement := failure
  pattern := failure
  single := failure

def above (nested : Nested) : Nested where
  type := Reader.type nested
  bound := Reader.bound nested
  expr := Reader.expr nested
  unary := Reader.unary nested
  early := Reader.earlyExpr nested
  conditional := Reader.conditional nested
  statement := Reader.statement nested
  pattern := Reader.pattern nested
  single := Reader.single nested

def ofDepth : Nat → Nested
  | 0 => none
  | depth + 1 => (ofDepth depth).above

end Nested

/-- The tokens of lexemes that are one whole type. Each step deeper takes a lexeme. -/
def typeOf (given : List Lexeme) : Option (List Token) := do
  let (type, rest) ← ((Nested.ofDepth (given.length + 1)).type true).run given
  if rest.isEmpty then some type.tokens else none

def typeTokens? (text : String) : Option (List Token) := do typeOf (← lexemes text)

/-- Whether the text is one whole type also after an ampersand, which bounds at its top are not. -/
def mayBeBorrowed (text : String) : Bool :=
  (lexemes text).any fun given => (typeOf (.point '&' false :: given)).isSome

end Typewright.Source
