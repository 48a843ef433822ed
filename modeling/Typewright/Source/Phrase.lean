import Typewright.Source.Reader

/-! Phrases: what is read of source text. A phrase keeps its tokens in their canonical form, and
what the reading of more text after it hangs on. -/
namespace Typewright.Source

structure PathPhrase where
  tokens : List Token
  /-- Whether it has no arguments at all. -/
  isPlain : Bool
  /-- Whether it is one word, with or without arguments. -/
  isName : Bool
  /-- Whether its last word has no arguments. -/
  isOpen : Bool

structure TypePhrase where
  tokens : List Token
  /-- The type as a bound, if it can be one. -/
  bound? : Option (List Token) := none
  isName : Bool := false

structure BoundPhrase where
  tokens : List Token
  /-- A trait without the brackets around it; a lifetime is none. -/
  trait? : Option (List Token)

structure PatternPhrase where
  tokens : List Token
  /-- Whether it is a range that lacks one of its ends. -/
  isHalfOpen : Bool := false

structure ExprPhrase where
  tokens : List Token
  /-- The phrase as the body of an arm. -/
  arm : List Token := tokens
  /-- The phrase as the body of a closure. -/
  body : List Token := tokens
  isRange : Bool := false
  isComparison : Bool := false
  /-- Whether it may stand before another statement as it is. -/
  standsAlone : Bool := false
  /-- The bracket of a macro call. -/
  macroBracket? : Option Bracket := none
  /-- Whether a semicolon is written after it at the end of a block. -/
  gainsSemicolon : Bool := false
  /-- Whether no semicolon is written after it among statements. -/
  losesSemicolon : Bool := false
  endsInBrace : Bool := false

def ExprPhrase.plain (tokens : List Token) : ExprPhrase := { tokens := tokens }

inductive Statement where
  | empty
  | expr (phrase : ExprPhrase) (semicolon : Bool)
  | declaration (tokens : List Token)

structure Nested where
  /-- Where `plus` is set, bounds may follow one another. -/
  type : (plus : Bool) → Reader TypePhrase
  bound : Reader BoundPhrase
  /-- Where `braces` is set, a brace after a path opens its fields. -/
  expr : (braces : Bool) → Reader ExprPhrase
  unary : (braces : Bool) → Reader ExprPhrase
  /-- An expression that ends with the first block, if it starts with one. -/
  early : Reader ExprPhrase
  conditional : Reader ExprPhrase
  statement : Reader Statement
  /-- Alternatives, with a bar between them. -/
  pattern : Reader PatternPhrase
  single : Reader PatternPhrase

end Typewright.Source
