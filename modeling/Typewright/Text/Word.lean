import Typewright.Text.Cut
import Typewright.Text.LetterCase

/-! The words of a name, and the three spellings made of them: `UpperCamel`, `snake_case` and
`SHOUTY_CASE`. -/
namespace Typewright.Text

inductive Mode where
  | fresh
  | lower
  | upper
deriving DecidableEq

def Mode.after (mode : Mode) (c : Char) : Mode :=
  if isLowercase c then .lower else if isUppercase c then .upper else mode

/-- A word ends before a capital that follows lower case, and before the last capital of a run
that lower case follows. -/
def humps (mode : Mode) (word : List Char) : List Char → List (List Char)
  | [] => [word]
  | [c] => [word ++ [c]]
  | c :: next :: rest =>
    if mode.after c = .lower ∧ isUppercase next then
      (word ++ [c]) :: humps .fresh [] (next :: rest)
    else if mode = .upper ∧ isUppercase c ∧ isLowercase next then
      word :: humps .fresh [c] (next :: rest)
    else humps (mode.after c) (word ++ [c]) (next :: rest)

/-- Whatever is not alphanumeric separates words and is dropped. -/
def wordsOf (cs : List Char) : List (List Char) :=
  ((pieces isAlphanumeric cs).filter (· ≠ [])).flatMap (humps .fresh [])

def capitalized : List Char → List Char
  | [] => []
  | c :: rest => upperOf c ++ lowered rest

def upperCamel (s : String) : String := String.ofList ((wordsOf s.toList).flatMap capitalized)

def snakeCase (s : String) : String :=
  String.ofList (['_'].intercalate ((wordsOf s.toList).map lowered))

def shoutyCase (s : String) : String :=
  String.ofList (['_'].intercalate ((wordsOf s.toList).map uppered))

end Typewright.Text
