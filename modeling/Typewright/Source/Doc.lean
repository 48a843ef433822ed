import Typewright.Source.Token

/-! Documentation comments. A comment of one line ends before its trailing spaces; one of several
lines is a block, whose inner lines end before theirs, unless its text would open or close a block. -/
namespace Typewright.Source

def trimSpaces (cs : List Char) : List Char := (cs.reverse.dropWhile (· == ' ')).reverse

def isBalanced : (depth : Nat) → List Char → Bool
  | depth, '/' :: '*' :: rest => isBalanced (depth + 1) rest
  | 0, '*' :: '/' :: _ => false
  | depth + 1, '*' :: '/' :: rest => isBalanced depth rest
  | depth, [] => depth == 0
  | depth, _ :: rest => isBalanced depth rest

def isBlockText (cs : List Char) : Bool := isBalanced 0 cs && cs.getLast? != some '/'

/-- Every line but the last without its trailing spaces. -/
def trimInnerLines : List (List Char) → List (List Char)
  | [] => []
  | [last] => [last]
  | line :: rest => trimSpaces line :: trimInnerLines rest

def docText (text : String) : String :=
  let cs := text.toList
  let lines := Text.pieces (· != '\n') cs
  if lines.length ≤ 1 then String.ofList (trimSpaces cs)
  else if isBlockText cs then String.ofList (['\n'].intercalate (trimInnerLines lines))
  else text

def outerDoc (text : String) : List Token :=
  .mark "#" :: brackets (marks "doc =" ++ [.literal (docText text)])

def innerDoc (text : String) : List Token :=
  marks "# !" ++ brackets (marks "doc =" ++ [.literal (docText text)])

end Typewright.Source
