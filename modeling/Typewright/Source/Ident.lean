import Typewright.Fault
import Typewright.Source.Lexeme.Scan
import Typewright.Text.Word

/-! Identifiers of generated source. -/
namespace Typewright.Source

/-- Spelt so that no reserved word is read in its place. -/
structure Ident where
  text : String
deriving DecidableEq

def reservedWords : List String := [
  "as", "break", "const", "continue", "else", "enum", "extern", "false", "fn", "for", "if", "impl",
  "in", "let", "loop", "match", "mod", "move", "mut", "pub", "ref", "return", "static", "struct",
  "trait", "true", "type", "unsafe", "use", "where", "while", "async", "await", "dyn", "abstract",
  "become", "box", "do", "final", "macro", "override", "priv", "typeof", "unsized", "virtual",
  "yield", "try"]

def isIdentWord (word : String) : Bool := !("_" :: pathWords ++ reservedWords).contains word

/-- The identifier of a name: reserved words are escaped, and any other text has to be one word. -/
def Ident.ofName (name : String) : Except RenderFault Ident :=
  if name ∈ pathWords then .ok ⟨name ++ "_"⟩
  else if name ∈ reservedWords then .ok ⟨"r#" ++ name⟩
  else
    match lexemes name with
    | some [.word word] => if isIdentWord word then .ok ⟨word⟩ else .error (.badIdentifier name)
    | _ => .error (.badIdentifier name)

def Ident.ofField (name : String) : Except RenderFault Ident :=
  Ident.ofName (Text.snakeCase name)

/-- `crate`, the segments of a namespace, and the item in it. -/
structure ItemPath where
  segments : List Ident
  item : Ident
deriving DecidableEq

def ItemPath.ofName (name : QualifiedName) : Except RenderFault ItemPath := do
  return ⟨← name.segments.mapM Ident.ofName, ← Ident.ofName name.identifier⟩

end Typewright.Source
