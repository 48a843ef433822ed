import Typewright.Ascending
import Typewright.Text.Cut

/-! Names of generated items: an identifier in a dotted namespace. -/
namespace Typewright

@[ext]
structure QualifiedName where
  namespacePath : String
  identifier : String
deriving DecidableEq, Inhabited

namespace QualifiedName

/-- The namespace in steps, outermost first; doubled, leading and trailing dots add no step. -/
def segments (name : QualifiedName) : List String :=
  (Text.splitAt '.' name.namespacePath).filter (· ≠ "")

def display (name : QualifiedName) : String :=
  if name.namespacePath = "" then name.identifier else s!"{name.namespacePath}.{name.identifier}"

/-- Namespaces first, identifiers where those agree. -/
def before (a b : QualifiedName) : Bool :=
  a.namespacePath < b.namespacePath ||
    (a.namespacePath == b.namespacePath && a.identifier < b.identifier)

def sorted (names : List QualifiedName) : List QualifiedName := ascending before names

end QualifiedName

end Typewright
