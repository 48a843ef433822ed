import Typewright.Schema.Value

/-! Directives and the set of them that a schema node carries. -/
namespace Typewright

structure Directive where
  name : String
  arguments : Dict Value

def Directive.argument? (directive : Directive) (name : String) : Option Value :=
  directive.arguments.get? name

/-- At most one directive of each name. -/
structure Directives where
  entries : Dict Directive

namespace Directives

def empty : Directives := ⟨[]⟩

/-- A directive replaces an earlier one of its name, arguments and all. -/
def insert (directives : Directives) (directive : Directive) : Directives :=
  ⟨Dict.insert directive.name directive directives.entries⟩

def ofList (list : List Directive) : Directives := list.foldl insert empty

def get? (directives : Directives) (name : String) : Option Directive :=
  directives.entries.get? name

def contains (directives : Directives) (name : String) : Bool := (directives.get? name).isSome

def isEmpty (directives : Directives) : Bool := directives.entries.isEmpty

end Directives

end Typewright
