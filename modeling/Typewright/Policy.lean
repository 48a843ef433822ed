import Typewright.Schema.Store
import Typewright.Text.Blank

/-! What the directives of a schema node ask for. -/
namespace Typewright

structure Policy where
  /-- Whether an artifact is emitted for the node. -/
  generate : Bool := false
  /-- External type that stands in for a generated one. -/
  representation : Option String := none
  /-- Whether nullable values are boxed, so that absent and null stay apart. -/
  doubleNull : Bool := false
  /-- Whether the field is served in pages. -/
  pagination : Bool := false
deriving DecidableEq

namespace Policy

def representationOf (node : String) (directives : Directives) : Except Fault (Option String) :=
  match directives.get? "representation" with
  | none => .ok none
  | some directive =>
    match directive.argument? "type" with
    | some (.string text) =>
      if Text.trim text = "" then .error (refused "must not be empty")
      else .ok (some (Text.trim text))
    | some other => .error (refused s!"expected a string, found {other.kindName}")
    | none => .error (refused "required argument is missing")
where
  refused (reason : String) : Fault := .badDirectiveArgument node "representation" "type" reason

/-- A represented type exists elsewhere, so it is never generated. -/
def shouldGenerate (node : String) (directives : Directives) (generateAll : Bool) :
    Except Fault Bool := do
  match ← representationOf node directives with
  | some _ => return false
  | none =>
    return generateAll || directives.contains "generate" || directives.contains "resolver"

def wantsDoubleNull (directives : Directives) : Bool := directives.contains "doubleNull"

/-- Only lists are served in pages. -/
def wantsPages (field : Field) : Bool :=
  field.directives.contains "pagination" && field.type.isList

def ofDefinition (definition : Definition) (generateAll : Bool) : Except Fault Policy := do
  return {
    generate := ← shouldGenerate definition.name definition.directives generateAll
    representation := ← representationOf definition.name definition.directives
    doubleNull := wantsDoubleNull definition.directives }

def ofField (container : String) (field : Field) (generateAll : Bool) : Except Fault Policy := do
  let node := fieldPath container field.name
  return {
    generate := ← shouldGenerate node field.directives generateAll
    representation := ← representationOf node field.directives
    doubleNull := wantsDoubleNull field.directives
    pagination := wantsPages field }

/-- Arguments are never generated on their own. -/
def ofArgument (container field : String) (argument : Argument) : Except Fault Policy := do
  let node := argumentPath container field argument.name
  return {
    representation := ← representationOf node argument.directives
    doubleNull := wantsDoubleNull argument.directives }

end Policy

end Typewright
