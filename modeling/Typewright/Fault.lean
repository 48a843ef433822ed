import Typewright.Name.Key
import Typewright.Name.Qualified

/-! Why generation fails, and why a raw value does not fit its type. -/
namespace Typewright

inductive RenderFault where
  | badIdentifier (text : String)
  | badType (text : String)
  | sameVariant (variant : String)
  | bareWrapper
  | emptyChain (key : String)
  | noBody
  | noInputParameter
  | noPageParameter
  /-- The parts are sound and their combination is not. -/
  | unreadable
deriving DecidableEq

inductive Fault where
  | nameCollision (name : QualifiedName) (first second : Key)
  | badDirectiveArgument (node directive argument reason : String)
  | unknownType (node typeName : String)
  | badParameter (key reason : String)
  | unrenderable (artifact : QualifiedName) (cause : RenderFault)
deriving DecidableEq

inductive CoercionFault where
  | unknownEnumValue (enumName value : String)
  | malformedInput (path expected found : String)
deriving DecidableEq

/-- A quoted text ends its message, cut before a colon and a space that stand in it. -/
def RenderFault.quoting (intro text : String) : String :=
  let whole := (intro ++ " `" ++ text ++ "`").toList
  String.ofList (uptoColon whole)
where
  uptoColon : List Char → List Char
    | ':' :: ' ' :: _ => []
    | [] => []
    | c :: rest => c :: uptoColon rest

def RenderFault.message : RenderFault → String
  | badIdentifier text => quoting "invalid identifier" text
  | badType text => quoting "invalid type" text
  | sameVariant variant => s!"enum values map to the same variant `{variant}`"
  | bareWrapper => "wrapper step without an inner step"
  | emptyChain key => s!"empty coercion chain for `{key}`"
  | noBody => "function artifact without a body"
  | noInputParameter => "parse function without an input parameter"
  | noPageParameter => "connection builder without a page parameter"
  | unreadable => "failed to parse generated code"

def Fault.message : Fault → String
  | nameCollision name first second =>
    s!"naming collision on `{name.display}`: {first.display} and {second.display}"
  | badDirectiveArgument node directive argument reason =>
    s!"invalid argument `{argument}` on @{directive} at `{node}`: {reason}"
  | unknownType node typeName => s!"unknown type `{typeName}` referenced at `{node}`"
  | badParameter key reason => s!"invalid parameter `{key}`: {reason}"
  | unrenderable artifact cause => s!"failed to render `{artifact.display}`: {cause.message}"

def CoercionFault.message : CoercionFault → String
  | unknownEnumValue enumName value => s!"unknown value `{value}` for enum `{enumName}`"
  | malformedInput path expected found =>
    s!"malformed input at `{path}`: expected {expected}, found {found}"

end Typewright
