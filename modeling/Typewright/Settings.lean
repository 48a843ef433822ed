import Typewright.Fault
import Typewright.Text.Blank

/-! Settings of a run, built in code or read from a parameter text such as
`generate_all=true,prefix=Api,namespace=app.graphql,context=AppContext`. -/
namespace Typewright

structure Settings where
  /-- Emit every type and field that no representation replaces. -/
  generateAll : Bool := false
  namePrefix : Option String := none
  /-- Dotted namespace that holds every generated item. -/
  baseNamespace : String := "generated"
  /-- Type of the request context that resolvers receive. -/
  contextType : Option String := none
  /-- Target types of scalars, by schema name; they go before the built-in ones. -/
  scalars : Dict String := []

namespace Settings

inductive Change where
  | generateAll (flag : Bool)
  | namePrefix (text : Option String)
  | baseNamespace (text : String)
  | contextType (text : Option String)
  | scalar (name target : String)
  | nothing
deriving DecidableEq

def Change.apply : Change → Settings → Settings
  | .generateAll flag, settings => { settings with generateAll := flag }
  | .namePrefix text, settings => { settings with namePrefix := text }
  | .baseNamespace text, settings => { settings with baseNamespace := text }
  | .contextType text, settings => { settings with contextType := text }
  | .scalar name target, settings =>
    { settings with scalars := Dict.insert name target settings.scalars }
  | .nothing, settings => settings

def nonEmpty (text : String) : Option String := if text = "" then none else some text

def Change.ofPair (writtenKey value : String) : Except Fault Change :=
  match Text.trim writtenKey with
  | "generate_all" =>
    match value with
    | "true" | "1" => .ok (.generateAll true)
    | "false" | "0" => .ok (.generateAll false)
    | _ => .error (.badParameter writtenKey s!"expected a boolean, got `{value}`")
  | "prefix" => .ok (.namePrefix (nonEmpty value))
  | "namespace" =>
    if value = "" then .error (.badParameter writtenKey "namespace must not be empty")
    else .ok (.baseNamespace value)
  | "context" => .ok (.contextType (nonEmpty value))
  | "scalar" =>
    match Text.splitOnce ':' value with
    | some (name, target) =>
      if name = "" ∨ target = "" then .error (noScalar value) else .ok (.scalar name target)
    | none => .error (noScalar value)
  | _ => .ok .nothing
where
  noScalar (value : String) : Fault :=
    .badParameter writtenKey s!"expected `Name:target::Type`, got `{value}`"

/-- An unknown key is no error, a part without an equals sign is one. -/
def Change.ofPart (part : String) : Except Fault Change :=
  match Text.splitOnce '=' part with
  | some (key, value) => Change.ofPair key (Text.trim value)
  | none => .error (.badParameter part "expected key=value")

/-- The parts between commas, trimmed; blank parts do not count. -/
def partsOf (parameter : String) : List String :=
  ((Text.splitAt ',' parameter).map Text.trim).filter (· ≠ "")

/-- Reads the parts from left to right; a later one overrides. -/
def applyParts : List String → Settings → Except Fault Settings
  | [], settings => .ok settings
  | part :: rest, settings => do
    let change ← Change.ofPart part
    applyParts rest (change.apply settings)

def ofParameter (parameter : String) : Except Fault Settings := applyParts (partsOf parameter) {}

end Settings

end Typewright
