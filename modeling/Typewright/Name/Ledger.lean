import Typewright.Fault
import Typewright.Settings
import Typewright.Text.Word

/-! Composing names, and the ledger of the names that a run has claimed. -/
namespace Typewright

namespace Key

def scope (key : Key) : String :=
  ((key.container.map Text.upperCamel).getD "") ++ ((key.field.map Text.upperCamel).getD "")

def bareIdentifier (key : Key) : String :=
  let scope := key.scope
  match key.role with
  | .typeName _ => scope
  | .fieldResolver => scope ++ "Resolver"
  | .fieldArguments => scope ++ "Args"
  | .argumentParser => s!"parse_{Text.snakeCase scope}_args"
  | .inputParser => s!"parse_{Text.snakeCase scope}"
  | .valueBox => "Present"
  | .environment => "ResolverEnv"
  | .page => scope ++ "Page"
  | .edge => scope ++ "Edge"
  | .connection => scope ++ "Connection"
  | .pageInfo => "PageInfo"
  | .connectionBuilder => s!"build_{Text.snakeCase scope}_connection"

end Key

namespace Settings

def identifier (settings : Settings) (key : Key) : String :=
  match settings.namePrefix.filter (· ≠ "") with
  | none => key.bareIdentifier
  | some lead =>
    if key.role.isShared then key.bareIdentifier
    else if key.role.isFunction then s!"{Text.snakeCase lead}_{key.bareIdentifier}"
    else lead ++ key.bareIdentifier

/-- The name of a key hangs on the key and the settings alone. -/
def compose (settings : Settings) (key : Key) : QualifiedName where
  namespacePath :=
    if settings.baseNamespace = "" then key.role.segment
    else s!"{settings.baseNamespace}.{key.role.segment}"
  identifier := settings.identifier key

end Settings

/-- Who holds which name, in two tables. The latest entry of a table goes first. -/
structure Ledger where
  names : List (Key × QualifiedName) := []
  owners : List (QualifiedName × Key) := []

namespace Ledger

def nameOf? (ledger : Ledger) (key : Key) : Option QualifiedName :=
  (ledger.names.find? (·.1 = key)).map Prod.snd

def ownerOf? (ledger : Ledger) (name : QualifiedName) : Option Key :=
  (ledger.owners.find? (·.1 = name)).map Prod.snd

def enter (key : Key) (name : QualifiedName) (ledger : Ledger) : Ledger :=
  ⟨(key, name) :: ledger.names, (name, key) :: ledger.owners⟩

@[simp] theorem nameOf?_enter (key other : Key) (name : QualifiedName) (ledger : Ledger) :
    (ledger.enter key name).nameOf? other =
      if key = other then some name else ledger.nameOf? other := by
  by_cases same : key = other <;> simp [nameOf?, enter, same]

@[simp] theorem ownerOf?_enter (key : Key) (name other : QualifiedName) (ledger : Ledger) :
    (ledger.enter key name).ownerOf? other =
      if name = other then some key else ledger.ownerOf? other := by
  by_cases same : name = other <;> simp [ownerOf?, enter, same]

/-- A key that holds a name keeps it; a name that another key holds is refused, and the ledger
stays as it was. -/
def claim (settings : Settings) (key : Key) (ledger : Ledger) :
    Except Fault QualifiedName × Ledger :=
  match ledger.nameOf? key with
  | some name => (.ok name, ledger)
  | none =>
    let name := settings.compose key
    match ledger.ownerOf? name with
    | some owner =>
      if owner = key then (.ok name, ledger.enter key name)
      else (.error (.nameCollision name owner key), ledger)
    | none => (.ok name, ledger.enter key name)

def claimAll (settings : Settings) : List Key → Ledger → Except Fault Unit × Ledger
  | [], ledger => (.ok (), ledger)
  | key :: rest, ledger =>
    match ledger.claim settings key with
    | (.ok _, ledger) => claimAll settings rest ledger
    | (.error fault, ledger) => (.error fault, ledger)

end Ledger

end Typewright
