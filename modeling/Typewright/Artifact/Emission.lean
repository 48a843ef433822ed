import Typewright.Artifact.References
import Typewright.Artifact.Shared

/-! Everything that a schema emits under its settings, in order. -/
namespace Typewright.Job

def isSelected (job : Job) (definition : Definition) : Draft Bool := do
  return (← Policy.ofDefinition definition job.settings.generateAll).generate

structure Contribution where
  artifacts : List Artifact := []
  paginated : Bool := false

def fieldContribution (job : Job) (container : String) (field : Field) : Draft Contribution := do
  let policy ← Policy.ofField container field job.settings.generateAll
  if !policy.generate then return {}
  if policy.pagination then return ⟨← job.connectionArtifacts container field, true⟩
  return ⟨← job.resolverArtifacts container field policy, false⟩

def outputContribution (job : Job) (definition : Definition) : Draft Contribution := do
  match definition with
  | .output record =>
    let own ← Draft.when (← job.isSelected definition) (job.outputArtifact record)
    let served ← record.fields.mapM (job.fieldContribution record.name)
    return ⟨own ++ served.flatMap (·.artifacts), served.any (·.paginated)⟩
  | _ => return {}

def interfaceContribution (job : Job) (definition : Definition) : Draft (List Artifact) := do
  match definition with
  | .interface record => Draft.when (← job.isSelected definition) (job.interfaceArtifact record)
  | _ => return []

/-- Enums and input records are emitted when they are selected or when an emitted artifact names
them. -/
def isOnDemand : Definition → Bool
  | .enum .. | .input _ => true
  | _ => false

def onDemand (job : Job) : List Definition := job.schema.types.filter isOnDemand

theorem mem_onDemand {job : Job} {definition : Definition} :
    definition ∈ job.onDemand ↔ definition ∈ job.schema.types ∧ isOnDemand definition = true :=
  List.mem_filter

def ownNames (job : Job) : Definition → List QualifiedName
  | .enum name .. => [job.settings.compose (.typeName .enum name)]
  | .input record =>
    [job.settings.compose (.typeName .input record.name),
     job.settings.compose (.ofType .inputParser record.name)]
  | _ => []

/-- Names and the types that own them; of two types with one name the later goes first. -/
def owners (job : Job) : List (QualifiedName × String) :=
  (job.onDemand.flatMap fun definition =>
    (job.ownNames definition).map (·, definition.name)).reverse

theorem mem_owners {job : Job} {name : QualifiedName} {type : String} :
    (name, type) ∈ job.owners ↔
      ∃ definition ∈ job.onDemand, name ∈ job.ownNames definition ∧ definition.name = type := by
  simp [owners, and_left_comm]

def referencedTypes (owners : List (QualifiedName × String)) (artifact : Artifact) :
    List String :=
  artifact.references.filterMap fun name => (owners.find? (·.1 = name)).map Prod.snd

structure Reach where
  types : List String := []
  inputs : Dict (List Artifact) := []

def Reach.unseen (found : Reach) (pending : List String) : List String :=
  pending.dropWhile (found.types.contains ·)

/-- Works off the pending types, the latest first, and adds the types that their artifacts name.
A round reaches one type that was not reached before, so a round for each type emitted on demand
leaves nothing pending. -/
def reach (job : Job) (owners : List (QualifiedName × String)) :
    (rounds : Nat) → (pending : List String) → Reach → Draft Reach
  | 0, _, found => pure found
  | rounds + 1, pending, found =>
    match found.unseen pending with
    | [] => pure found
    | name :: rest =>
      match job.schema.get? name with
      | some (.input record) => do
        let artifacts ← job.inputArtifacts record
        job.reach owners rounds ((artifacts.flatMap (referencedTypes owners)).reverse ++ rest)
          ⟨name :: found.types, found.inputs.insert name artifacts⟩
      | _ => job.reach owners rounds rest { found with types := name :: found.types }

def selectedName (job : Job) (definition : Definition) : Draft (List String) := do
  Draft.when (← job.isSelected definition) (pure definition.name)

def enumContribution (job : Job) (found : Reach) : Definition → Draft (List Artifact)
  | .enum name values _ => Draft.when (name ∈ found.types) (job.enumArtifact name values)
  | _ => return []

def inputContribution (found : Reach) : Definition → List Artifact
  | .input record => (found.inputs.get? record.name).getD []
  | _ => []

/-- Enums, input records, output records with their resolvers, interfaces, and what the run
shares. -/
def emission (job : Job) : Draft (List Artifact) := do
  let types := job.schema.types
  let served ← types.mapM job.outputContribution
  let outputs := served.flatMap (·.artifacts)
  let interfaces := (← types.mapM job.interfaceContribution).flatten
  let selected := (← job.onDemand.mapM job.selectedName).flatten
  let owners := job.owners
  let pending := selected ++ (outputs ++ interfaces).flatMap (referencedTypes owners)
  let found ← job.reach owners job.onDemand.length pending.reverse {}
  let enums := (← types.mapM (job.enumContribution found)).flatten
  let inputs := types.flatMap (inputContribution found)
  let pageInfo ← Draft.when (served.any (·.paginated)) job.pageInfoArtifact
  let valueBox ← job.valueBoxArtifact
  let environment ← job.environmentArtifact
  return enums ++ inputs ++ outputs ++ interfaces ++ pageInfo ++ [valueBox, environment]

def generate (job : Job) : Except Fault (List Artifact) :=
  (job.emission.settle job.settings {}).1

end Typewright.Job
