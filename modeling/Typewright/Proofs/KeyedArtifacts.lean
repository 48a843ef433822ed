import Typewright.Proofs.ArtifactGroups

/-! What is known of an artifact by its key: its name, its kind and the schema node that it stands
for. For each generator, the keys whose artifacts it makes. -/
namespace Typewright

def Role.artifactKind : Role → ArtifactKind
  | typeName .enum => .enum
  | typeName .interface | fieldResolver => .interface
  | argumentParser | inputParser | connectionBuilder => .function
  | typeName _ | fieldArguments | valueBox | environment | page | edge | connection | pageInfo =>
    .record

def Key.node (key : Key) : String :=
  match key.container, key.field with
  | some container, some field => fieldPath container field
  | some container, none => container
  | none, _ => ""

namespace Job

/-- The artifact is the one of the key. -/
structure Bears (job : Job) (key : Key) (artifact : Artifact) : Prop where
  named : artifact.name = job.settings.compose key
  kind : artifact.kind = key.role.artifactKind
  origin : artifact.origin = key.node

/-- The artifacts are those of the keys, in order, and all of the keys are granted. -/
structure Outlined (job : Job) (granted : Set Key) (keys : List Key) (artifacts : List Artifact) :
    Prop where
  bears : List.Forall₂ job.Bears keys artifacts
  claimed : ∀ key ∈ keys, key ∈ granted

def argumentKeys (container : String) (field : Field) : List Key :=
  if field.arguments.isEmpty then []
  else [.ofField .fieldArguments container field.name, .ofField .argumentParser container field.name]

def resolverKeys (container : String) (field : Field) : List Key :=
  argumentKeys container field ++ [.ofField .fieldResolver container field.name]

def pageKeys (container field : String) : List Key :=
  pageRoles.map fun role => .ofField role container field

def connectionKeys (container : String) (field : Field) : List Key :=
  pageKeys container field.name ++ resolverKeys container field

variable {job : Job} {granted : Set Key} {key : Key} {keys others : List Key} {container : String}
  {field : Field} {record : RecordType} {artifact : Artifact} {artifacts more : List Artifact}

theorem Outlined.single (claimed : key ∈ granted) (bears : job.Bears key artifact) :
    Outlined job granted [key] [artifact] :=
  ⟨.cons bears .nil, by simpa using claimed⟩

theorem Outlined.names (outlined : Outlined job granted keys artifacts) :
    artifacts.map Artifact.name = keys.map job.settings.compose := by
  rw [← List.forall₂_eq_eq_eq, List.forall₂_map_left_iff, List.forall₂_map_right_iff]
  exact outlined.bears.flip.imp fun _ _ bears => bears.named

theorem Outlined.append (first : Outlined job granted keys artifacts)
    (second : Outlined job granted others more) :
    Outlined job granted (keys ++ others) (artifacts ++ more) where
  bears := List.rel_append first.bears second.bears
  claimed := List.forall_mem_append.mpr ⟨first.claimed, second.claimed⟩

theorem enumArtifact_outlined {name : String} {values : List String}
    (made : (job.enumArtifact name values).Yields granted artifact) :
    Outlined job granted [.typeName .enum name] [artifact] := by
  obtain ⟨claimed, rfl⟩ := yields_enumArtifact.mp made
  exact .single claimed ⟨rfl, rfl, rfl⟩

theorem inputArtifacts_outlined (made : (job.inputArtifacts record).Yields granted artifacts) :
    Outlined job granted (ownKeys (.input record)) artifacts := by
  obtain ⟨claimed, fields, _, rfl⟩ := inputArtifacts_origin made
  exact ⟨.cons ⟨rfl, rfl, rfl⟩ (.cons ⟨rfl, rfl, rfl⟩ .nil), claimed⟩

theorem outputArtifact_outlined (made : (job.outputArtifact record).Yields granted artifact) :
    Outlined job granted [.typeName .output record.name] [artifact] := by
  obtain ⟨claimed, members, _, rfl⟩ := outputArtifact_origin made
  exact .single claimed ⟨rfl, rfl, rfl⟩

theorem interfaceArtifact_outlined (made : (job.interfaceArtifact record).Yields granted artifact) :
    Outlined job granted [.typeName .interface record.name] [artifact] := by
  obtain ⟨claimed, members, _, rfl⟩ := interfaceArtifact_origin made
  exact .single claimed ⟨rfl, rfl, rfl⟩

theorem arguments_outlined {type : TargetType}
    (made : (job.arguments container field).Yields granted (artifacts, type)) :
    Outlined job granted (argumentKeys container field) artifacts := by
  rw [argumentKeys]
  rcases arguments_origin made with
    ⟨bare, rfl, _⟩ | ⟨given, recordClaimed, parserClaimed, fields, _, rfl, _⟩
  · rw [if_pos bare]
    exact ⟨.nil, by simp⟩
  · rw [if_neg (Bool.eq_false_iff.mp given)]
    exact ⟨.cons ⟨rfl, rfl, rfl⟩ (.cons ⟨rfl, rfl, rfl⟩ .nil),
      by simp [recordClaimed, parserClaimed]⟩

/-- The artifacts that serve a field, with the arguments first and the contract last. -/
theorem served_outlined {arguments returns type : TargetType} {contract : Artifact}
    (taken : (job.arguments container field).Yields granted (artifacts, type))
    (stated : (job.contract container field arguments returns).Yields granted contract) :
    Outlined job granted (resolverKeys container field) (artifacts ++ [contract]) := by
  obtain ⟨claimed, source, _, rfl⟩ := contract_origin stated
  exact (arguments_outlined taken).append (.single claimed ⟨rfl, rfl, rfl⟩)

theorem resolverArtifacts_outlined {policy : Policy}
    (made : (job.resolverArtifacts container field policy).Yields granted artifacts) :
    Outlined job granted (resolverKeys container field) artifacts := by
  obtain ⟨parsed, arguments, returns, contract, taken, _, stated, rfl⟩ :=
    resolverArtifacts_origin made
  exact served_outlined taken stated

theorem connectionArtifacts_outlined
    (made : (job.connectionArtifacts container field).Yields granted artifacts) :
    Outlined job granted (connectionKeys container field) artifacts := by
  obtain ⟨element, _, pages⟩ := connectionArtifacts_origin made
  obtain ⟨claimed, parsed, arguments, contract, taken, stated, rfl⟩ := pagesOf_origin pages
  rw [List.append_assoc]
  refine .append ⟨?_, List.forall_mem_map.mpr claimed⟩ (served_outlined taken stated)
  exact .cons ⟨rfl, rfl, rfl⟩ (.cons ⟨rfl, rfl, rfl⟩ (.cons ⟨rfl, rfl, rfl⟩
    (.cons ⟨rfl, rfl, rfl⟩ .nil)))

theorem Shared.outlined {role : Role} (made : Shared job granted role artifact) :
    Outlined job granted [.shared role] [artifact] := by
  refine .single made.claimed ⟨made.named, made.kind.trans ?_, made.origin⟩
  have common := made.common
  cases role <;> simp [Role.isShared, Role.artifactKind] at common ⊢

end Job

end Typewright
