import Typewright.Proofs.Artifacts
import Typewright.Proofs.Renaming

/-! Two jobs that find the same under the names in use, up to a renaming of what they find. For a
definition that uses no other names every generator makes the same with its names replaced. -/
namespace Typewright

def Field.typeNames (field : Field) : List String :=
  field.type.baseName :: field.arguments.map (·.type.baseName)

def Definition.typeNames : Definition → List String
  | input record | output record | interface record => record.fields.flatMap Field.typeNames
  | scalar .. | enum .. | union .. => []

theorem TypeRef.eq_baseName_of_layers {type : TypeRef} {name : String}
    (layer : .named name ∈ type.layers) : name = type.baseName := by
  induction type with
  | named _ => simpa [layers, baseName] using layer
  | list _ ih => exact ih (by simpa [layers] using layer)
  | nonNull inner ih =>
    refine ih ?_
    rcases layers_nonNull_cases inner with ⟨rest, found, same⟩ | ⟨_, same⟩
    · rwa [same, ← found] at layer
    · simpa [same] using layer

namespace Job

/-- Under the names in use the other job finds what this one finds, with its names replaced. -/
structure Corresponds (job other : Job) (f : QualifiedName → QualifiedName)
    (used : String → Prop) : Prop where
  names : ∀ key, f (job.settings.compose key) = other.settings.compose key
  generateAll : other.settings.generateAll = job.settings.generateAll
  contextType : other.settings.contextType = job.settings.contextType
  scalars : other.settings.scalars = job.settings.scalars
  found : ∀ name, used name → other.schema.get? name = job.schema.get? name
  bases : ∀ node name, used name →
    other.resolveBase node name = Base.rename f <$> job.resolveBase node name

variable {f : QualifiedName → QualifiedName} {container : String} {field : Field}
  {record : RecordType} {definition : Definition} {policy : Option Policy}

theorem parsedRecord_rename (recordName parserName : QualifiedName) (parameter origin : String)
    (fields : List FieldCoercion) :
    parsedRecord (f recordName) (f parserName) parameter origin (fields.map (FieldCoercion.rename f)) =
      (parsedRecord recordName parserName parameter origin fields).map (Artifact.rename f) := by
  simp [parsedRecord, Artifact.rename, Member.rename, Function.rename, Param.rename, Body.rename,
    FieldCoercion.rename, Chain.rename, Base.rename, Function.comp_def]

theorem connectionParts_rename (page edge connection builder pageInfo : QualifiedName)
    (origin : String) (element : TargetType) :
    connectionParts (f page) (f edge) (f connection) (f builder) (f pageInfo) origin
        (Wrapped.rename f element) =
      (connectionParts page edge connection builder pageInfo origin element).map
        (Artifact.rename f) := rfl

/-- Only what the names among the layers convert to matters. -/
theorem stepsOf_rename {convert renamed : String → Bool → Draft Step} {layers : List Layer}
    (each : ∀ name nullable, .named name ∈ layers →
      renamed name nullable = Step.rename f <$> convert name nullable)
    (nullable : Bool) :
    stepsOf renamed nullable layers = List.map (Step.rename f) <$> stepsOf convert nullable layers := by
  induction layers generalizing nullable with
  | nil => simp [stepsOf]
  | cons layer inner ih =>
    rw [stepsOf, stepsOf, ih fun name nullable later => each name nullable (.tail _ later),
      bind_map_left, map_bind]
    refine bind_congr fun below => ?_
    cases layer with
    | named name => simp [each name nullable (.head _)]
    | nonNull | list => simp [Step.rename]

def renameArguments (f : QualifiedName → QualifiedName) (arguments : List Artifact × TargetType) :
    List Artifact × TargetType :=
  (arguments.1.map (Artifact.rename f), Wrapped.rename f arguments.2)

def Contribution.rename (f : QualifiedName → QualifiedName) (contribution : Contribution) :
    Contribution :=
  ⟨contribution.artifacts.map (Artifact.rename f), contribution.paginated⟩

@[simp] theorem Contribution.rename_id : Contribution.rename id = id :=
  funext fun contribution => by simp [rename]

namespace Corresponds

variable {job other : Job} {used : String → Prop} (same : Corresponds job other f used)
  {node name : String} {type : TypeRef}

include same

theorem name_map (key : Key) : other.name key = f <$> job.name key := by
  ext1
  · rfl
  · exact congrArg Except.ok (same.names key).symm

theorem baseUnder (known : used name) :
    other.baseUnder node name policy = Base.rename f <$> job.baseUnder node name policy := by
  rw [Job.baseUnder, Job.baseUnder]
  split
  · simp [Base.rename]
  · exact same.bases node name known

theorem resolve (known : used type.baseName) :
    other.resolve node type policy = Wrapped.rename f <$> job.resolve node type policy := by
  simp only [Job.resolve, type.splitLayers_layers, same.baseUnder known, bind_map_left, map_bind,
    map_pure, ← boxFor_rename]
  rfl

theorem scalarShape (target : Base) :
    other.scalarShape name (target.rename f) = job.scalarShape name target := by
  have remapped : other.isRemapped name = job.isRemapped name := by
    rw [isRemapped, isRemapped, same.scalars]
  cases target <;> simp [Job.scalarShape, Base.rename, remapped]

theorem terminal (known : used name) (nullable : Bool) :
    other.terminal node name nullable policy =
      Step.rename f <$> job.terminal node name nullable policy := by
  rw [Job.terminal, Job.terminal]
  split
  · simp [Step.rename, Base.rename]
  · rw [same.bases node name known, bind_map_left, map_bind]
    refine bind_congr fun target => ?_
    rw [same.found name known]
    split
    · simp [Step.rename, same.scalarShape]
    · simp [Step.rename, same.scalarShape]
    · simp [Step.rename]
    · rw [map_bind]
      refine bind_congr fun representation => ?_
      cases representation with
      | some external => simp [Step.rename]
      | none => simp [same.name_map, Step.rename]
    · simp [Step.rename]
    · simp [Step.rename]
    · simp [Step.rename]

theorem synthesize (known : used type.baseName) :
    other.synthesize node type policy = Chain.rename f <$> job.synthesize node type policy := by
  have each (name : String) (nullable : Bool) (layer : .named name ∈ type.layers) :
      other.terminal node name nullable policy =
        Step.rename f <$> job.terminal node name nullable policy :=
    same.terminal (TypeRef.eq_baseName_of_layers layer ▸ known) nullable
  have steps := stepsOf_rename each true
  simp only [Job.synthesize, same.resolve known, steps, bind_map_left, map_bind, map_pure]
  rfl

theorem enumArtifact (name : String) (values : List String) :
    other.enumArtifact name values = Artifact.rename f <$> job.enumArtifact name values := by
  simp [Job.enumArtifact, same.name_map, Artifact.rename, Member.rename, Function.comp_def]

theorem fieldType (known : used field.type.baseName) :
    other.fieldType container field = Wrapped.rename f <$> job.fieldType container field := by
  simp [Job.fieldType, same.generateAll, same.resolve known]

theorem members (container : String) (make : Field → TargetType → Member)
    (keeps : ∀ field type, make field (Wrapped.rename f type) = (make field type).rename f)
    {fields : List Field} (known : ∀ field ∈ fields, used field.type.baseName) :
    (fields.mapM fun field => do return make field (← other.fieldType container field)) =
      List.map (Member.rename f) <$> fields.mapM fun field => do
        return make field (← job.fieldType container field) := by
  refine Draft.mapM_map fun field among => ?_
  simp [same.fieldType (known field among), keeps]

theorem outputArtifact (known : ∀ field ∈ record.fields, used field.type.baseName) :
    other.outputArtifact record = Artifact.rename f <$> job.outputArtifact record := by
  have members := same.members record.name (fun field => .field field.name)
    (fun _ _ => rfl) known
  rw [Job.outputArtifact, Job.outputArtifact, same.name_map, members]
  simp only [bind_map_left, map_bind, map_pure]
  rfl

theorem interfaceArtifact (known : ∀ field ∈ record.fields, used field.type.baseName) :
    other.interfaceArtifact record = Artifact.rename f <$> job.interfaceArtifact record := by
  have members := same.members record.name (fun field => .method field.name [])
    (fun _ _ => rfl) known
  rw [Job.interfaceArtifact, Job.interfaceArtifact, same.name_map, members]
  simp only [bind_map_left, map_bind, map_pure]
  rfl

theorem coercions {policyOf : α → Draft Policy} {nodeOf keyOf : α → String}
    {typeOf : α → TypeRef} {xs : List α} (known : ∀ x ∈ xs, used (typeOf x).baseName) :
    (xs.mapM fun x => do
      let policy ← policyOf x
      let chain ← other.synthesize (nodeOf x) (typeOf x) policy
      return (⟨keyOf x, chain⟩ : FieldCoercion)) =
    List.map (FieldCoercion.rename f) <$> xs.mapM fun x => do
      let policy ← policyOf x
      let chain ← job.synthesize (nodeOf x) (typeOf x) policy
      return (⟨keyOf x, chain⟩ : FieldCoercion) := by
  refine Draft.mapM_map fun x among => ?_
  simp [same.synthesize (known x among), FieldCoercion.rename]

theorem inputArtifacts (known : ∀ field ∈ record.fields, used field.type.baseName) :
    other.inputArtifacts record = List.map (Artifact.rename f) <$> job.inputArtifacts record := by
  simp only [Job.inputArtifacts, same.name_map, same.generateAll, same.coercions known,
    bind_map_left, map_bind, map_pure, parsedRecord_rename]

theorem arguments (known : ∀ argument ∈ field.arguments, used argument.type.baseName) :
    other.arguments container field = renameArguments f <$> job.arguments container field := by
  rw [Job.arguments, Job.arguments]
  split
  · simp [renameArguments, unit, Base.rename]
  · simp only [same.name_map, same.coercions known, bind_map_left, map_bind, map_pure,
      parsedRecord_rename]
    rfl

theorem contract (known : used container) (field : Field) (arguments returns : TargetType) :
    other.contract container field (Wrapped.rename f arguments) (Wrapped.rename f returns) =
      Artifact.rename f <$> job.contract container field arguments returns := by
  simp only [Job.contract, same.name_map, same.bases _ _ known, bind_map_left, map_bind, map_pure]
  simp [Artifact.rename, Member.rename, Param.rename, Base.rename, Base.renameAll]

theorem pageInfoArtifact :
    other.pageInfoArtifact = Artifact.rename f <$> job.pageInfoArtifact := by
  simp only [Job.pageInfoArtifact, same.name_map, bind_map_left, map_bind, map_pure]
  rfl

theorem valueBoxArtifact :
    other.valueBoxArtifact = Artifact.rename f <$> job.valueBoxArtifact := by
  simp only [Job.valueBoxArtifact, same.name_map, bind_map_left, map_bind, map_pure]
  rfl

theorem environmentArtifact :
    other.environmentArtifact = Artifact.rename f <$> job.environmentArtifact := by
  simp only [Job.environmentArtifact, same.name_map, bind_map_left, map_bind, map_pure,
    same.contextType]
  cases job.settings.contextType <;> rfl

theorem isSelected (definition : Definition) :
    other.isSelected definition = job.isSelected definition := by
  rw [Job.isSelected, Job.isSelected, same.generateAll]

theorem selectedName (definition : Definition) :
    other.selectedName definition = job.selectedName definition := by
  rw [Job.selectedName, Job.selectedName, same.isSelected]

section Fields

variable (own : used container) (known : ∀ name ∈ field.typeNames, used name)

include own known

theorem resolverArtifacts (policy : Policy) :
    other.resolverArtifacts container field policy =
      List.map (Artifact.rename f) <$> job.resolverArtifacts container field policy := by
  simp only [Field.typeNames, List.forall_mem_cons, List.forall_mem_map] at known
  rw [Job.resolverArtifacts, Job.resolverArtifacts, same.arguments known.2, bind_map_left, map_bind]
  refine bind_congr fun arguments => ?_
  simp only [renameArguments, same.resolve known.1, bind_map_left, map_bind, same.contract own,
    map_pure]
  simp

theorem connectionArtifacts :
    other.connectionArtifacts container field =
      List.map (Artifact.rename f) <$> job.connectionArtifacts container field := by
  simp only [Field.typeNames, List.forall_mem_cons, List.forall_mem_map] at known
  rw [Job.connectionArtifacts, Job.connectionArtifacts, same.resolve known.1, bind_map_left, map_bind]
  refine bind_congr fun list => ?_
  rw [element?_rename]
  cases list.element? with
  | none => rfl
  | some element =>
    simp only [Option.map_some, same.name_map, bind_map_left, map_bind, map_pure,
      same.arguments known.2, connectionParts_rename]
    refine bind_congr fun page => ?_
    have contract (arguments : TargetType) := same.contract own field arguments
      (.required (.generated page))
    rw [rename_required, Base.rename] at contract
    simp only [renameArguments, contract, bind_map_left]
    simp

theorem fieldContribution :
    other.fieldContribution container field =
      Contribution.rename f <$> job.fieldContribution container field := by
  rw [Job.fieldContribution, Job.fieldContribution, map_bind, same.generateAll]
  refine bind_congr fun policy => ?_
  split
  · simp [Contribution.rename]
  · split
    · simp [same.connectionArtifacts own known, Contribution.rename]
    · simp [same.resolverArtifacts own known, Contribution.rename]

end Fields

theorem outputContribution (own : used definition.name)
    (known : ∀ name ∈ definition.typeNames, used name) :
    other.outputContribution definition =
      Contribution.rename f <$> job.outputContribution definition := by
  cases definition with
  | output record =>
    have uses (field : Field) (among : field ∈ record.fields) : ∀ name ∈ field.typeNames, used name :=
      fun name named => known name (List.mem_flatMap.mpr ⟨field, among, named⟩)
    have served : record.fields.mapM (other.fieldContribution record.name) =
        List.map (Contribution.rename f) <$> record.fields.mapM (job.fieldContribution record.name) :=
      Draft.mapM_map fun field among => same.fieldContribution own (uses field among)
    have artifact := same.outputArtifact fun field among => uses field among _ (.head _)
    simp only [Job.outputContribution, same.isSelected, artifact, Draft.when_map, served,
      bind_map_left, map_bind, map_pure]
    simp [Contribution.rename, List.flatMap_map, List.map_flatMap, Function.comp_def]
  | scalar _ _ | enum _ _ _ | input _ | interface _ | union _ _ _ =>
    simp [Job.outputContribution, Contribution.rename]

theorem interfaceContribution (known : ∀ name ∈ definition.typeNames, used name) :
    other.interfaceContribution definition =
      List.map (Artifact.rename f) <$> job.interfaceContribution definition := by
  cases definition with
  | interface record =>
    have made := same.interfaceArtifact fun field among =>
      known _ (List.mem_flatMap.mpr ⟨field, among, .head _⟩)
    simp only [Job.interfaceContribution, same.isSelected, made, Draft.when_map, map_bind]
  | scalar _ _ | enum _ _ _ | input _ | output _ | union _ _ _ => simp [Job.interfaceContribution]

/-- An enum is emitted as before if the same types are reached. -/
theorem enumContribution {found reached : Reach}
    (types : ∀ type, type ∈ reached.types ↔ type ∈ found.types) (definition : Definition) :
    other.enumContribution reached definition =
      List.map (Artifact.rename f) <$> job.enumContribution found definition := by
  cases definition with
  | enum name values _ =>
    simp only [Job.enumContribution, same.enumArtifact, Draft.when_map, types]
  | scalar _ _ | input _ | output _ | interface _ | union _ _ _ => simp [Job.enumContribution]

end Corresponds

end Job

end Typewright
