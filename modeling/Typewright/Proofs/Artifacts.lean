import Typewright.Proofs.Resolution

/-! What each generator makes, and what that names. -/
namespace Typewright

theorem mem_references {artifact : Artifact} {name : QualifiedName} :
    name ∈ artifact.references ↔ ∃ member ∈ artifact.members, name ∈ member.names := by
  simp [Artifact.references, QualifiedName.sorted]

@[simp] theorem names_required (base : Base) : (Wrapped.required base).names = base.names := rfl

@[simp] theorem names_listOf (type : TargetType) (nullable : Bool) :
    (type.listOf nullable).names = type.names := rfl

namespace Job

variable {job : Job} {granted : Set Key} {container : String} {field : Field} {record : RecordType}
  {artifact : Artifact} {artifacts : List Artifact} {type : TargetType} {policy : Policy}

@[simp] theorem yields_jobName {key : Key} {value : QualifiedName} :
    (job.name key).Yields granted value ↔ value = job.settings.compose key ∧ key ∈ granted :=
  Draft.yields_name

theorem yields_enumArtifact {name : String} {values : List String} :
    (job.enumArtifact name values).Yields granted artifact ↔
      Key.typeName .enum name ∈ granted ∧
        artifact = ⟨job.settings.compose (.typeName .enum name), .enum, name,
          values.map .variant⟩ := by
  simp [enumArtifact, and_assoc]

theorem fieldType_referable (made : (job.fieldType container field).Yields granted type) :
    ∀ name ∈ type.names, Referable job granted name := by
  obtain ⟨policy, _, made⟩ := Draft.yields_bind.mp made
  exact resolve_referable made

theorem members_origin (make : Field → TargetType → Member) {fields : List Field}
    {members : List Member}
    (each : (fields.mapM fun field => do return make field (← job.fieldType container field)).Yields
      granted members) :
    ∀ member ∈ members, ∃ field type, member = make field type ∧
      ∀ name ∈ type.names, Referable job granted name := by
  intro member among
  obtain ⟨field, _, made⟩ := (Draft.yields_mapM.mp each).exists_of_mem_right among
  obtain ⟨type, typed, made⟩ := Draft.yields_bind.mp made
  obtain rfl := Draft.yields_pure.mp made
  exact ⟨field, type, rfl, fieldType_referable typed⟩

theorem outputArtifact_origin (made : (job.outputArtifact record).Yields granted artifact) :
    Key.typeName .output record.name ∈ granted ∧
      ∃ members, (∀ member ∈ members, ∃ (field : Field) (type : TargetType),
          member = .field field.name type ∧ ∀ name ∈ type.names, Referable job granted name) ∧
        artifact = ⟨job.settings.compose (.typeName .output record.name), .record, record.name,
          members⟩ := by
  obtain ⟨_, named, made⟩ := Draft.yields_bind.mp made
  obtain ⟨members, each, made⟩ := Draft.yields_bind.mp made
  obtain rfl := Draft.yields_pure.mp made
  obtain ⟨rfl, claimed⟩ := yields_jobName.mp named
  exact ⟨claimed, members, members_origin (fun field => .field field.name) each, rfl⟩

theorem interfaceArtifact_origin (made : (job.interfaceArtifact record).Yields granted artifact) :
    Key.typeName .interface record.name ∈ granted ∧
      ∃ members, (∀ member ∈ members, ∃ (field : Field) (type : TargetType),
          member = .method field.name [] type ∧ ∀ name ∈ type.names, Referable job granted name) ∧
        artifact = ⟨job.settings.compose (.typeName .interface record.name), .interface, record.name,
          members⟩ := by
  obtain ⟨_, named, made⟩ := Draft.yields_bind.mp made
  obtain ⟨members, each, made⟩ := Draft.yields_bind.mp made
  obtain rfl := Draft.yields_pure.mp made
  obtain ⟨rfl, claimed⟩ := yields_jobName.mp named
  exact ⟨claimed, members, members_origin (fun field => .method field.name []) each, rfl⟩

def Synthesized (job : Job) (granted : Set Key) (field : FieldCoercion) : Prop :=
  ∃ node type policy, (job.synthesize node type policy).Yields granted field.chain

theorem synthesized_of_mapM {xs : List α} {policyOf : α → Draft Policy} {nodeOf keyOf : α → String}
    {typeOf : α → TypeRef} {fields : List FieldCoercion}
    (each : (xs.mapM fun x => do
      let policy ← policyOf x
      let chain ← job.synthesize (nodeOf x) (typeOf x) policy
      return (⟨keyOf x, chain⟩ : FieldCoercion)).Yields granted fields) :
    ∀ field ∈ fields, Synthesized job granted field := by
  intro field among
  obtain ⟨x, _, made⟩ := (Draft.yields_mapM.mp each).exists_of_mem_right among
  obtain ⟨policy, _, made⟩ := Draft.yields_bind.mp made
  obtain ⟨chain, built, made⟩ := Draft.yields_bind.mp made
  obtain rfl := Draft.yields_pure.mp made
  exact ⟨_, _, _, built⟩

theorem inputArtifacts_origin (made : (job.inputArtifacts record).Yields granted artifacts) :
    (∀ key ∈ ownKeys (.input record), key ∈ granted) ∧
      ∃ fields, (∀ field ∈ fields, Synthesized job granted field) ∧
        artifacts = parsedRecord (job.settings.compose (.typeName .input record.name))
          (job.settings.compose (.ofType .inputParser record.name)) "value" record.name fields := by
  obtain ⟨_, recordClaimed, made⟩ := Draft.yields_bind.mp made
  obtain ⟨_, parserClaimed, made⟩ := Draft.yields_bind.mp made
  obtain ⟨fields, each, made⟩ := Draft.yields_bind.mp made
  obtain rfl := Draft.yields_pure.mp made
  obtain ⟨rfl, recordGranted⟩ := yields_jobName.mp recordClaimed
  obtain ⟨rfl, parserGranted⟩ := yields_jobName.mp parserClaimed
  exact ⟨by simp [ownKeys, recordGranted, parserGranted], fields, synthesized_of_mapM each, rfl⟩

theorem names_of_inputArtifacts (made : (job.inputArtifacts record).Yields granted artifacts) :
    artifacts.map Artifact.name = (ownKeys (.input record)).map job.settings.compose := by
  obtain ⟨_, fields, _, rfl⟩ := inputArtifacts_origin made
  rfl

theorem arguments_origin (made : (job.arguments container field).Yields granted (artifacts, type)) :
    (field.arguments.isEmpty = true ∧ artifacts = [] ∧ type = unit) ∨
    (field.arguments.isEmpty = false ∧ Key.ofField .fieldArguments container field.name ∈ granted ∧
      Key.ofField .argumentParser container field.name ∈ granted ∧
      ∃ fields, (∀ field ∈ fields, Synthesized job granted field) ∧
        artifacts = parsedRecord
          (job.settings.compose (.ofField .fieldArguments container field.name))
          (job.settings.compose (.ofField .argumentParser container field.name)) "args"
          (fieldPath container field.name) fields ∧
        type = .required
          (.generated (job.settings.compose (.ofField .fieldArguments container field.name)))) := by
  rw [arguments] at made
  split at made
  next bare =>
    obtain ⟨rfl, rfl⟩ := Prod.mk.inj (Draft.yields_pure.mp made)
    exact .inl ⟨bare, rfl, rfl⟩
  next given =>
    obtain ⟨_, recordNamed, made⟩ := Draft.yields_bind.mp made
    obtain ⟨_, parserNamed, made⟩ := Draft.yields_bind.mp made
    obtain ⟨fields, each, made⟩ := Draft.yields_bind.mp made
    obtain ⟨rfl, rfl⟩ := Prod.mk.inj (Draft.yields_pure.mp made)
    obtain ⟨rfl, recordClaimed⟩ := yields_jobName.mp recordNamed
    obtain ⟨rfl, parserClaimed⟩ := yields_jobName.mp parserNamed
    exact .inr ⟨Bool.eq_false_iff.mpr given, recordClaimed, parserClaimed, fields,
      synthesized_of_mapM each, rfl, rfl⟩

theorem parsedRecord_references {recordName parserName name : QualifiedName}
    {parameter origin : String} {fields : List FieldCoercion}
    (among : artifact ∈ parsedRecord recordName parserName parameter origin fields)
    (named : name ∈ artifact.references) :
    name = recordName ∨ ∃ field ∈ fields, name ∈ field.chain.names := by
  obtain ⟨member, listed, named⟩ := mem_references.mp named
  simp only [parsedRecord, List.mem_cons, List.not_mem_nil, or_false] at among
  rcases among with rfl | rfl
  · obtain ⟨field, inside, rfl⟩ := List.mem_map.mp listed
    exact .inr ⟨field, inside, List.mem_append_left _ named⟩
  · obtain rfl := List.mem_singleton.mp listed
    simpa [Member.names, paramNames, Base.names, Body.names] using named

theorem contract_origin {arguments returns : TargetType}
    (made : (job.contract container field arguments returns).Yields granted artifact) :
    Key.ofField .fieldResolver container field.name ∈ granted ∧
      ∃ source : Base, (∀ name ∈ source.names, Referable job granted name) ∧
        artifact = ⟨job.settings.compose (.ofField .fieldResolver container field.name), .interface,
          fieldPath container field.name, [.method "resolve"
            [⟨"env", .required (.applied (job.settings.compose (.shared .environment))
              [.required source, arguments])⟩] returns]⟩ := by
  obtain ⟨_, contractNamed, made⟩ := Draft.yields_bind.mp made
  obtain ⟨_, environmentNamed, made⟩ := Draft.yields_bind.mp made
  obtain ⟨source, resolved, made⟩ := Draft.yields_bind.mp made
  obtain rfl := Draft.yields_pure.mp made
  obtain ⟨rfl, claimed⟩ := yields_jobName.mp contractNamed
  obtain ⟨rfl, _⟩ := yields_jobName.mp environmentNamed
  have named : (job.baseUnder (fieldPath container field.name) container none).Yields granted source :=
    resolved
  exact ⟨claimed, source, baseUnder_referable named, rfl⟩

theorem contract_references {arguments returns : TargetType} {name : QualifiedName}
    (made : (job.contract container field arguments returns).Yields granted artifact)
    (named : name ∈ artifact.references) :
    Referable job granted name ∨ name = job.settings.compose (.shared .environment) ∨
      name ∈ arguments.names ∨ name ∈ returns.names := by
  obtain ⟨_, source, referable, rfl⟩ := contract_origin made
  obtain ⟨member, listed, named⟩ := mem_references.mp named
  obtain rfl := List.mem_singleton.mp listed
  simp only [Member.names, paramNames, names_required, Base.names, Base.namesAll,
    Base.namesWrapped_eq, List.flatMap_cons, List.flatMap_nil, List.mem_append, List.mem_cons,
    List.not_mem_nil, or_false] at named
  rcases named with (rfl | ofSource | ofArguments) | ofReturns
  · exact .inr (.inl rfl)
  · exact .inl (referable name ofSource)
  · exact .inr (.inr (.inl ofArguments))
  · exact .inr (.inr (.inr ofReturns))

theorem resolverArtifacts_origin
    (made : (job.resolverArtifacts container field policy).Yields granted artifacts) :
    ∃ parsed arguments returns contract,
      (job.arguments container field).Yields granted (parsed, arguments) ∧
      (∀ name ∈ returns.names, Referable job granted name) ∧
      (job.contract container field arguments returns).Yields granted contract ∧
      artifacts = parsed ++ [contract] := by
  obtain ⟨⟨parsed, arguments⟩, taken, made⟩ := Draft.yields_bind.mp made
  obtain ⟨returns, resolved, made⟩ := Draft.yields_bind.mp made
  obtain ⟨contract, stated, made⟩ := Draft.yields_bind.mp made
  obtain rfl := Draft.yields_pure.mp made
  exact ⟨parsed, arguments, returns, contract, taken, resolve_referable resolved, stated, rfl⟩

theorem names_element? {element : TargetType} (holds : type.element? = some element) :
    element.names = type.names := by
  obtain ⟨base, nullable, _ | ⟨⟨_ | _, _⟩, inner⟩⟩ := type <;> simp [Wrapped.element?] at holds
  exact holds ▸ rfl

def pageRoles : List Role := [.page, .edge, .connection, .connectionBuilder]

def pagesOf (job : Job) (container : String) (field : Field) (element : TargetType) :
    Draft (List Artifact) := do
  let page ← job.name (.ofField .page container field.name)
  let edge ← job.name (.ofField .edge container field.name)
  let connection ← job.name (.ofField .connection container field.name)
  let builder ← job.name (.ofField .connectionBuilder container field.name)
  let pageInfo ← job.name (.shared .pageInfo)
  let parts := connectionParts page edge connection builder pageInfo
    (fieldPath container field.name) element
  let (artifacts, arguments) ← job.arguments container field
  return parts ++ artifacts ++
    [← job.contract container field arguments (.required (.generated page))]

theorem pagesOf_origin {element : TargetType}
    (made : (job.pagesOf container field element).Yields granted artifacts) :
    (∀ role ∈ pageRoles, Key.ofField role container field.name ∈ granted) ∧
      ∃ parsed arguments contract,
        (job.arguments container field).Yields granted (parsed, arguments) ∧
        (job.contract container field arguments (.required (.generated
          (job.settings.compose (.ofField .page container field.name))))).Yields granted contract ∧
        artifacts = connectionParts
          (job.settings.compose (.ofField .page container field.name))
          (job.settings.compose (.ofField .edge container field.name))
          (job.settings.compose (.ofField .connection container field.name))
          (job.settings.compose (.ofField .connectionBuilder container field.name))
          (job.settings.compose (.shared .pageInfo)) (fieldPath container field.name) element ++
            parsed ++ [contract] := by
  obtain ⟨_, pageNamed, made⟩ := Draft.yields_bind.mp made
  obtain ⟨_, edgeNamed, made⟩ := Draft.yields_bind.mp made
  obtain ⟨_, connectionNamed, made⟩ := Draft.yields_bind.mp made
  obtain ⟨_, builderNamed, made⟩ := Draft.yields_bind.mp made
  obtain ⟨_, pageInfoNamed, made⟩ := Draft.yields_bind.mp made
  obtain ⟨⟨parsed, arguments⟩, taken, made⟩ := Draft.yields_bind.mp made
  obtain ⟨contract, stated, made⟩ := Draft.yields_bind.mp made
  obtain rfl := Draft.yields_pure.mp made
  obtain ⟨rfl, pageClaimed⟩ := yields_jobName.mp pageNamed
  obtain ⟨rfl, edgeClaimed⟩ := yields_jobName.mp edgeNamed
  obtain ⟨rfl, connectionClaimed⟩ := yields_jobName.mp connectionNamed
  obtain ⟨rfl, builderClaimed⟩ := yields_jobName.mp builderNamed
  obtain ⟨rfl, _⟩ := yields_jobName.mp pageInfoNamed
  refine ⟨?_, parsed, arguments, contract, taken, stated, rfl⟩
  simp [pageRoles, pageClaimed, edgeClaimed, connectionClaimed, builderClaimed]

theorem connectionArtifacts_origin
    (made : (job.connectionArtifacts container field).Yields granted artifacts) :
    ∃ element, (∀ name ∈ element.names, Referable job granted name) ∧
      (job.pagesOf container field element).Yields granted artifacts := by
  obtain ⟨list, resolved, made⟩ := Draft.yields_bind.mp made
  split at made
  · exact absurd made Draft.yields_fail
  next element holds =>
    refine ⟨element, ?_, made⟩
    rw [names_element? holds]
    exact resolve_referable resolved

theorem connectionParts_references {page edge connection builder pageInfo name : QualifiedName}
    {origin : String} {element : TargetType}
    (among : artifact ∈ connectionParts page edge connection builder pageInfo origin element)
    (named : name ∈ artifact.references) :
    name ∈ element.names ∨ name = page ∨ name = edge ∨ name = connection ∨ name = pageInfo := by
  simp only [connectionParts, List.mem_cons, List.not_mem_nil, or_false] at among
  rcases among with rfl | rfl | rfl | rfl
  all_goals
    simp [mem_references, Member.names, paramNames, Base.names, Body.names, boolean] at named
    tauto

end Job

end Typewright
