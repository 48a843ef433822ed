import Typewright.Proofs.DistinctKeys
import Typewright.Proofs.Layout
import Typewright.Proofs.Pages

/-! References to types that are not there. A run that is refused over one names a type that the
schema lacks, and what a run emits was made without one. -/
namespace Typewright

def Definition.fields : Definition → List Field
  | input record | output record | interface record => record.fields
  | scalar .. | enum .. | union .. => []

open Draft

namespace Job

section Refusals

variable {job : Job} {container : String} {field : Field} {record : RecordType}
  {definition : Definition} {policy : Policy}

theorem ofField_failsOnly :
    (liftM (Policy.ofField container field job.settings.generateAll) : Draft Policy).FailsOnly
      job.Refuses :=
  failsOnly_lift.mpr fun _ => Policy.ofField_refuses

theorem fieldType_failsOnly : (job.fieldType container field).FailsOnly job.Refuses :=
  ofField_failsOnly.bind fun _ _ => resolve_failsOnly

theorem members_failsOnly (make : Field → TargetType → Member) {fields : List Field} :
    (fields.mapM fun field => do return make field (← job.fieldType container field)).FailsOnly
      job.Refuses :=
  failsOnly_mapM fun _ _ => fieldType_failsOnly.bind fun _ _ => failsOnly_pure _

theorem outputArtifact_failsOnly : (job.outputArtifact record).FailsOnly job.Refuses :=
  (failsOnly_name _ _).bind fun _ _ =>
    (members_failsOnly fun field => .field field.name).bind fun _ _ => failsOnly_pure _

theorem interfaceArtifact_failsOnly : (job.interfaceArtifact record).FailsOnly job.Refuses :=
  (failsOnly_name _ _).bind fun _ _ =>
    (members_failsOnly fun field => .method field.name []).bind fun _ _ => failsOnly_pure _

theorem inputArtifacts_failsOnly : (job.inputArtifacts record).FailsOnly job.Refuses := by
  refine (failsOnly_name _ _).bind fun _ _ => (failsOnly_name _ _).bind fun _ _ => ?_
  refine (failsOnly_mapM fun field _ => ?_).bind fun _ _ => failsOnly_pure _
  exact ofField_failsOnly.bind fun _ _ => synthesize_failsOnly.bind fun _ _ => failsOnly_pure _

theorem resolverArtifacts_failsOnly :
    (job.resolverArtifacts container field policy).FailsOnly job.Refuses :=
  arguments_failsOnly.bind fun _ _ => resolve_failsOnly.bind fun _ _ =>
    contract_failsOnly.bind fun _ _ => failsOnly_pure _

/-- A field is served in pages only if it is a list, so that its element is always found. -/
theorem connectionArtifacts_failsOnly (pages : Policy.wantsPages field = true) :
    (job.connectionArtifacts container field).FailsOnly job.Refuses := by
  rw [Policy.wantsPages, Bool.and_eq_true, ← TypeRef.isSome_element?, Option.isSome_iff_exists]
    at pages
  obtain ⟨_, element, holds⟩ := pages
  rw [connectionArtifacts_eq holds]
  exact resolve_failsOnly.bind fun _ _ => pagesOf_failsOnly

theorem fieldContribution_failsOnly :
    (job.fieldContribution container field).FailsOnly job.Refuses := by
  refine ofField_failsOnly.bind fun policy read => ?_
  split
  · exact failsOnly_pure _
  · split
    next pages =>
      rw [Policy.pagination_ofField read] at pages
      exact (connectionArtifacts_failsOnly pages).bind fun _ _ => failsOnly_pure _
    next => exact resolverArtifacts_failsOnly.bind fun _ _ => failsOnly_pure _

theorem isSelected_failsOnly : (job.isSelected definition).FailsOnly job.Refuses :=
  FailsOnly.bind (failsOnly_lift.mpr fun _ => Policy.ofDefinition_refuses) fun _ _ =>
    failsOnly_pure _

theorem outputContribution_failsOnly :
    (job.outputContribution definition).FailsOnly job.Refuses := by
  cases definition with
  | output record =>
    refine isSelected_failsOnly.bind fun selected _ =>
      (outputArtifact_failsOnly.when selected).bind fun _ _ => ?_
    exact (failsOnly_mapM fun _ _ => fieldContribution_failsOnly).bind fun _ _ => failsOnly_pure _
  | scalar _ _ | enum _ _ _ | input _ | interface _ | union _ _ _ => exact failsOnly_pure _

theorem interfaceContribution_failsOnly :
    (job.interfaceContribution definition).FailsOnly job.Refuses := by
  cases definition with
  | interface record =>
    exact isSelected_failsOnly.bind fun selected _ => interfaceArtifact_failsOnly.when selected
  | scalar _ _ | enum _ _ _ | input _ | output _ | union _ _ _ => exact failsOnly_pure _

theorem enumContribution_failsOnly {found : Reach} :
    (job.enumContribution found definition).FailsOnly job.Refuses := by
  cases definition with
  | enum name values directives =>
    exact ((failsOnly_name _ _).bind fun _ _ => failsOnly_pure _).when _
  | scalar _ _ | input _ | output _ | interface _ | union _ _ _ => exact failsOnly_pure _

theorem reach_failsOnly {owners : List (QualifiedName × String)} {rounds : Nat}
    {pending : List String} {found : Reach} :
    (job.reach owners rounds pending found).FailsOnly job.Refuses := by
  induction rounds generalizing pending found with
  | zero => exact failsOnly_pure _
  | succ rounds ih =>
    rw [reach]
    split
    · exact failsOnly_pure _
    · split
      · exact inputArtifacts_failsOnly.bind fun _ _ => ih
      · exact ih

theorem emission_failsOnly : job.emission.FailsOnly job.Refuses := by
  refine (failsOnly_mapM fun _ _ => outputContribution_failsOnly).bind fun served _ => ?_
  refine (failsOnly_mapM fun _ _ => interfaceContribution_failsOnly).bind fun _ _ => ?_
  refine (failsOnly_mapM fun _ _ => ?selected).bind fun _ _ => ?_
  case selected =>
    exact isSelected_failsOnly.bind fun selected _ => (failsOnly_pure _).when selected
  refine reach_failsOnly.bind fun _ _ => ?_
  refine (failsOnly_mapM fun _ _ => enumContribution_failsOnly).bind fun _ _ => ?_
  refine (((failsOnly_name _ _).bind fun _ _ => failsOnly_pure _).when _).bind fun _ _ => ?_
  refine ((failsOnly_name _ _).bind fun _ _ => failsOnly_pure _).bind fun _ _ => ?_
  exact ((failsOnly_name _ _).bind fun _ _ => failsOnly_pure _).bind fun _ _ => failsOnly_pure _

theorem get?_of_unknownType {node name : String}
    (failed : job.generate = .error (.unknownType node name)) : job.schema.get? name = none := by
  rcases emission_failsOnly.settle failed with refused | ⟨_, _, _, collides⟩
  · cases refused with
    | undefined missing => exact missing
  · contradiction

end Refusals

/-- A type of the schema, a built-in scalar or a scalar that the settings map has the name. -/
def Knows (job : Job) (name : String) : Prop :=
  (job.schema.get? name).isSome = true ∨ (builtinScalar? name).isSome = true ∨
    job.isRemapped name = true

/-- The reference ends in a name that is known, or a representation at the node stands in for it. -/
def Grounded (job : Job) (node : String) (type : TypeRef) (directives : Directives) : Prop :=
  job.Knows type.baseName ∨
    ∃ external, Policy.representationOf node directives = .ok (some external)

def EmitsFor (job : Job) (artifacts : List Artifact) (key : Key) : Prop :=
  ∃ artifact ∈ artifacts, job.naming.ownerOf? artifact.name = some key

/-- The field asks for a resolver, as another field of its name may not, and the resolver is
emitted. -/
structure HasResolver (job : Job) (artifacts : List Artifact) (record : RecordType)
    (field : Field) : Prop where
  member : .output record ∈ job.schema.types
  listed : field ∈ record.fields
  selected : ∃ policy, Policy.ofField record.name field job.settings.generateAll = .ok policy ∧
    policy.generate = true
  emitted : job.EmitsFor artifacts (.ofField .fieldResolver record.name field.name)

/-- The references, each with its node and the directives there, on which emitted artifacts rest. -/
inductive Mentions (job : Job) (artifacts : List Artifact) :
    (node : String) → TypeRef → Directives → Prop
  /-- The fields of an emitted input record, output record or interface. -/
  | recordField (member : definition ∈ job.schema.types)
      (emitted : job.EmitsFor artifacts (.typeName definition.kind definition.name))
      (listed : field ∈ definition.fields) :
    Mentions job artifacts (fieldPath definition.name field.name) field.type field.directives
  | result (resolved : job.HasResolver artifacts record field) :
    Mentions job artifacts (fieldPath record.name field.name) field.type field.directives
  | argument (resolved : job.HasResolver artifacts record field)
      (given : argument ∈ field.arguments) :
    Mentions job artifacts (argumentPath record.name field.name argument.name) argument.type
      argument.directives

section Grounding

variable {job : Job} {granted : Set Key} {node container name : String} {type : TypeRef}
  {directives : Directives} {field : Field} {record : RecordType} {definition : Definition}
  {policy : Policy} {artifact : Artifact} {artifacts group : List Artifact} {paged : Bool}

theorem knows_of_yields {base : Base} (made : (job.resolveBase node name).Yields granted base) :
    job.Knows name := by
  rcases resolveBase_cases made with ⟨text, known, _⟩ | ⟨definition, found, _⟩
  · rw [scalarTarget?, Option.or_eq_some_iff] at known
    rcases known with mapped | ⟨_, builtin⟩
    · exact .inr (.inr (Option.isSome_iff_exists.mpr ⟨text, mapped⟩))
    · exact .inr (.inl (Option.isSome_iff_exists.mpr ⟨text, builtin⟩))
  · exact .inl (Option.isSome_iff_exists.mpr ⟨definition, found⟩)

theorem knows_of_resolve {target : TargetType}
    (made : (job.resolve node type none).Yields granted target) : job.Knows type.baseName := by
  obtain ⟨base, made, _⟩ := yields_resolve.mp made
  exact knows_of_yields made

/-- Only a representation spares the name under a reference from being looked up. -/
theorem grounded_of_resolve {target : TargetType}
    (represented : Policy.representationOf node directives = .ok policy.representation)
    (made : (job.resolve node type (some policy)).Yields granted target) :
    job.Grounded node type directives := by
  cases given : policy.representation with
  | some external => exact .inr ⟨external, given ▸ represented⟩
  | none =>
    obtain ⟨base, made, _⟩ := yields_resolve.mp made
    rw [baseUnder, Option.bind_some, given] at made
    exact .inl (knows_of_yields made)

theorem grounded_of_ofField {target : TargetType}
    (read : Policy.ofField container field job.settings.generateAll = .ok policy)
    (made : (job.resolve (fieldPath container field.name) field.type (some policy)).Yields granted
      target) :
    job.Grounded (fieldPath container field.name) field.type field.directives := by
  obtain ⟨representation, represented, rfl⟩ := Policy.ofField_ok_iff.mp read
  exact grounded_of_resolve represented made

def FieldsGrounded (job : Job) (container : String) (fields : List Field) : Prop :=
  ∀ field ∈ fields, job.Grounded (fieldPath container field.name) field.type field.directives

def ArgumentsGrounded (job : Job) (container : String) (field : Field) : Prop :=
  ∀ argument ∈ field.arguments,
    job.Grounded (argumentPath container field.name argument.name) argument.type argument.directives

theorem members_grounded (make : Field → TargetType → Member) {fields : List Field}
    {members : List Member}
    (each : (fields.mapM fun field => do return make field (← job.fieldType container field)).Yields
      granted members) : job.FieldsGrounded container fields := by
  intro field listed
  obtain ⟨_, _, made⟩ := (yields_mapM.mp each).exists_of_mem_left listed
  obtain ⟨target, typed, _⟩ := yields_bind.mp made
  obtain ⟨policy, read, resolved⟩ := yields_bind.mp typed
  exact grounded_of_ofField (yields_lift.mp read) resolved

theorem outputArtifact_grounded (made : (job.outputArtifact record).Yields granted artifact) :
    job.FieldsGrounded record.name record.fields := by
  obtain ⟨_, _, made⟩ := yields_bind.mp made
  obtain ⟨_, each, _⟩ := yields_bind.mp made
  exact members_grounded (fun field => .field field.name) each

theorem interfaceArtifact_grounded (made : (job.interfaceArtifact record).Yields granted artifact) :
    job.FieldsGrounded record.name record.fields := by
  obtain ⟨_, _, made⟩ := yields_bind.mp made
  obtain ⟨_, each, _⟩ := yields_bind.mp made
  exact members_grounded (fun field => .method field.name []) each

theorem inputArtifacts_grounded (made : (job.inputArtifacts record).Yields granted artifacts) :
    job.FieldsGrounded record.name record.fields := by
  obtain ⟨_, _, made⟩ := yields_bind.mp made
  obtain ⟨_, _, made⟩ := yields_bind.mp made
  obtain ⟨_, each, _⟩ := yields_bind.mp made
  intro field listed
  obtain ⟨_, _, made⟩ := (yields_mapM.mp each).exists_of_mem_left listed
  obtain ⟨policy, read, made⟩ := yields_bind.mp made
  obtain ⟨chain, built, _⟩ := yields_bind.mp made
  obtain ⟨target, resolved, _⟩ := yields_bind.mp built
  exact grounded_of_ofField (yields_lift.mp read) resolved

theorem arguments_grounded {target : TargetType}
    (made : (job.arguments container field).Yields granted (artifacts, target)) :
    job.ArgumentsGrounded container field := by
  rw [arguments] at made
  split at made
  next bare => simp [ArgumentsGrounded, List.isEmpty_iff.mp bare]
  next =>
    obtain ⟨_, _, made⟩ := yields_bind.mp made
    obtain ⟨_, _, made⟩ := yields_bind.mp made
    obtain ⟨_, each, _⟩ := yields_bind.mp made
    intro argument given
    obtain ⟨_, _, made⟩ := (yields_mapM.mp each).exists_of_mem_left given
    obtain ⟨policy, read, made⟩ := yields_bind.mp made
    obtain ⟨chain, built, _⟩ := yields_bind.mp made
    obtain ⟨target, resolved, _⟩ := yields_bind.mp built
    obtain ⟨representation, represented, rfl⟩ := Policy.ofArgument_ok_iff.mp (yields_lift.mp read)
    exact grounded_of_resolve represented resolved

theorem fieldContribution_grounded {contribution : Contribution}
    (read : Policy.ofField container field job.settings.generateAll = .ok policy)
    (selected : policy.generate = true)
    (made : (job.fieldContribution container field).Yields granted contribution) :
    job.Grounded (fieldPath container field.name) field.type field.directives ∧
      job.ArgumentsGrounded container field := by
  obtain ⟨same, reread, made⟩ := yields_bind.mp made
  obtain rfl : policy = same := Except.ok.inj (read.symm.trans (yields_lift.mp reread))
  rw [selected, Bool.not_true, if_neg Bool.false_ne_true] at made
  split at made
  · obtain ⟨artifacts, connected, _⟩ := yields_bind.mp made
    obtain ⟨list, resolved, connected⟩ := yields_bind.mp connected
    split at connected
    · exact absurd connected yields_fail
    · obtain ⟨_, parsed, arguments, contract, taken, _, _⟩ := pagesOf_origin connected
      exact ⟨.inl (knows_of_resolve resolved), arguments_grounded taken⟩
  · obtain ⟨artifacts, served, _⟩ := yields_bind.mp made
    obtain ⟨⟨parsed, arguments⟩, taken, served⟩ := yields_bind.mp served
    obtain ⟨returns, resolved, _⟩ := yields_bind.mp served
    exact ⟨grounded_of_ofField read resolved, arguments_grounded taken⟩

/-- An artifact under the key of a type is made from that type: the keys of fields, and those of what
the run shares, are others. -/
theorem Group.fields_grounded (injective : Set.InjOn job.settings.compose granted)
    (made : Group job granted paged group) (among : artifact ∈ group)
    (member : definition ∈ job.schema.types)
    (claimed : Key.typeName definition.kind definition.name ∈ granted)
    (named : artifact.name =
      job.settings.compose (.typeName definition.kind definition.name)) :
    job.FieldsGrounded definition.name definition.fields := by
  have own {sort : Key → Prop} (labelled : Labelled job granted sort group) :
      sort (.typeName definition.kind definition.name) := by
    obtain ⟨key, theirs, sorted, same⟩ := labelled.exists_key among
    exact injective theirs claimed (same.symm.trans named) ▸ sorted
  have owner {other : Definition} {stage : Stage} (also : other ∈ job.schema.types)
      (labelled : Labelled job granted (Concerns stage other.name) group) : definition = other :=
    Schema.eq_of_name member also (Option.some.inj (own labelled).2)
  cases made with
  | enum also made =>
    obtain rfl := owner also (labelled_single (enumArtifact_outlined made) ⟨rfl, rfl⟩)
    simp [FieldsGrounded, Definition.fields]
  | input also made =>
    obtain rfl := owner also (inputArtifacts_labelled made)
    exact inputArtifacts_grounded made
  | output also made =>
    obtain rfl := owner also (labelled_single (outputArtifact_outlined made) ⟨rfl, rfl⟩)
    exact outputArtifact_grounded made
  | interface also made =>
    obtain rfl := owner also (labelled_single (interfaceArtifact_outlined made) ⟨rfl, rfl⟩)
    exact interfaceArtifact_grounded made
  | resolver _ _ made =>
    have serves := own (resolverArtifacts_labelled made)
    exact absurd serves.2 (by simp [Key.typeName, Key.ofType])
  | connection _ _ made =>
    have serves := own (connectionArtifacts_labelled made)
    exact absurd serves.2 (by simp [Key.typeName, Key.ofType])
  | shared made =>
    have unowned : Labelled job granted (·.container = none) _ :=
      labelled_single made.outlined rfl
    exact absurd (own unowned) (by simp [Key.typeName, Key.ofType])

theorem Phases.field_served (phases : Phases job granted)
    (member : .output record ∈ job.schema.types) (listed : field ∈ record.fields) :
    ∃ contribution, (job.fieldContribution record.name field).Yields granted contribution := by
  obtain ⟨_, _, made⟩ := phases.servedEach.exists_of_mem_left member
  obtain ⟨_, _, made⟩ := yields_bind.mp made
  obtain ⟨_, _, made⟩ := yields_bind.mp made
  obtain ⟨_, each, _⟩ := yields_bind.mp made
  obtain ⟨contribution, _, made⟩ := (yields_mapM.mp each).exists_of_mem_left listed
  exact ⟨contribution, made⟩

theorem HasResolver.grounded (generated : job.generate = .ok artifacts)
    (resolved : job.HasResolver artifacts record field) :
    job.Grounded (fieldPath record.name field.name) field.type field.directives ∧
      job.ArgumentsGrounded record.name field := by
  obtain ⟨phases, _⟩ := emission_phases (yields_of_settle generated)
  obtain ⟨policy, read, selected⟩ := resolved.selected
  obtain ⟨contribution, made⟩ := phases.field_served resolved.member resolved.listed
  exact fieldContribution_grounded read selected made

theorem Mentions.grounded (generated : job.generate = .ok artifacts)
    (mentioned : job.Mentions artifacts node type directives) :
    job.Grounded node type directives := by
  cases mentioned with
  | recordField member emitted listed =>
    obtain ⟨phases, rfl⟩ := emission_phases (yields_of_settle generated)
    obtain ⟨artifact, among, owned⟩ := emitted
    obtain ⟨claimed, named⟩ := (ownerOf?_settle generated).mp owned
    obtain ⟨_, group, made, inside, _, _⟩ := phases.grouped artifact among
    exact made.fields_grounded (injOn_claims generated) inside member claimed named _ listed
  | result resolved => exact (resolved.grounded generated).1
  | argument resolved given => exact (resolved.grounded generated).2 _ given

end Grounding

/-- A run that is refused over an unknown type names one that the schema lacks. A run that is not
refused emits nothing that mentions one, but where a representation stands in for it. A reference
always ends in a name, so that none is ever refused for its layers. -/
theorem generate_grounded (job : Job) :
    (∀ node name, job.generate = .error (.unknownType node name) → job.schema.get? name = none) ∧
    (∀ artifacts, job.generate = .ok artifacts → ∀ node type directives,
      job.Mentions artifacts node type directives → job.Grounded node type directives) ∧
    ∀ type : TypeRef, splitLayers type.layers = some (type.layers.dropLast, type.baseName) :=
  ⟨fun _ _ => get?_of_unknownType, fun _ generated _ _ _ => Mentions.grounded generated,
    TypeRef.splitLayers_layers⟩

/-- A query for users, of whom the schema knows nothing. -/
def astray : Job where
  schema := .ofList [.output ⟨"Query", [
    ⟨"users", .list (.named "User"), [], .ofList [⟨"resolver", []⟩, ⟨"pagination", []⟩]⟩], .empty⟩]
  settings := {}

def search : Field where
  name := "search"
  type := .nonNull (.list (.named "Int"))
  arguments := [⟨"filter", .nonNull (.named "Filter"), .empty⟩]
  directives := .ofList [⟨"generate", []⟩]

/-- The shop has the filter of its search, and nothing knows the users. -/
theorem generate_grounded_shop :
    (astray.generate = .error (.unknownType "Query.users" "User") ∧
      astray.schema.get? "User" = none) ∧
    ∃ artifacts, shop.generate = .ok artifacts ∧
      shop.Mentions artifacts "Query.search(filter)" (.nonNull (.named "Filter")) .empty ∧
      shop.Grounded "Query.search(filter)" (.nonNull (.named "Filter")) .empty := by
  have refused : astray.generate = .error (.unknownType "Query.users" "User") := by decide +kernel
  have emits : (shop.generate.toOption.any (·.any fun artifact =>
      shop.naming.ownerOf? artifact.name = some (.ofField .fieldResolver "Query" "search"))) =
      true := by
    decide +kernel
  refine ⟨⟨refused, (generate_grounded astray).1 _ _ refused⟩, ?_⟩
  obtain ⟨artifacts, generated, holds⟩ := exists_ok_of_any emits
  have resolved : shop.HasResolver artifacts ⟨"Query", [search], .empty⟩ search :=
    { member := by
        simp [shop, search, Schema.ofList, Schema.add, Schema.put, Schema.empty, Definition.name]
      listed := .head _
      selected := ⟨_, rfl, rfl⟩
      emitted := by simpa [EmitsFor, search] using holds }
  have mentioned := Mentions.argument resolved (.head _)
  exact ⟨artifacts, generated, mentioned, (generate_grounded shop).2.1 _ generated _ _ _ mentioned⟩

end Job

end Typewright
