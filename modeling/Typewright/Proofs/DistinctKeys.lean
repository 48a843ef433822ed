import Mathlib.Data.List.Nodup
import Typewright.Proofs.KeyedArtifacts
import Typewright.Proofs.NamedArtifacts
import Typewright.Proofs.Reachable

/-! The keys of the artifacts of a run. Every artifact is that of a granted key, and if no output
record has two fields of one name, these keys are distinct. -/
namespace Typewright

/-- The part of a run in which the artifacts of a role are emitted. -/
inductive Stage where
  | enums
  | inputs
  | outputs
  | interfaces
  | pageInfo
  | valueBox
  | environment
deriving DecidableEq

/-- Scalars and unions have no artifacts. -/
def Role.stage? : Role → Option Stage
  | typeName .enum => some .enums
  | typeName .input | inputParser => some .inputs
  | typeName .output | fieldResolver | fieldArguments | argumentParser | page | edge | connection
  | connectionBuilder => some .outputs
  | typeName .interface => some .interfaces
  | pageInfo => some .pageInfo
  | valueBox => some .valueBox
  | environment => some .environment
  | typeName .scalar | typeName .union => none

namespace Job

/-- The artifacts are those of granted keys of the given sort, one each, in order. -/
def Labelled (job : Job) (granted : Set Key) (sort : Key → Prop) (artifacts : List Artifact) :
    Prop :=
  ∃ keys : List Key, Outlined job granted keys artifacts ∧ (∀ key ∈ keys, sort key) ∧
    (job.DistinctFields → keys.Nodup)

def Concerns (stage : Stage) (type : String) (key : Key) : Prop :=
  key.role.stage? = some stage ∧ key.container = some type

variable {job : Job} {granted : Set Key} {sort : Key → Prop} {container : String} {field : Field}
  {record : RecordType} {artifact : Artifact} {artifacts more : List Artifact}
  {definition : Definition}

theorem Outlined.labelled {keys : List Key} (outlined : Outlined job granted keys artifacts)
    (sorted : ∀ key ∈ keys, sort key) (distinct : keys.Nodup) :
    Labelled job granted sort artifacts :=
  ⟨keys, outlined, sorted, fun _ => distinct⟩

theorem labelled_nil : Labelled job granted sort [] :=
  Outlined.labelled ⟨.nil, by simp⟩ (by simp) .nil

theorem labelled_single {key : Key} (outlined : Outlined job granted [key] [artifact])
    (sorted : sort key) : Labelled job granted sort [artifact] :=
  outlined.labelled (by simpa using sorted) (List.nodup_singleton key)

theorem Labelled.mono {wider : Key → Prop} (labelled : Labelled job granted sort artifacts)
    (within : ∀ key, sort key → wider key) : Labelled job granted wider artifacts := by
  obtain ⟨keys, outlined, sorted, distinct⟩ := labelled
  exact ⟨keys, outlined, fun key among => within key (sorted key among), distinct⟩

theorem Labelled.exists_key (labelled : Labelled job granted sort artifacts)
    (among : artifact ∈ artifacts) :
    ∃ key ∈ granted, sort key ∧ artifact.name = job.settings.compose key := by
  obtain ⟨keys, outlined, sorted, _⟩ := labelled
  obtain ⟨key, member, bears⟩ := outlined.bears.exists_of_mem_right among
  exact ⟨key, outlined.claimed key member, sorted key member, bears.named⟩

/-- Lists go together whose keys are of different sorts. -/
theorem Labelled.append {first second : Key → Prop} (one : Labelled job granted first artifacts)
    (two : Labelled job granted second more) (apart : ∀ key, first key → ¬ second key) :
    Labelled job granted (fun key => first key ∨ second key) (artifacts ++ more) := by
  obtain ⟨keys, outlined, sorted, distinct⟩ := one
  obtain ⟨others, outlinedToo, sortedToo, distinctToo⟩ := two
  refine ⟨keys ++ others, outlined.append outlinedToo, ?_, fun fields => ?_⟩
  · intro key among
    exact (List.mem_append.mp among).imp (sorted key) (sortedToo key)
  · refine (distinct fields).append (distinctToo fields) fun key before after => ?_
    exact apart key (sorted key before) (sortedToo key after)

theorem labelled_flatten {xs : List α} {parts : List (List Artifact)} {tag : Key → β} {tagOf : α → β}
    (distinct : job.DistinctFields → (xs.map tagOf).Nodup)
    (each : List.Forall₂ (fun x part =>
      Labelled job granted (fun key => sort key ∧ tag key = tagOf x) part) xs parts) :
    Labelled job granted (fun key => sort key ∧ tag key ∈ xs.map tagOf) parts.flatten := by
  induction each with
  | nil => exact labelled_nil
  | @cons x part xs parts first _ ih =>
    have later := ih fun fields => (List.nodup_cons.mp (distinct fields)).2
    obtain ⟨keys, outlined, sorted, nodup⟩ := first
    obtain ⟨others, outlinedToo, sortedToo, nodupToo⟩ := later
    refine ⟨keys ++ others, outlined.append outlinedToo, ?_, fun fields => ?_⟩
    · intro key among
      rcases List.mem_append.mp among with before | after
      · exact ⟨(sorted key before).1, (sorted key before).2 ▸ .head _⟩
      · exact ⟨(sortedToo key after).1, .tail _ (sortedToo key after).2⟩
    · refine (nodup fields).append (nodupToo fields) fun key before after => ?_
      have fresh := (List.nodup_cons.mp (distinct fields)).1
      exact fresh ((sorted key before).2 ▸ (sortedToo key after).2)

def Serves (container field : String) (key : Key) : Prop :=
  Concerns .outputs container key ∧ key.field = some field

theorem serves_of_mem_connectionKeys :
    ∀ key ∈ connectionKeys container field, Serves container field.name key := by
  rw [connectionKeys, pageKeys, pageRoles, resolverKeys, argumentKeys]
  split <;> simp [Key.ofField, Serves, Concerns, Role.stage?]

theorem nodup_connectionKeys (container : String) (field : Field) :
    (connectionKeys container field).Nodup := by
  rw [connectionKeys, pageKeys, pageRoles, resolverKeys, argumentKeys]
  split <;> simp [Key.ofField]

theorem resolverArtifacts_labelled {policy : Policy}
    (made : (job.resolverArtifacts container field policy).Yields granted artifacts) :
    Labelled job granted (Serves container field.name) artifacts :=
  (resolverArtifacts_outlined made).labelled
    (fun _ among => serves_of_mem_connectionKeys _ (List.mem_append_right _ among))
    (nodup_connectionKeys container field).of_append_right

theorem connectionArtifacts_labelled
    (made : (job.connectionArtifacts container field).Yields granted artifacts) :
    Labelled job granted (Serves container field.name) artifacts :=
  (connectionArtifacts_outlined made).labelled serves_of_mem_connectionKeys
    (nodup_connectionKeys container field)

theorem fieldContribution_labelled {contribution : Contribution}
    (made : (job.fieldContribution container field).Yields granted contribution) :
    Labelled job granted (Serves container field.name) contribution.artifacts := by
  obtain ⟨policy, _, made⟩ := Draft.yields_bind.mp made
  split at made
  · obtain rfl := Draft.yields_pure.mp made
    exact labelled_nil
  · split at made
    · obtain ⟨artifacts, connected, made⟩ := Draft.yields_bind.mp made
      obtain rfl := Draft.yields_pure.mp made
      exact connectionArtifacts_labelled connected
    · obtain ⟨artifacts, resolved, made⟩ := Draft.yields_bind.mp made
      obtain rfl := Draft.yields_pure.mp made
      exact resolverArtifacts_labelled resolved

theorem labelled_when {draft : Draft Artifact} {wanted : Bool}
    (single : ∀ artifact, draft.Yields granted artifact → Labelled job granted sort [artifact])
    (made : (draft.when wanted).Yields granted artifacts) :
    Labelled job granted sort artifacts := by
  cases wanted with
  | true =>
    obtain ⟨artifact, alone, rfl⟩ := Draft.yields_when.mp made
    exact single artifact alone
  | false =>
    obtain rfl : artifacts = [] := Draft.yields_when.mp made
    exact labelled_nil

theorem outputContribution_labelled {contribution : Contribution}
    (member : definition ∈ job.schema.types)
    (made : (job.outputContribution definition).Yields granted contribution) :
    Labelled job granted (Concerns .outputs definition.name) contribution.artifacts := by
  cases definition with
  | output record =>
    obtain ⟨selected, _, made⟩ := Draft.yields_bind.mp made
    obtain ⟨own, ownMade, made⟩ := Draft.yields_bind.mp made
    obtain ⟨served, servedEach, made⟩ := Draft.yields_bind.mp made
    obtain rfl := Draft.yields_pure.mp made
    have first : Labelled job granted (· = .typeName .output record.name) own :=
      labelled_when (fun _ made => labelled_single (outputArtifact_outlined made) rfl) ownMade
    have parts : List.Forall₂ (fun (field : Field) part => Labelled job granted (fun key =>
        Concerns .outputs record.name key ∧ key.field = some field.name) part) record.fields
        (served.map (·.artifacts)) := by
      rw [List.forall₂_map_right_iff]
      exact (Draft.yields_mapM.mp servedEach).imp fun _ _ => fieldContribution_labelled
    have distinct : job.DistinctFields →
        (record.fields.map fun field => some field.name).Nodup := fun fields => by
      rw [← Function.comp_def some Field.name, ← List.map_map]
      exact (fields record member).map (Option.some_injective _)
    rw [List.flatMap_def]
    refine (first.append (labelled_flatten distinct parts) ?_).mono ?_
    · rintro _ rfl ⟨_, later⟩
      simp [Key.typeName, Key.ofType] at later
    · rintro key (rfl | ⟨concerns, _⟩)
      · exact ⟨rfl, rfl⟩
      · exact concerns
  | scalar _ _ | enum _ _ _ | input _ | interface _ | union _ _ _ =>
    obtain rfl := Draft.yields_pure.mp made
    exact labelled_nil

theorem interfaceContribution_labelled
    (made : (job.interfaceContribution definition).Yields granted artifacts) :
    Labelled job granted (Concerns .interfaces definition.name) artifacts := by
  cases definition with
  | interface record =>
    obtain ⟨selected, _, made⟩ := Draft.yields_bind.mp made
    exact labelled_when
      (fun _ made => labelled_single (interfaceArtifact_outlined made) ⟨rfl, rfl⟩) made
  | scalar _ _ | enum _ _ _ | input _ | output _ | union _ _ _ =>
    obtain rfl := Draft.yields_pure.mp made
    exact labelled_nil

theorem enumContribution_labelled {found : Reach}
    (made : (job.enumContribution found definition).Yields granted artifacts) :
    Labelled job granted (Concerns .enums definition.name) artifacts := by
  cases definition with
  | enum name values directives =>
    exact labelled_when
      (fun _ made => labelled_single (enumArtifact_outlined made) ⟨rfl, rfl⟩) made
  | scalar _ _ | input _ | output _ | interface _ | union _ _ _ =>
    obtain rfl := Draft.yields_pure.mp made
    exact labelled_nil

theorem inputArtifacts_labelled (made : (job.inputArtifacts record).Yields granted artifacts) :
    Labelled job granted (Concerns .inputs record.name) artifacts :=
  (inputArtifacts_outlined made).labelled
    (by simp [ownKeys, Concerns, Key.typeName, Key.ofType, Role.stage?])
    (by simp [ownKeys, Key.typeName, Key.ofType])

/-- The artifacts of a group are of one stage. An input record has a group of its own, and what else
is emitted on demand names nothing. -/
theorem Group.labelled {paged : Bool} {group : List Artifact}
    (made : Group job granted paged group) :
    ∃ stage, Labelled job granted (·.role.stage? = some stage) group ∧
      (stage = .enums → ∀ artifact ∈ group, artifact.references = []) ∧
      (stage = .inputs → ∃ record, .input record ∈ job.schema.types ∧
        (job.inputArtifacts record).Yields granted group) := by
  cases made with
  | enum _ made =>
    refine ⟨.enums, labelled_single (enumArtifact_outlined made) rfl, fun _ artifact among => ?_,
      by simp⟩
    obtain ⟨_, rfl⟩ := yields_enumArtifact.mp made
    obtain rfl := List.mem_singleton.mp among
    exact List.eq_nil_iff_forall_not_mem.mpr fun name => by simp [mem_references, Member.names]
  | input member made =>
    exact ⟨.inputs, (inputArtifacts_labelled made).mono fun _ concerns => concerns.1, by simp,
      fun _ => ⟨_, member, made⟩⟩
  | output _ made =>
    exact ⟨.outputs, labelled_single (outputArtifact_outlined made) rfl, by simp, by simp⟩
  | resolver _ _ made =>
    exact ⟨.outputs, (resolverArtifacts_labelled made).mono fun _ serves => serves.1.1, by simp,
      by simp⟩
  | connection _ _ made =>
    exact ⟨.outputs, (connectionArtifacts_labelled made).mono fun _ serves => serves.1.1, by simp,
      by simp⟩
  | interface _ made =>
    exact ⟨.interfaces, labelled_single (interfaceArtifact_outlined made) rfl, by simp, by simp⟩
  | @shared _ role made =>
    obtain ⟨stage, here, noEnum, noInput⟩ :
        ∃ stage, role.stage? = some stage ∧ stage ≠ .enums ∧ stage ≠ .inputs := by
      have common := made.common
      cases role <;> simp [Role.isShared, Role.stage?] at common ⊢
    exact ⟨stage, labelled_single made.outlined here, fun same => absurd same noEnum,
      fun same => absurd same noInput⟩

theorem stage_of_segment {role : Role} {stage : Stage} (here : role.stage? = some stage)
    (segment : role.segment = "enums" ∨ role.segment = "inputs") :
    stage = .enums ∨ stage = .inputs := by
  cases role with
  | typeName kind => cases kind <;> simp_all [Role.stage?, Role.segment]
  | _ => simp_all [Role.stage?, Role.segment]

/-- If an artifact refers to a name among those of enums and input records, a type that is not
represented holds it, or the input record whose group the artifact is in. -/
theorem Group.exists_owner {paged : Bool} {group : List Artifact} {key : Key}
    (made : Group job granted paged group) (among : artifact ∈ group)
    (named : job.settings.compose key ∈ artifact.references)
    (segment : key.role.segment = "enums" ∨ key.role.segment = "inputs") :
    ∃ owner ∈ job.onDemand, ∃ twin ∈ ownKeys owner, twin ∈ granted ∧
      job.settings.compose twin = job.settings.compose key ∧
      (Policy.representationOf owner.name owner.directives = .ok none ∨
        ∃ record, owner = .input record ∧ (job.inputArtifacts record).Yields granted group) := by
  have apart {other : Key} (same : job.settings.compose key = job.settings.compose other)
      (foreign : other.role.segment ≠ "enums" ∧ other.role.segment ≠ "inputs") {goal : Prop} :
      goal := by
    rw [← Settings.segment_eq_of_compose same] at foreign
    exact absurd segment (not_or.mpr foreign)
  rcases made.references among named with elsewhere | ⟨sibling, inside, same⟩ | same | ⟨_, same⟩
  · generalize composed : job.settings.compose key = name at elsewhere ⊢
    cases elsewhere with
    | onDemand member own plain claimed => exact ⟨_, member, _, own, claimed, rfl, .inl plain⟩
    | output _ _ => exact apart composed (by simp [Role.segment])
  · obtain ⟨stage, labelled, silent, input⟩ := made.labelled
    obtain ⟨twin, _, staged, carried⟩ := labelled.exists_key inside
    have equal : job.settings.compose twin = job.settings.compose key := carried.symm.trans same
    rw [← Settings.segment_eq_of_compose equal] at segment
    rcases stage_of_segment staged segment with rfl | rfl
    · simp [silent rfl artifact among] at named
    · obtain ⟨record, member, made⟩ := input rfl
      have claimed := (inputArtifacts_origin made).1
      have listed : sibling.name ∈ (ownKeys (.input record)).map job.settings.compose :=
        names_of_inputArtifacts made ▸ List.mem_map_of_mem inside
      obtain ⟨own, theirs, composed⟩ := List.mem_map.mp listed
      exact ⟨.input record, mem_onDemand.mpr ⟨member, rfl⟩, own, theirs, claimed own theirs,
        composed.trans same, .inr ⟨record, rfl, made⟩⟩
  · exact apart same (by simp [Role.segment])
  · exact apart same (by simp [Role.segment])

namespace Phases

variable (phases : Phases job granted)

theorem labelled_types {stage : Stage} {parts : List (List Artifact)}
    (each : List.Forall₂ (fun definition part =>
      Labelled job granted (Concerns stage definition.name) part) job.schema.types parts) :
    Labelled job granted (·.role.stage? = some stage) parts.flatten := by
  have distinct : (job.schema.types.map fun definition => some definition.name).Nodup := by
    rw [← Function.comp_def some Definition.name, ← List.map_map]
    exact job.schema.distinct.map (Option.some_injective _)
  exact (labelled_flatten (fun _ => distinct) each).mono fun _ concerns => concerns.1

theorem enums_labelled :
    Labelled job granted (·.role.stage? = some .enums) phases.enums.flatten :=
  labelled_types (phases.enumsEach.imp fun _ _ => enumContribution_labelled)

theorem inputs_labelled : Labelled job granted (·.role.stage? = some .inputs) phases.inputs := by
  rw [inputs, List.flatMap_def]
  refine labelled_types ?_
  rw [List.forall₂_map_right_iff, List.forall₂_same]
  intro definition member
  cases definition with
  | input record =>
    cases entered : phases.found.inputs.get? record.name with
    | none => simpa [inputContribution, entered] using labelled_nil
    | some artifacts =>
      have made := phases.found_valid.1.entered_eq member entered
      simpa [inputContribution, entered, Definition.name] using inputArtifacts_labelled made
  | scalar _ _ | enum _ _ _ | output _ | interface _ | union _ _ _ => exact labelled_nil

theorem outputs_labelled : Labelled job granted (·.role.stage? = some .outputs) phases.outputs := by
  rw [outputs, List.flatMap_def]
  refine labelled_types ?_
  rw [List.forall₂_map_right_iff]
  have each := (List.forall₂_and_left _ _).mpr ⟨fun _ member => member, phases.servedEach⟩
  exact each.imp fun _ _ made => outputContribution_labelled made.1 made.2

theorem interfaces_labelled :
    Labelled job granted (·.role.stage? = some .interfaces) phases.interfaces.flatten :=
  labelled_types (phases.interfacesEach.imp fun _ _ => interfaceContribution_labelled)

/-- The artifacts of a run are those of granted keys, one each. -/
theorem labelled : Labelled job granted (fun _ => True) phases.artifacts := by
  have staged {role : Role} {stage : Stage} {artifact : Artifact}
      (made : Shared job granted role artifact) (here : role.stage? = some stage) :
      Labelled job granted (·.role.stage? = some stage) [artifact] :=
    labelled_single made.outlined here
  have pageInfo : Labelled job granted (·.role.stage? = some .pageInfo) phases.pageInfo :=
    labelled_when (fun _ made => staged (pageInfoArtifact_origin made) rfl) phases.pageInfoMade
  have valueBox : Labelled job granted (·.role.stage? = some .valueBox) [phases.valueBox] :=
    staged (valueBoxArtifact_origin phases.valueBoxMade) rfl
  have environment : Labelled job granted (·.role.stage? = some .environment) [phases.environment] :=
    staged (environmentArtifact_origin phases.environmentMade) rfl
  refine ((((((phases.enums_labelled.append phases.inputs_labelled ?_).append
    phases.outputs_labelled ?_).append phases.interfaces_labelled ?_).append pageInfo ?_).append
    (valueBox.append environment ?_) ?_).mono fun _ _ => trivial)
  all_goals
    intro key
    cases key.role.stage? with
    | none => simp
    | some stage => cases stage <;> simp

theorem names_nodup (distinct : job.DistinctFields)
    (injective : Set.InjOn job.settings.compose granted) :
    (phases.artifacts.map Artifact.name).Nodup := by
  obtain ⟨keys, outlined, _, nodup⟩ := phases.labelled
  rw [outlined.names]
  refine (nodup distinct).map_on fun key member twin among same => ?_
  exact injective (outlined.claimed key member) (outlined.claimed twin among) same

end Phases

end Job

end Typewright
