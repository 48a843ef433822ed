import Typewright.Proofs.ArtifactGroups
import Typewright.Proofs.Selection
import Typewright.Proofs.Worklist

/-! The phases of a run, and that what they emit is made up of whole groups. -/
namespace Typewright.Job

structure Phases (job : Job) (granted : Set Key) where
  served : List Contribution
  interfaces : List (List Artifact)
  selected : List (List String)
  found : Reach
  enums : List (List Artifact)
  pageInfo : List Artifact
  valueBox : Artifact
  environment : Artifact
  servedEach : List.Forall₂ (fun definition contribution =>
    (job.outputContribution definition).Yields granted contribution) job.schema.types served
  interfacesEach : List.Forall₂ (fun definition artifacts =>
    (job.interfaceContribution definition).Yields granted artifacts) job.schema.types interfaces
  selectedEach : List.Forall₂ (fun definition names =>
    (job.selectedName definition).Yields granted names) job.onDemand selected
  reached : (job.reach job.owners job.onDemand.length
    (selected.flatten ++ (served.flatMap (·.artifacts) ++ interfaces.flatten).flatMap
      (referencedTypes job.owners)).reverse {}).Yields granted found
  enumsEach : List.Forall₂ (fun definition artifacts =>
    (job.enumContribution found definition).Yields granted artifacts) job.schema.types enums
  pageInfoMade : (Draft.when (served.any (·.paginated)) job.pageInfoArtifact).Yields granted pageInfo
  valueBoxMade : job.valueBoxArtifact.Yields granted valueBox
  environmentMade : job.environmentArtifact.Yields granted environment

namespace Phases

variable {job : Job} {granted : Set Key} {phases : Phases job granted} {artifact : Artifact}

def outputs (phases : Phases job granted) : List Artifact := phases.served.flatMap (·.artifacts)

def inputs (phases : Phases job granted) : List Artifact :=
  job.schema.types.flatMap (inputContribution phases.found)

def artifacts (phases : Phases job granted) : List Artifact :=
  phases.enums.flatten ++ phases.inputs ++ phases.outputs ++ phases.interfaces.flatten ++
    phases.pageInfo ++ [phases.valueBox, phases.environment]

theorem mem_artifacts :
    artifact ∈ phases.artifacts ↔
      artifact ∈ phases.enums.flatten ∨ artifact ∈ phases.inputs ∨ artifact ∈ phases.outputs ∨
        artifact ∈ phases.interfaces.flatten ∨ artifact ∈ phases.pageInfo ∨
        artifact = phases.valueBox ∨ artifact = phases.environment := by
  simp [artifacts]

end Phases

variable {job : Job} {granted : Set Key} {phases : Phases job granted} {served : Bool}
  {artifacts : List Artifact} {artifact : Artifact} {name : QualifiedName} {definition : Definition}

theorem emission_phases (made : job.emission.Yields granted artifacts) :
    ∃ phases : Phases job granted, artifacts = phases.artifacts := by
  obtain ⟨served, servedEach, made⟩ := Draft.yields_bind.mp made
  obtain ⟨interfaces, interfacesEach, made⟩ := Draft.yields_bind.mp made
  obtain ⟨selected, selectedEach, made⟩ := Draft.yields_bind.mp made
  obtain ⟨found, reached, made⟩ := Draft.yields_bind.mp made
  obtain ⟨enums, enumsEach, made⟩ := Draft.yields_bind.mp made
  obtain ⟨pageInfo, pageInfoMade, made⟩ := Draft.yields_bind.mp made
  obtain ⟨valueBox, valueBoxMade, made⟩ := Draft.yields_bind.mp made
  obtain ⟨environment, environmentMade, made⟩ := Draft.yields_bind.mp made
  obtain rfl := Draft.yields_pure.mp made
  exact ⟨⟨served, interfaces, selected, found, enums, pageInfo, valueBox, environment,
    Draft.yields_mapM.mp servedEach, Draft.yields_mapM.mp interfacesEach,
    Draft.yields_mapM.mp selectedEach, reached, Draft.yields_mapM.mp enumsEach, pageInfoMade,
    valueBoxMade, environmentMade⟩, rfl⟩

theorem yields_emission (phases : Phases job granted) :
    job.emission.Yields granted phases.artifacts := by
  refine Draft.yields_bind.mpr ⟨_, Draft.yields_mapM.mpr phases.servedEach, ?_⟩
  refine Draft.yields_bind.mpr ⟨_, Draft.yields_mapM.mpr phases.interfacesEach, ?_⟩
  refine Draft.yields_bind.mpr ⟨_, Draft.yields_mapM.mpr phases.selectedEach, ?_⟩
  refine Draft.yields_bind.mpr ⟨_, phases.reached, ?_⟩
  refine Draft.yields_bind.mpr ⟨_, Draft.yields_mapM.mpr phases.enumsEach, ?_⟩
  refine Draft.yields_bind.mpr ⟨_, phases.pageInfoMade, ?_⟩
  refine Draft.yields_bind.mpr ⟨_, phases.valueBoxMade, ?_⟩
  exact Draft.yields_bind.mpr ⟨_, phases.environmentMade, Draft.yields_pure.mpr rfl⟩

theorem yields_isSelected {selected : Bool}
    (made : (job.isSelected definition).Yields granted selected) :
    Policy.shouldGenerate definition.name definition.directives job.settings.generateAll =
      .ok selected := by
  obtain ⟨policy, read, made⟩ := Draft.yields_bind.mp made
  obtain rfl := Draft.yields_pure.mp made
  obtain ⟨representation, represented, rfl⟩ :=
    Policy.ofDefinition_ok_iff.mp (Draft.yields_lift.mp read)
  exact Policy.shouldGenerate_ok_iff.mpr ⟨representation, represented, rfl⟩

/-- Whole groups: each artifact comes with those made together with it, and a paged group only
where pages are served. -/
def Grouped (job : Job) (granted : Set Key) (served : Bool) (artifacts : List Artifact) : Prop :=
  ∀ artifact ∈ artifacts, ∃ paged group, Group job granted paged group ∧ artifact ∈ group ∧
    (∀ other ∈ group, other ∈ artifacts) ∧ (paged = true → served = true)

theorem Group.grouped {paged : Bool} (made : Group job granted paged artifacts) :
    Grouped job granted paged artifacts :=
  fun _ among => ⟨paged, artifacts, made, among, fun _ member => member, id⟩

theorem grouped_nil : Grouped job granted served [] := by
  simp [Grouped]

theorem Grouped.mono {paged : Bool} (grouped : Grouped job granted paged artifacts)
    (serves : paged = true → served = true) : Grouped job granted served artifacts := by
  intro artifact among
  obtain ⟨needs, group, made, member, whole, noted⟩ := grouped artifact among
  exact ⟨needs, group, made, member, whole, fun paged => serves (noted paged)⟩

theorem grouped_flatten {parts : List (List Artifact)}
    (each : ∀ part ∈ parts, Grouped job granted served part) :
    Grouped job granted served parts.flatten := by
  intro artifact among
  obtain ⟨part, listed, among⟩ := List.mem_flatten.mp among
  obtain ⟨paged, group, made, member, whole, noted⟩ := each part listed artifact among
  exact ⟨paged, group, made, member,
    fun other inside => List.mem_flatten.mpr ⟨part, listed, whole other inside⟩, noted⟩

theorem Grouped.append {more : List Artifact} (first : Grouped job granted served artifacts)
    (second : Grouped job granted served more) : Grouped job granted served (artifacts ++ more) := by
  have both : Grouped job granted served [artifacts, more].flatten :=
    grouped_flatten (by simp [first, second])
  simpa using both

theorem grouped_when {draft : Draft Artifact} {wanted : Bool}
    (single : ∀ artifact, draft.Yields granted artifact → Group job granted false [artifact])
    (made : (draft.when wanted).Yields granted artifacts) :
    Grouped job granted served artifacts := by
  cases wanted with
  | true =>
    obtain ⟨artifact, alone, rfl⟩ := Draft.yields_when.mp made
    exact (single artifact alone).grouped.mono (by simp)
  | false =>
    obtain rfl : artifacts = [] := Draft.yields_when.mp made
    exact grouped_nil

theorem fieldContribution_grouped {record : RecordType} {field : Field}
    {contribution : Contribution} (member : .output record ∈ job.schema.types)
    (listed : field ∈ record.fields)
    (made : (job.fieldContribution record.name field).Yields granted contribution) :
    Grouped job granted contribution.paginated contribution.artifacts := by
  obtain ⟨policy, _, made⟩ := Draft.yields_bind.mp made
  split at made
  · obtain rfl := Draft.yields_pure.mp made
    exact grouped_nil
  · split at made
    · obtain ⟨artifacts, connected, made⟩ := Draft.yields_bind.mp made
      obtain rfl := Draft.yields_pure.mp made
      exact (Group.connection member listed connected).grouped
    · obtain ⟨artifacts, resolved, made⟩ := Draft.yields_bind.mp made
      obtain rfl := Draft.yields_pure.mp made
      exact (Group.resolver member listed resolved).grouped

theorem outputContribution_origin {contribution : Contribution}
    (member : definition ∈ job.schema.types)
    (made : (job.outputContribution definition).Yields granted contribution) :
    Grouped job granted contribution.paginated contribution.artifacts ∧
    ∀ record, definition = .output record →
      Policy.shouldGenerate record.name record.directives job.settings.generateAll = .ok true →
      ∃ artifact ∈ contribution.artifacts,
        artifact.name = job.settings.compose (.typeName .output record.name) := by
  cases definition with
  | output record =>
    obtain ⟨selected, decided, made⟩ := Draft.yields_bind.mp made
    obtain ⟨own, ownMade, made⟩ := Draft.yields_bind.mp made
    obtain ⟨served, servedEach, made⟩ := Draft.yields_bind.mp made
    obtain rfl := Draft.yields_pure.mp made
    have decided := yields_isSelected decided
    refine ⟨.append (grouped_when (fun _ => .output member) ownMade) ?_, ?_⟩
    · refine grouped_flatten fun part listed => ?_
      obtain ⟨contribution, among, rfl⟩ := List.mem_map.mp listed
      obtain ⟨field, ofRecord, made⟩ :=
        (Draft.yields_mapM.mp servedEach).exists_of_mem_right among
      exact (fieldContribution_grouped member ofRecord made).mono fun paged =>
        List.any_eq_true.mpr ⟨contribution, among, paged⟩
    · rintro _ ⟨⟩ wanted
      obtain rfl : selected = true := Except.ok.inj (decided.symm.trans wanted)
      obtain ⟨artifact, single, rfl⟩ := Draft.yields_when.mp ownMade
      obtain ⟨_, _, _, rfl⟩ := outputArtifact_origin single
      exact ⟨_, .head _, rfl⟩
  | scalar _ _ | enum _ _ _ | input _ | interface _ | union _ _ _ =>
    obtain rfl := Draft.yields_pure.mp made
    exact ⟨grouped_nil, by simp⟩

theorem interfaceContribution_grouped (member : definition ∈ job.schema.types)
    (made : (job.interfaceContribution definition).Yields granted artifacts) :
    Grouped job granted false artifacts := by
  cases definition with
  | interface record =>
    obtain ⟨selected, _, made⟩ := Draft.yields_bind.mp made
    exact grouped_when (fun _ => .interface member) made
  | scalar _ _ | enum _ _ _ | input _ | output _ | union _ _ _ =>
    obtain rfl := Draft.yields_pure.mp made
    exact grouped_nil

theorem outputs_grouped {contributions : List Contribution}
    (each : List.Forall₂ (fun definition contribution =>
      (job.outputContribution definition).Yields granted contribution) job.schema.types
      contributions) :
    Grouped job granted (contributions.any (·.paginated)) (contributions.flatMap (·.artifacts)) := by
  refine grouped_flatten fun part listed => ?_
  obtain ⟨contribution, among, rfl⟩ := List.mem_map.mp listed
  obtain ⟨definition, member, made⟩ := each.exists_of_mem_right among
  exact (outputContribution_origin member made).1.mono fun paged =>
    List.any_eq_true.mpr ⟨contribution, among, paged⟩

theorem interfaces_grouped {parts : List (List Artifact)}
    (each : List.Forall₂ (fun definition part =>
      (job.interfaceContribution definition).Yields granted part) job.schema.types parts) :
    Grouped job granted false parts.flatten := by
  refine grouped_flatten fun part listed => ?_
  obtain ⟨definition, member, made⟩ := each.exists_of_mem_right listed
  exact interfaceContribution_grouped member made

/-- The types that are selected or named by artifacts are emitted on demand. -/
theorem known_of_selected {selected : List (List String)} (artifacts : List Artifact)
    (each : List.Forall₂ (fun definition names =>
      (job.selectedName definition).Yields granted names) job.onDemand selected) :
    ∀ type ∈ selected.flatten ++ artifacts.flatMap (referencedTypes job.owners),
      type ∈ job.onDemand.map Definition.name := by
  intro type among
  rw [List.mem_append, List.mem_flatten, List.mem_flatMap] at among
  rcases among with ⟨names, listed, among⟩ | ⟨artifact, _, named⟩
  · obtain ⟨definition, member, made⟩ := each.exists_of_mem_right listed
    obtain ⟨wanted, _, made⟩ := Draft.yields_bind.mp made
    cases wanted with
    | true =>
      obtain ⟨called, same, rfl⟩ := Draft.yields_when.mp made
      obtain rfl := Draft.yields_pure.mp same
      exact List.mem_singleton.mp among ▸ List.mem_map_of_mem member
    | false =>
      obtain rfl : names = [] := Draft.yields_when.mp made
      simp at among
  · exact mem_referencedTypes named

theorem enumContribution_origin {found : Reach} (member : definition ∈ job.schema.types)
    (made : (job.enumContribution found definition).Yields granted artifacts) :
    Grouped job granted false artifacts ∧
    ∀ called values directives, definition = .enum called values directives →
      called ∈ found.types →
      ∃ artifact ∈ artifacts, artifact.name = job.settings.compose (.typeName .enum called) := by
  cases definition with
  | enum called values directives =>
    refine ⟨grouped_when (fun _ => .enum member) made, ?_⟩
    rintro _ _ _ ⟨⟩ reached
    rw [enumContribution, Draft.yields_when, if_pos (by simpa using reached)] at made
    obtain ⟨artifact, single, rfl⟩ := made
    obtain ⟨_, rfl⟩ := yields_enumArtifact.mp single
    exact ⟨_, .head _, rfl⟩
  | scalar _ _ | input _ | output _ | interface _ | union _ _ _ =>
    obtain rfl := Draft.yields_pure.mp made
    exact ⟨grouped_nil, by simp⟩

theorem enumContribution_silent {found : Reach}
    (made : (job.enumContribution found definition).Yields granted artifacts)
    (among : artifact ∈ artifacts) : artifact.references = [] := by
  cases definition with
  | enum called values directives =>
    rw [enumContribution, Draft.yields_when] at made
    split at made
    · obtain ⟨other, single, rfl⟩ := made
      obtain rfl := List.mem_singleton.mp among
      obtain ⟨_, rfl⟩ := yields_enumArtifact.mp single
      exact List.eq_nil_iff_forall_not_mem.mpr fun name => by simp [mem_references, Member.names]
    · simp [made] at among
  | scalar _ _ | input _ | output _ | interface _ | union _ _ _ =>
    obtain rfl := Draft.yields_pure.mp made
    simp at among

end Typewright.Job
