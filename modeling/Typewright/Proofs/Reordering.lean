import Typewright.Proofs.Correspondence
import Typewright.Proofs.Exactness
import Typewright.Proofs.Nesting

/-! The order in which a schema declares its types decides the order of what a run emits, and nothing
else. It may decide which of two types with one name the table of owners leads to; a run that
succeeds grants the name to one of them only, and refers to that one in every order. -/
namespace Typewright.Job

/-- The same types under the same settings, declared in another order. -/
structure Reordered (job other : Job) : Prop where
  settings : other.settings = job.settings
  types : job.schema.types.Perm other.schema.types

variable {job other : Job} {definition : Definition} {artifact : Artifact}
  {artifacts others : List Artifact} {node name : String}

namespace Reordered

theorem symm (reordered : Reordered job other) : Reordered other job :=
  ⟨reordered.settings.symm, reordered.types.symm⟩

variable (reordered : Reordered job other)

include reordered

theorem get? : other.schema.get? name = job.schema.get? name := by
  ext definition
  simp only [Schema.get?_eq_some_iff, reordered.types.mem_iff]

theorem lookup : other.schema.lookup node name = job.schema.lookup node name := by
  rw [Schema.lookup, Schema.lookup, reordered.get?]

theorem mem_onDemand_iff : definition ∈ other.onDemand ↔ definition ∈ job.onDemand := by
  rw [mem_onDemand, mem_onDemand, reordered.types.mem_iff]

theorem selects_iff : other.Selects definition ↔ job.Selects definition := by
  rw [Selects, Selects, reordered.settings]

theorem baseOfDefinition (nested : Nat) :
    other.baseOfDefinition nested definition = job.baseOfDefinition nested definition := by
  induction nested generalizing definition with
  | zero => exact baseOfDefinition_zero reordered.settings
  | succ nested ih =>
    refine baseOfDefinition_congr reordered.settings fun union members directives _ member _ => ?_
    rw [memberBase, memberBase, reordered.lookup]
    exact bind_congr fun inner => ih

theorem resolveBase : other.resolveBase node name = job.resolveBase node name := by
  have size : other.schema.size = job.schema.size := reordered.types.symm.length_eq
  rw [Job.resolveBase, Job.resolveBase, reordered.settings, reordered.lookup]
  simp only [resolveDefinition, reordered.baseOfDefinition, size]

theorem corresponds : job.Corresponds other id fun _ => True where
  names _ := by rw [reordered.settings]; rfl
  generateAll := by rw [reordered.settings]
  contextType := by rw [reordered.settings]
  scalars := by rw [reordered.settings]
  found _ _ := reordered.get?
  bases _ _ _ := by simp [reordered.resolveBase]

theorem inputArtifacts (record : RecordType) :
    other.inputArtifacts record = job.inputArtifacts record := by
  simpa using reordered.corresponds.inputArtifacts fun _ _ => trivial

theorem outputContribution : other.outputContribution = job.outputContribution := by
  funext definition
  simpa using reordered.corresponds.outputContribution trivial fun _ _ => trivial

theorem interfaceContribution : other.interfaceContribution = job.interfaceContribution := by
  funext definition
  simpa using reordered.corresponds.interfaceContribution fun _ _ => trivial

theorem enumPart (chosen : Set Definition) : EnumPart other chosen = EnumPart job chosen := by
  funext definition part
  cases definition with
  | enum name values _ => simp [EnumPart, reordered.corresponds.enumArtifact]
  | scalar _ _ | input _ | output _ | interface _ | union _ _ _ => rfl

theorem inputPart (chosen : Set Definition) : InputPart other chosen = InputPart job chosen := by
  funext definition part
  cases definition with
  | input record => simp [InputPart, reordered.inputArtifacts]
  | scalar _ _ | enum _ _ _ | output _ | interface _ | union _ _ _ => rfl

end Reordered

section Runs

variable {phases : Phases job {key | key ∈ job.emission.claims}}
  {later : Phases other {key | key ∈ other.emission.claims}}

/-- A group whose names both runs claim refers to the same types in both: it finds an owner under a
key that both claim, and the first run has no other. -/
theorem RefersTo.of_group {paged : Bool} {group : List Artifact} (reordered : Reordered job other)
    (generated : job.generate = .ok artifacts) (regenerated : other.generate = .ok others)
    (made : Group job ({key | key ∈ job.emission.claims} ∩ {key | key ∈ other.emission.claims})
      paged group)
    (among : artifact ∈ group) (refers : job.RefersTo artifact definition) :
    other.RefersTo artifact definition := by
  obtain ⟨key, own, claimed, listed⟩ := (refersTo_iff generated).mp refers
  obtain ⟨_, _, twin, _, both, composed, _⟩ := made.exists_owner among listed (segment_of_ownKeys own)
  obtain rfl : twin = key := Draft.injOn_claims generated both.1 claimed composed
  exact (refersTo_iff regenerated).mpr ⟨twin, own, both.2, reordered.settings ▸ listed⟩

section

variable (reordered : Reordered job other)

include reordered

theorem served_perm : phases.served.Perm later.served := by
  have laterEach := later.servedEach
  rw [reordered.outputContribution] at laterEach
  exact Draft.perm_of_forall₂ reordered.types phases.servedEach laterEach

theorem outputs_perm : phases.outputs.Perm later.outputs :=
  (served_perm reordered).flatMap_right Contribution.artifacts

theorem interfaces_perm : phases.interfaces.Perm later.interfaces := by
  have laterEach := later.interfacesEach
  rw [reordered.interfaceContribution] at laterEach
  exact Draft.perm_of_forall₂ reordered.types phases.interfacesEach laterEach

/-- What serves a field or states an interface is made in both runs alike. -/
theorem exists_group (later : Phases other {key | key ∈ other.emission.claims})
    (among : artifact ∈ phases.outputs ++ phases.interfaces.flatten) :
    ∃ paged group, Group job
      ({key | key ∈ job.emission.claims} ∩ {key | key ∈ other.emission.claims}) paged group ∧
      artifact ∈ group := by
  rcases List.mem_append.mp among with ofOutputs | ofInterfaces
  · obtain ⟨contribution, listed, among⟩ := List.mem_flatMap.mp ofOutputs
    obtain ⟨source, member, made⟩ := phases.servedEach.exists_of_mem_right listed
    obtain ⟨again, _, remade⟩ :=
      later.servedEach.exists_of_mem_left (reordered.types.mem_iff.mp member)
    rw [reordered.outputContribution] at remade
    obtain ⟨paged, group, made, inside, _⟩ :=
      (outputContribution_origin member (made.inter remade)).1 artifact among
    exact ⟨paged, group, made, inside⟩
  · obtain ⟨part, listed, among⟩ := List.mem_flatten.mp ofInterfaces
    obtain ⟨source, member, made⟩ := phases.interfacesEach.exists_of_mem_right listed
    obtain ⟨again, _, remade⟩ :=
      later.interfacesEach.exists_of_mem_left (reordered.types.mem_iff.mp member)
    rw [reordered.interfaceContribution] at remade
    obtain ⟨paged, group, made, inside, _⟩ :=
      interfaceContribution_grouped member (made.inter remade) artifact among
    exact ⟨paged, group, made, inside⟩

/-- What one run reaches the other one reaches as well. -/
theorem reachedTypes_reordered (generated : job.generate = .ok artifacts)
    (regenerated : other.generate = .ok others) : phases.reachedTypes ⊆ later.reachedTypes := by
  have closed : Closed other other.RefersTo later.reachedTypes := closed_reachedTypes regenerated
  refine reachedTypes_induction generated ?selected ?served ?input
  case selected =>
    intro definition member selects
    exact closed.selected definition (reordered.mem_onDemand_iff.mpr member)
      (reordered.selects_iff.mpr selects)
  case served =>
    intro artifact among definition member refers
    obtain ⟨paged, group, made, inside⟩ := exists_group reordered later among
    have again : artifact ∈ later.outputs ++ later.interfaces.flatten :=
      ((outputs_perm reordered).append (interfaces_perm reordered).flatten).mem_iff.mp among
    have emitted : artifact ∈ later.artifacts :=
      Phases.mem_artifacts.mpr (.inr (.inr ((List.mem_append.mp again).imp_right .inl)))
    exact closed.named artifact (later.layout.mem_artifacts.mp (later.layout_artifacts ▸ emitted))
      definition (reordered.mem_onDemand_iff.mpr member)
      (refers.of_group reordered generated regenerated made inside)
  case input =>
    intro record group onDemand reached made artifact inside _ definition member refers
    have defined := (mem_onDemand.mp onDemand).1
    have remade := later.yields_of_reached reached
      ((reordered.inputArtifacts record).symm ▸ made.outcome)
    have again : Emitted other later.reachedTypes artifact :=
      .input (reordered.types.mem_iff.mp defined) ⟨fun _ => remade.outcome, absurd reached⟩ inside
    rw [reordered.inputArtifacts] at remade
    exact closed.named artifact again definition (reordered.mem_onDemand_iff.mpr member)
      (refers.of_group reordered generated regenerated
        (.input defined (made.inter remade)) inside)

end

end Runs

/-- Two runs that declare the same types in different orders and both succeed emit the same
artifacts, each as often in the one as in the other. -/
theorem generate_perm (reordered : Reordered job other) (generated : job.generate = .ok artifacts)
    (regenerated : other.generate = .ok others) : artifacts.Perm others := by
  obtain ⟨phases, rfl⟩ := emission_phases (Draft.yields_of_settle generated)
  obtain ⟨later, rfl⟩ := emission_phases (Draft.yields_of_settle regenerated)
  have chosen : later.reachedTypes = phases.reachedTypes :=
    (reachedTypes_reordered reordered.symm regenerated generated).antisymm
      (reachedTypes_reordered reordered generated regenerated)
  have same := reordered.corresponds
  have enums : phases.enums.Perm later.enums := by
    have laterEach : List.Forall₂ (EnumPart other later.reachedTypes) other.schema.types later.enums :=
      later.layout.enumsEach
    rw [chosen, reordered.enumPart] at laterEach
    have unique : Relator.RightUnique (EnumPart job phases.reachedTypes) :=
      fun _ _ _ => EnumPart.unique
    exact List.rel_perm_imp unique phases.layout.enumsEach laterEach reordered.types
  have inputs : phases.inputs.Perm later.inputs := by
    have laterEach : List.Forall₂ (InputPart other later.reachedTypes) other.schema.types
        (other.schema.types.map (inputContribution later.found)) := later.layout.inputsEach
    rw [chosen, reordered.inputPart] at laterEach
    rw [Phases.inputs, Phases.inputs, List.flatMap_def, List.flatMap_def]
    have unique : Relator.RightUnique (InputPart job phases.reachedTypes) :=
      fun _ _ _ => InputPart.unique
    exact (List.rel_perm_imp unique phases.layout.inputsEach laterEach reordered.types).flatten
  have served : phases.served.Perm later.served := served_perm reordered
  have outputs : phases.outputs.Perm later.outputs := outputs_perm reordered
  have interfaces : phases.interfaces.Perm later.interfaces := interfaces_perm reordered
  have pageInfo : phases.pageInfo = later.pageInfo := by
    have again := later.pageInfoMade
    rw [← served.any_eq, same.pageInfoArtifact, Artifact.rename_id, id_map] at again
    exact phases.pageInfoMade.unique again
  have valueBox : phases.valueBox = later.valueBox := by
    have again := later.valueBoxMade
    rw [same.valueBoxArtifact, Artifact.rename_id, id_map] at again
    exact phases.valueBoxMade.unique again
  have environment : phases.environment = later.environment := by
    have again := later.environmentMade
    rw [same.environmentArtifact, Artifact.rename_id, id_map] at again
    exact phases.environmentMade.unique again
  rw [Phases.artifacts, Phases.artifacts, pageInfo, valueBox, environment]
  exact ((((enums.flatten.append inputs).append outputs).append interfaces.flatten).append_right
    _).append_right _

def reversed (job : Job) : Job where
  schema :=
    { types := job.schema.types.reverse
      distinct := by simpa using job.schema.distinct
      index := (job.schema.types.reverse.map Definition.name).zipIdx
      located := Schema.Index.locates_zipIdx (by simpa using job.schema.distinct) }
  settings := job.settings

theorem reordered_reversed (job : Job) : Reordered job job.reversed :=
  ⟨rfl, (List.reverse_perm _).symm⟩

/-- Two enums. A field has the type of the first, and its argument that of the second. -/
def paints : Job where
  schema := .ofList [
    .enum "Color" ["RED", "BLUE"] .empty,
    .enum "Finish" ["MATT", "GLOSS"] .empty,
    .output ⟨"Query", [⟨"pick", .named "Color", [⟨"finish", .named "Finish", .empty⟩],
      .ofList [⟨"generate", []⟩]⟩], .empty⟩]
  settings := {}

/-- The order of declaration shows in what is emitted. -/
theorem generate_perm_paints :
    Reordered paints paints.reversed ∧
    ∃ artifacts others, paints.generate = .ok artifacts ∧ paints.reversed.generate = .ok others ∧
      artifacts ≠ others ∧ artifacts.Perm others := by
  have runs : (paints.generate.toOption.any fun artifacts =>
      paints.reversed.generate.toOption.any (artifacts != ·)) = true := by
    decide +kernel
  refine ⟨reordered_reversed paints, ?_⟩
  obtain ⟨artifacts, generated, reruns⟩ := exists_ok_of_any runs
  obtain ⟨others, regenerated, apart⟩ := exists_ok_of_any reruns
  exact ⟨artifacts, others, generated, regenerated, bne_iff_ne.mp apart,
    generate_perm (reordered_reversed paints) generated regenerated⟩

end Typewright.Job
