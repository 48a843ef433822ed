import Typewright.Proofs.Emission

/-! Whatever the artifacts of a run name is among the artifacts of the run. -/
namespace Typewright.Job

variable {job : Job} {granted : Set Key} {artifact : Artifact} {name : QualifiedName}

namespace Phases

variable {phases : Phases job granted}

/-- The types that are selected or that output records, resolvers and interfaces name. -/
def pending (phases : Phases job granted) : List String :=
  phases.selected.flatten ++
    (phases.outputs ++ phases.interfaces.flatten).flatMap (referencedTypes job.owners)

theorem pending_known (phases : Phases job granted) :
    ∀ type ∈ phases.pending, type ∈ job.onDemand.map Definition.name :=
  known_of_selected _ phases.selectedEach

/-- The worklist starts from types emitted on demand and ends with nothing left to reach. -/
theorem found_valid (phases : Phases job granted) :
    Reach.Invariant job granted phases.found [] ∧
      ∀ type ∈ phases.pending, type ∈ phases.found.types := by
  have known : ∀ type ∈ phases.pending.reverse, type ∈ job.onDemand.map Definition.name :=
    fun type among => phases.pending_known type (List.mem_reverse.mp among)
  obtain ⟨valid, covered⟩ := reach_run (Reach.start_invariant known) (by simp) phases.reached
  exact ⟨valid, fun type member =>
    covered type (List.mem_append_right _ (List.mem_reverse.mpr member))⟩

theorem grouped (phases : Phases job granted) :
    Grouped job granted (phases.served.any (·.paginated)) phases.artifacts := by
  have valid := phases.found_valid.1
  have shared {role : Role} {artifact : Artifact} (made : Shared job granted role artifact) :
      Grouped job granted (phases.served.any (·.paginated)) [artifact] :=
    (Group.shared made).grouped.mono (by simp)
  refine .append (.append (.append (.append (.append ?enums ?inputs) ?outputs) ?interfaces)
    ?pageInfo) (.append (shared (valueBoxArtifact_origin phases.valueBoxMade))
      (shared (environmentArtifact_origin phases.environmentMade)))
  case enums =>
    refine grouped_flatten fun part listed => ?_
    obtain ⟨definition, member, made⟩ := phases.enumsEach.exists_of_mem_right listed
    exact (enumContribution_origin member made).1.mono (by simp)
  case inputs =>
    refine grouped_flatten fun part listed => ?_
    obtain ⟨definition, member, rfl⟩ := List.mem_map.mp listed
    cases definition with
    | input record =>
      cases entered : phases.found.inputs.get? record.name with
      | none => simpa [inputContribution, entered] using grouped_nil
      | some artifacts =>
        obtain ⟨other, defined, _, made⟩ := valid.made _ _ entered
        simpa [inputContribution, entered] using (Group.input defined made).grouped.mono (by simp)
    | scalar _ _ | enum _ _ _ | output _ | interface _ | union _ _ _ => exact grouped_nil
  case outputs => exact outputs_grouped phases.servedEach
  case interfaces => exact (interfaces_grouped phases.interfacesEach).mono (by simp)
  case pageInfo =>
    exact grouped_when (fun _ made => .shared (pageInfoArtifact_origin made)) phases.pageInfoMade

theorem referenced_reached (among : artifact ∈ phases.artifacts) {type : String}
    (named : type ∈ referencedTypes job.owners artifact) : type ∈ phases.found.types := by
  obtain ⟨valid, covered⟩ := phases.found_valid
  have silent (none : artifact.references = []) : type ∈ phases.found.types := by
    simp [referencedTypes, none] at named
  rcases mem_artifacts.mp among with
    ofEnums | ofInputs | ofOutputs | ofInterfaces | ofPageInfo | rfl | rfl
  · obtain ⟨part, listed, among⟩ := List.mem_flatten.mp ofEnums
    obtain ⟨definition, _, made⟩ := phases.enumsEach.exists_of_mem_right listed
    exact silent (enumContribution_silent made among)
  · obtain ⟨definition, member, among⟩ := List.mem_flatMap.mp ofInputs
    cases definition with
    | input record =>
      cases entered : phases.found.inputs.get? record.name with
      | none => simp [inputContribution, entered] at among
      | some artifacts =>
        simp only [inputContribution, entered, Option.getD_some] at among
        simpa using valid.closed _ _ entered artifact among type named
    | scalar _ _ | enum _ _ _ | output _ | interface _ | union _ _ _ =>
      simp [inputContribution] at among
  · refine covered type (List.mem_append_right _ (List.mem_flatMap.mpr ⟨artifact, ?_, named⟩))
    exact List.mem_append_left _ ofOutputs
  · refine covered type (List.mem_append_right _ (List.mem_flatMap.mpr ⟨artifact, ?_, named⟩))
    exact List.mem_append_right _ ofInterfaces
  · have made := Draft.yields_when.mp phases.pageInfoMade
    split at made
    · obtain ⟨single, made, alone⟩ := made
      obtain rfl : artifact = single := by simpa [alone] using ofPageInfo
      exact silent (pageInfoArtifact_origin made).silent
    · simp [made] at ofPageInfo
  · exact silent (valueBoxArtifact_origin phases.valueBoxMade).silent
  · exact silent (environmentArtifact_origin phases.environmentMade).silent

theorem reached_emitted {definition : Definition} (among : definition ∈ job.onDemand)
    (reached : definition.name ∈ phases.found.types) (own : name ∈ job.ownNames definition) :
    ∃ artifact ∈ phases.artifacts, artifact.name = name := by
  obtain ⟨member, onDemand⟩ := mem_onDemand.mp among
  cases definition with
  | enum called values directives =>
    obtain ⟨part, listed, made⟩ := phases.enumsEach.exists_of_mem_left member
    obtain ⟨artifact, inside, same⟩ :=
      (enumContribution_origin member made).2 called values directives rfl reached
    refine ⟨artifact, mem_artifacts.mpr (.inl (List.mem_flatten.mpr ⟨part, listed, inside⟩)), ?_⟩
    exact same.trans (List.mem_singleton.mp own).symm
  | input record =>
    have valid := phases.found_valid.1
    obtain ⟨artifacts, entered⟩ := Option.isSome_iff_exists.mp (valid.filled record member reached)
    obtain ⟨other, defined, same, made⟩ := valid.made _ _ entered
    obtain ⟨_, fields, _, rfl⟩ := inputArtifacts_origin made
    have emitted {artifact : Artifact} (inside : artifact ∈ parsedRecord
        (job.settings.compose (.typeName .input other.name))
        (job.settings.compose (.ofType .inputParser other.name)) "value" other.name fields) :
        artifact ∈ phases.artifacts :=
      mem_artifacts.mpr (.inr (.inl (List.mem_flatMap.mpr ⟨.input record, member, by
        simpa only [inputContribution, entered, Option.getD_some] using inside⟩)))
    rw [same] at emitted
    simp only [ownNames, List.mem_cons, List.not_mem_nil, or_false] at own
    rcases own with rfl | rfl
    · exact ⟨_, emitted (.head _), rfl⟩
    · exact ⟨_, emitted (.tail _ (.head _)), rfl⟩
  | scalar _ _ | output _ | interface _ | union _ _ _ => simp [isOnDemand] at onDemand

/-- Every name that refers to a type on demand is the name of an emitted artifact, though perhaps
by way of another type of that name. -/
theorem onDemand_emitted {definition : Definition} (among : artifact ∈ phases.artifacts)
    (named : name ∈ artifact.references) (member : definition ∈ job.onDemand)
    (own : name ∈ job.ownNames definition) : ∃ other ∈ phases.artifacts, other.name = name := by
  obtain ⟨owner, owns, mine, listed⟩ := exists_referencedType member own named
  exact reached_emitted owns (referenced_reached among listed) mine

theorem output_emitted (phases : Phases job granted) {record : RecordType}
    (member : .output record ∈ job.schema.types)
    (selected : Policy.shouldGenerate record.name record.directives job.settings.generateAll =
      .ok true) :
    ∃ other ∈ phases.artifacts,
      other.name = job.settings.compose (.typeName .output record.name) := by
  obtain ⟨contribution, among, made⟩ := phases.servedEach.exists_of_mem_left member
  obtain ⟨artifact, inside, same⟩ := (outputContribution_origin member made).2 record rfl selected
  refine ⟨artifact, mem_artifacts.mpr (.inr (.inr (.inl ?_))), same⟩
  exact List.mem_flatMap.mpr ⟨contribution, among, inside⟩

theorem environment_emitted (phases : Phases job granted) :
    ∃ other ∈ phases.artifacts, other.name = job.settings.compose (.shared .environment) :=
  ⟨phases.environment, by simp [artifacts], (environmentArtifact_origin phases.environmentMade).named⟩

theorem pageInfo_emitted (phases : Phases job granted)
    (served : phases.served.any (·.paginated) = true) :
    ∃ other ∈ phases.artifacts, other.name = job.settings.compose (.shared .pageInfo) := by
  have made := Draft.yields_when.mp phases.pageInfoMade
  rw [if_pos served] at made
  obtain ⟨artifact, made, alone⟩ := made
  exact ⟨artifact, by simp [artifacts, alone], (pageInfoArtifact_origin made).named⟩

theorem closed (among : artifact ∈ phases.artifacts) (named : name ∈ artifact.references) :
    ∃ other ∈ phases.artifacts, other.name = name := by
  obtain ⟨paged, group, made, member, whole, serves⟩ := phases.grouped artifact among
  rcases made.references member named with
    elsewhere | ⟨other, inside, same⟩ | rfl | ⟨needed, rfl⟩
  · cases elsewhere with
    | onDemand listed own _ _ =>
      exact onDemand_emitted among named listed (ownNames_eq job _ ▸ List.mem_map_of_mem own)
    | output listed selected => exact phases.output_emitted listed selected
  · exact ⟨other, whole other inside, same⟩
  · exact phases.environment_emitted
  · exact phases.pageInfo_emitted (serves needed)

end Phases

/-- Every name to which an artifact of a run refers is the name of an artifact of that run. -/
theorem generate_closed {artifacts : List Artifact} (generated : job.generate = .ok artifacts) :
    ∀ artifact ∈ artifacts, ∀ name ∈ artifact.references,
      ∃ other ∈ artifacts, other.name = name := by
  obtain ⟨granted, _, made⟩ := Draft.settle_ok generated
  obtain ⟨phases, rfl⟩ := emission_phases made
  exact fun artifact among name named => Phases.closed among named

/-- A shop with one served field. Its argument leads to an input record that contains itself, and
only from there to an enum. -/
def shop : Job where
  schema := .ofList [
    .enum "Color" ["RED", "BLUE"] .empty,
    .input ⟨"Filter", [
      ⟨"color", .named "Color", [], .empty⟩,
      ⟨"any", .list (.nonNull (.named "Filter")), [], .ofList [⟨"doubleNull", []⟩]⟩], .empty⟩,
    .output ⟨"Query", [
      ⟨"search", .nonNull (.list (.named "Int")), [⟨"filter", .nonNull (.named "Filter"), .empty⟩],
        .ofList [⟨"generate", []⟩]⟩], .empty⟩,
    .union "Root" ["Query"] .empty]
  settings := {}

def shopNames : List String :=
  ["generated.enums.Color", "generated.inputs.Filter", "generated.inputs.parse_filter",
    "generated.resolvers.QuerySearchArgs", "generated.resolvers.parse_query_search_args",
    "generated.resolvers.QuerySearchResolver", "generated.runtime.Present",
    "generated.runtime.ResolverEnv"]

theorem generate_closed_shop :
    ∃ artifacts, shop.generate = .ok artifacts ∧ artifacts.map (·.name.display) = shopNames ∧
      ∀ artifact ∈ artifacts, ∀ name ∈ artifact.references,
        ∃ other ∈ artifacts, other.name = name := by
  have named : (shop.generate.map (·.map (·.name.display))).toOption = some shopNames := by
    decide +kernel
  obtain ⟨artifacts, generated, named⟩ := map_eq_ok_iff.mp (toOption_eq_some_iff.mp named)
  exact ⟨artifacts, generated, named, generate_closed generated⟩

end Typewright.Job
