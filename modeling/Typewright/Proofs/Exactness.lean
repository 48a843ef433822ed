import Typewright.Proofs.DistinctKeys
import Typewright.Proofs.Layout

/-! A run emits the types that it selects, those to which its artifacts refer, and no others: what
its worklist reaches is the least closed set of types. -/
namespace Typewright.Job

variable {job : Job} {granted : Set Key} {chosen : Set Definition} {artifact : Artifact}
  {artifacts part others : List Artifact} {definition : Definition} {container : String}
  {field : Field}

theorem Part.unique {wanted : Prop} {draft : Draft (List Artifact)} (one : Part wanted draft part)
    (two : Part wanted draft others) : part = others := by
  by_cases holds : wanted
  · exact Except.ok.inj ((one.made holds).symm.trans (two.made holds))
  · rw [one.none holds, two.none holds]

theorem EnumPart.unique (one : EnumPart job chosen definition part)
    (two : EnumPart job chosen definition others) : part = others := by
  cases definition with
  | enum _ _ _ => exact Part.unique one two
  | scalar _ _ | input _ | output _ | interface _ | union _ _ _ => exact one.trans two.symm

theorem InputPart.unique (one : InputPart job chosen definition part)
    (two : InputPart job chosen definition others) : part = others := by
  cases definition with
  | input _ => exact Part.unique one two
  | scalar _ _ | enum _ _ _ | output _ | interface _ | union _ _ _ => exact one.trans two.symm

theorem InterfacePart.unique (one : InterfacePart job definition part)
    (two : InterfacePart job definition others) : part = others := by
  cases definition with
  | interface _ => exact Part.unique one two
  | scalar _ _ | enum _ _ _ | input _ | output _ | union _ _ _ => exact one.trans two.symm

theorem FieldPart.unique (one : FieldPart job container field part)
    (two : FieldPart job container field others) : part = others := by
  have same {policy other : Policy}
      (read : Policy.ofField container field job.settings.generateAll = .ok policy)
      (also : Policy.ofField container field job.settings.generateAll = .ok other) :
      policy = other := Except.ok.inj (read.symm.trans also)
  cases one with
  | unselected read apart none =>
    cases two with
    | unselected _ _ noneToo => rw [none, noneToo]
    | paged serves _ =>
      obtain ⟨policy, also, selected, _⟩ := serves
      simp [same also read, apart] at selected
    | plain also selected _ _ => simp [same also read, apart] at selected
  | paged serves made =>
    cases two with
    | unselected read apart _ =>
      obtain ⟨policy, also, selected, _⟩ := serves
      simp [same also read, apart] at selected
    | paged _ also => exact Except.ok.inj (made.symm.trans also)
    | plain _ _ apart _ => exact absurd serves apart
  | plain read selected apart made =>
    cases two with
    | unselected also unselected _ => simp [same also read, selected] at unselected
    | paged serves _ => exact absurd serves apart
    | plain also _ _ madeToo =>
      obtain rfl := same read also
      exact Except.ok.inj (made.symm.trans madeToo)

theorem OutputPart.unique (one : OutputPart job definition part)
    (two : OutputPart job definition others) : part = others := by
  cases one with
  | record own fields =>
    cases two with
    | record ownToo fieldsToo =>
      obtain rfl := own.unique ownToo
      have unique (container : String) : Relator.RightUnique (FieldPart job container) :=
        fun _ _ _ => FieldPart.unique
      rw [List.right_unique_forall₂' (unique _) fields fieldsToo]
    | other apart => exact absurd rfl (apart _)
  | other apart =>
    cases two with
    | record _ _ => exact absurd rfl (apart _)
    | other _ => rfl

/-- A layout holds what is emitted on account of its types, and no more. -/
theorem Layout.mem_artifacts (layout : Layout job chosen) :
    artifact ∈ layout.artifacts ↔ Emitted job chosen artifact := by
  simp only [artifacts, List.mem_append, List.mem_flatten, List.mem_cons, List.not_mem_nil,
    or_false]
  constructor
  · rintro (((((⟨part, listed, among⟩ | ⟨part, listed, among⟩) | ⟨part, listed, among⟩) |
      ⟨part, listed, among⟩) | among) | rfl | rfl)
    · obtain ⟨definition, member, made⟩ := layout.enumsEach.exists_of_mem_right listed
      exact .enum member made among
    · obtain ⟨definition, member, made⟩ := layout.inputsEach.exists_of_mem_right listed
      exact .input member made among
    · obtain ⟨definition, member, made⟩ := layout.outputsEach.exists_of_mem_right listed
      exact .output member made among
    · obtain ⟨definition, member, made⟩ := layout.interfacesEach.exists_of_mem_right listed
      exact .interface member made among
    · exact .pageInfo layout.pageInfoMade among
    · exact .valueBox layout.valueBoxMade
    · exact .environment layout.environmentMade
  · intro emitted
    cases emitted with
    | enum member made among =>
      obtain ⟨part, listed, also⟩ := layout.enumsEach.exists_of_mem_left member
      exact .inl (.inl (.inl (.inl (.inl ⟨part, listed, also.unique made ▸ among⟩))))
    | input member made among =>
      obtain ⟨part, listed, also⟩ := layout.inputsEach.exists_of_mem_left member
      exact .inl (.inl (.inl (.inl (.inr ⟨part, listed, also.unique made ▸ among⟩))))
    | output member made among =>
      obtain ⟨part, listed, also⟩ := layout.outputsEach.exists_of_mem_left member
      exact .inl (.inl (.inl (.inr ⟨part, listed, also.unique made ▸ among⟩)))
    | interface member made among =>
      obtain ⟨part, listed, also⟩ := layout.interfacesEach.exists_of_mem_left member
      exact .inl (.inl (.inr ⟨part, listed, also.unique made ▸ among⟩))
    | pageInfo made among => exact .inl (.inr (layout.pageInfoMade.unique made ▸ among))
    | valueBox made => exact .inr (.inl (Except.ok.inj (made.symm.trans layout.valueBoxMade)))
    | environment made =>
      exact .inr (.inr (Except.ok.inj (made.symm.trans layout.environmentMade)))

namespace Phases

variable {phases : Phases job granted}

theorem paginates_iff (phases : Phases job granted) :
    phases.served.any (·.paginated) = true ↔ job.Paginates := by
  rw [List.any_eq_true]
  constructor
  · rintro ⟨contribution, among, paged⟩
    obtain ⟨definition, member, made⟩ := phases.servedEach.exists_of_mem_right among
    obtain ⟨record, rfl, serves⟩ := (outputPart_of_yields made).2.mp paged
    exact ⟨record, member, serves⟩
  · rintro ⟨record, member, serves⟩
    obtain ⟨contribution, among, made⟩ := phases.servedEach.exists_of_mem_left member
    exact ⟨contribution, among, (outputPart_of_yields made).2.mpr ⟨record, rfl, serves⟩⟩

theorem mem_reachedTypes (phases : Phases job granted) (member : definition ∈ job.schema.types)
    (onDemand : isOnDemand definition = true) :
    definition ∈ phases.reachedTypes ↔ definition.name ∈ phases.found.types :=
  and_iff_right (mem_onDemand.mpr ⟨member, onDemand⟩)

theorem enumPart (member : definition ∈ job.schema.types)
    (made : (job.enumContribution phases.found definition).Yields granted part) :
    EnumPart job phases.reachedTypes definition part := by
  cases definition with
  | enum name values directives =>
    refine part_of_when ?_ made
    rw [decide_eq_true_iff]
    exact (phases.mem_reachedTypes member rfl).symm
  | scalar _ _ | input _ | output _ | interface _ | union _ _ _ => exact Draft.yields_pure.mp made

theorem inputPart (member : definition ∈ job.schema.types) :
    InputPart job phases.reachedTypes definition (inputContribution phases.found definition) := by
  cases definition with
  | input record =>
    have valid := phases.found_valid.1
    have reached := phases.mem_reachedTypes member rfl
    cases entered : phases.found.inputs.get? record.name with
    | none =>
      refine ⟨fun here => ?_, fun _ => by simp [inputContribution, entered]⟩
      simpa [entered] using valid.filled record member (reached.mp here)
    | some artifacts =>
      refine ⟨fun _ => ?_, fun apart => ?_⟩
      · simpa [inputContribution, entered] using (valid.entered_eq member entered).outcome
      · exact absurd (reached.mpr (valid.entered _ _ entered)) apart
  | scalar _ _ | enum _ _ _ | output _ | interface _ | union _ _ _ => rfl

theorem mem_found_iff (phases : Phases job granted) {type : String} :
    type ∈ phases.found.types ↔ Reachable job phases.pending type := by
  rw [mem_types_reach (fun type among => phases.pending_known type (List.mem_reverse.mp among))
    phases.reached]
  exact Reachable.perm fun _ => List.mem_reverse

theorem yields_of_reached (phases : Phases job granted) {record : RecordType}
    (reached : .input record ∈ phases.reachedTypes)
    (made : (job.inputArtifacts record).outcome = .ok artifacts) :
    (job.inputArtifacts record).Yields granted artifacts := by
  have valid := phases.found_valid.1
  have member := (mem_onDemand.mp reached.1).1
  obtain ⟨group, entered⟩ := Option.isSome_iff_exists.mp (valid.filled record member reached.2)
  have filled := valid.entered_eq member entered
  obtain rfl := Except.ok.inj (made.symm.trans filled.outcome)
  exact filled

/-- The phases of a run lay it out around the types that they reach. -/
def layout (phases : Phases job granted) : Layout job phases.reachedTypes where
  enums := phases.enums
  inputs := job.schema.types.map (inputContribution phases.found)
  outputs := phases.served.map (·.artifacts)
  interfaces := phases.interfaces
  pageInfo := phases.pageInfo
  valueBox := phases.valueBox
  environment := phases.environment
  enumsEach := by
    have each := (List.forall₂_and_left _ _).mpr ⟨fun _ member => member, phases.enumsEach⟩
    exact each.imp fun _ _ made => enumPart made.1 made.2
  inputsEach := by
    rw [List.forall₂_map_right_iff, List.forall₂_same]
    exact fun _ => inputPart
  outputsEach := by
    rw [List.forall₂_map_right_iff]
    exact phases.servedEach.imp fun _ _ made => (outputPart_of_yields made).1
  interfacesEach := phases.interfacesEach.imp fun _ _ => interfacePart_of_yields
  pageInfoMade := part_of_when phases.paginates_iff phases.pageInfoMade
  valueBoxMade := phases.valueBoxMade.outcome
  environmentMade := phases.environmentMade.outcome

theorem layout_artifacts (phases : Phases job granted) :
    phases.layout.artifacts = phases.artifacts := by
  simp [Layout.artifacts, artifacts, layout, inputs, outputs, List.flatMap_def]

end Phases

def Plain (definition : Definition) : Prop :=
  Policy.representationOf definition.name definition.directives = .ok none

/-- An artifact refers to a type if it has the name of a claimed key of the type. -/
theorem refersTo_iff (generated : job.generate = .ok artifacts) :
    job.RefersTo artifact definition ↔ ∃ key ∈ ownKeys definition,
      key ∈ job.emission.claims ∧ job.settings.compose key ∈ artifact.references := by
  have holds (key : Key) (name : QualifiedName) : job.naming.ownerOf? name = some key ↔
      key ∈ job.emission.claims ∧ name = job.settings.compose key := Draft.ownerOf?_settle generated
  constructor
  · rintro ⟨name, listed, key, own, held⟩
    obtain ⟨claimed, rfl⟩ := (holds key name).mp held
    exact ⟨key, own, claimed, listed⟩
  · rintro ⟨key, own, claimed, listed⟩
    exact ⟨_, listed, key, own, (holds key _).mpr ⟨claimed, rfl⟩⟩

section Run

variable {phases : Phases job {key | key ∈ job.emission.claims}}
  (generated : job.generate = .ok artifacts)

include generated

theorem mem_referencedTypes_iff_refersTo (among : artifact ∈ phases.artifacts)
    (member : definition ∈ job.onDemand) :
    definition.name ∈ referencedTypes job.owners artifact ↔ job.RefersTo artifact definition := by
  rw [refersTo_iff generated]
  exact Phases.mem_referencedTypes_iff (Draft.injOn_claims generated)
    (fun _ => Phases.referenced_reached among) member

theorem closed_reachedTypes : Closed job job.RefersTo phases.reachedTypes where
  within _ reached := reached.1
  selected definition member selects := by
    refine ⟨member, phases.found_valid.2 _ (List.mem_append_left _ ?_)⟩
    obtain ⟨names, listed, made⟩ := phases.selectedEach.exists_of_mem_left member
    obtain ⟨selected, decided, made⟩ := Draft.yields_bind.mp made
    obtain rfl : selected = true := (selects_of_yields decided).mpr selects
    obtain ⟨_, same, rfl⟩ := Draft.yields_when.mp made
    obtain rfl := Draft.yields_pure.mp same
    exact List.mem_flatten.mpr ⟨_, listed, .head _⟩
  named artifact emitted definition member refers := by
    have among := phases.layout_artifacts ▸ phases.layout.mem_artifacts.mpr emitted
    exact ⟨member, Phases.referenced_reached among
      ((mem_referencedTypes_iff_refersTo generated among member).mpr refers)⟩

/-- What holds of the selected types, and passes from artifacts to the types to which they refer,
holds of every type reached. -/
theorem reachedTypes_induction {holds : Definition → Prop}
    (selected : ∀ definition ∈ job.onDemand, job.Selects definition → holds definition)
    (served : ∀ artifact ∈ phases.outputs ++ phases.interfaces.flatten,
      ∀ definition ∈ job.onDemand, job.RefersTo artifact definition → holds definition)
    (input : ∀ record group, .input record ∈ job.onDemand → holds (.input record) →
      (job.inputArtifacts record).Yields {key | key ∈ job.emission.claims} group →
      ∀ artifact ∈ group, artifact ∈ phases.artifacts →
      ∀ definition ∈ job.onDemand, job.RefersTo artifact definition → holds definition) :
    ∀ definition ∈ phases.reachedTypes, holds definition := by
  rintro definition ⟨member, reached⟩
  rw [phases.mem_found_iff] at reached
  obtain ⟨start, pends, path⟩ := reached
  generalize called : definition.name = last at path
  induction path generalizing definition with
  | refl =>
    rcases List.mem_append.mp pends with ofSelected | ofServed
    · obtain ⟨names, listed, among⟩ := List.mem_flatten.mp ofSelected
      obtain ⟨other, also, made⟩ := phases.selectedEach.exists_of_mem_right listed
      obtain ⟨wanted, decided, made⟩ := Draft.yields_bind.mp made
      cases wanted with
      | true =>
        obtain ⟨_, same, rfl⟩ := Draft.yields_when.mp made
        obtain rfl := Draft.yields_pure.mp same
        obtain rfl : definition = other := Schema.eq_of_name (mem_onDemand.mp member).1
          (mem_onDemand.mp also).1 (called.trans (List.mem_singleton.mp among))
        exact selected definition member ((selects_of_yields decided).mp rfl)
      | false =>
        obtain rfl : names = [] := Draft.yields_when.mp made
        simp at among
    · obtain ⟨artifact, among, named⟩ := List.mem_flatMap.mp ofServed
      have emitted : artifact ∈ phases.artifacts :=
        Phases.mem_artifacts.mpr (.inr (.inr ((List.mem_append.mp among).imp_right .inl)))
      rw [← called, mem_referencedTypes_iff_refersTo generated emitted member] at named
      exact served artifact among definition member named
  | tail before leads ih =>
    obtain ⟨record, group, opened, made, artifact, inside, named⟩ := leads
    obtain ⟨defined, rfl⟩ := Schema.get?_eq_some_iff.mp opened
    have onDemand : .input record ∈ job.onDemand := mem_onDemand.mpr ⟨defined, rfl⟩
    have reached : .input record ∈ phases.reachedTypes :=
      ⟨onDemand, phases.mem_found_iff.mpr ⟨start, pends, before⟩⟩
    have emitted : artifact ∈ phases.artifacts := phases.layout_artifacts ▸
      phases.layout.mem_artifacts.mpr (.input defined ⟨fun _ => made, absurd reached⟩ inside)
    rw [← called, mem_referencedTypes_iff_refersTo generated emitted member] at named
    exact input record group onDemand (ih _ onDemand rfl) (phases.yields_of_reached reached made)
      artifact inside emitted definition member named

theorem reachedTypes_subset (closed : Closed job job.RefersTo chosen) :
    phases.reachedTypes ⊆ chosen := by
  refine reachedTypes_induction generated closed.selected ?served ?input
  case served =>
    intro artifact among definition member refers
    refine closed.named artifact ?_ definition member refers
    rcases List.mem_append.mp among with ofOutputs | ofInterfaces
    · obtain ⟨contribution, listed, among⟩ := List.mem_flatMap.mp ofOutputs
      obtain ⟨source, member, made⟩ := phases.servedEach.exists_of_mem_right listed
      exact .output member (outputPart_of_yields made).1 among
    · obtain ⟨part, listed, among⟩ := List.mem_flatten.mp ofInterfaces
      obtain ⟨source, member, made⟩ := phases.interfacesEach.exists_of_mem_right listed
      exact .interface member (interfacePart_of_yields made) among
  case input =>
    intro record group onDemand here made artifact inside _ definition member refers
    have emitted : Emitted job chosen artifact :=
      .input (mem_onDemand.mp onDemand).1 ⟨fun _ => made.outcome, absurd here⟩ inside
    exact closed.named artifact emitted definition member refers

/-- A type to which an artifact refers is not represented, or it is an input record and the artifact
its own. -/
theorem plain_or_own (among : artifact ∈ phases.artifacts) (member : definition ∈ job.onDemand)
    (refers : job.RefersTo artifact definition) :
    Plain definition ∨ ∃ record, definition = .input record ∧ ∃ key ∈ job.emission.claims,
      Concerns .inputs record.name key ∧ artifact.name = job.settings.compose key := by
  obtain ⟨key, own, claimed, listed⟩ := (refersTo_iff generated).mp refers
  obtain ⟨paged, group, made, inside, _⟩ := phases.grouped artifact among
  obtain ⟨owner, owns, twin, theirs, granted, composed, origin⟩ :=
    made.exists_owner inside listed (segment_of_ownKeys own)
  obtain rfl := Draft.injOn_claims generated granted claimed composed
  obtain rfl := eq_of_ownKeys own theirs (mem_onDemand.mp member).1 (mem_onDemand.mp owns).1
  rcases origin with plain | ⟨record, rfl, made⟩
  · exact .inl plain
  · exact .inr ⟨record, rfl, (inputArtifacts_labelled made).exists_key inside⟩

theorem plain_of_reached : ∀ definition ∈ phases.reachedTypes, Plain definition := by
  have injective := Draft.injOn_claims generated
  refine reachedTypes_induction generated ?selected ?served ?input
  case selected =>
    rintro definition _ ⟨policy, read, selected⟩
    exact Policy.representationOf_of_generate read selected
  case served =>
    intro artifact among definition member refers
    have emitted : artifact ∈ phases.artifacts :=
      Phases.mem_artifacts.mpr (.inr (.inr ((List.mem_append.mp among).imp_right .inl)))
    rcases plain_or_own generated emitted member refers with plain | ⟨record, _, key, granted, own⟩
    · exact plain
    · have foreign {stage : Stage} {part : List Artifact}
          (labelled : Labelled job {key | key ∈ job.emission.claims}
            (·.role.stage? = some stage) part)
          (among : artifact ∈ part) : stage = .inputs := by
        obtain ⟨other, claimed, staged, carried⟩ := labelled.exists_key among
        obtain rfl := injective claimed granted (carried.symm.trans own.2)
        exact Option.some.inj (staged.symm.trans own.1.1)
      rcases List.mem_append.mp among with ofOutputs | ofInterfaces
      · cases foreign phases.outputs_labelled ofOutputs
      · cases foreign phases.interfaces_labelled ofInterfaces
  case input =>
    intro record group onDemand plain made artifact inside emitted definition member refers
    rcases plain_or_own generated emitted member refers with
      plain | ⟨other, rfl, key, granted, ⟨_, theirs⟩, carried⟩
    · exact plain
    · obtain ⟨twin, claimed, ⟨_, contained⟩, named⟩ :=
        (inputArtifacts_labelled made).exists_key inside
      obtain rfl := injective claimed granted (named.symm.trans carried)
      have same : other.name = record.name := Option.some.inj (theirs.symm.trans contained)
      obtain ⟨⟩ := Schema.eq_of_name (mem_onDemand.mp member).1 (mem_onDemand.mp onDemand).1 same
      exact plain

end Run

/-- What a run emits, exactly. The types emitted on demand are the least set that holds the selected
ones and those to which an emitted artifact refers by a name that the type or its parse function
holds. No represented type is among them. The artifacts are laid out in order of declaration, first
the enums and the input records of this set, then the selected output records with their served
fields, the selected interfaces, and what the run shares. -/
theorem generate_exact (generated : job.generate = .ok artifacts) :
    ∃ chosen, IsLeast {chosen | Closed job job.RefersTo chosen} chosen ∧
      (∀ definition ∈ chosen, Plain definition) ∧
      ∃ layout : Layout job chosen, artifacts = layout.artifacts := by
  obtain ⟨phases, rfl⟩ := emission_phases (Draft.yields_of_settle generated)
  refine ⟨phases.reachedTypes, ⟨closed_reachedTypes generated, fun chosen closed => ?_⟩,
    plain_of_reached generated, phases.layout, phases.layout_artifacts.symm⟩
  exact reachedTypes_subset generated closed

theorem generate_exact_shop :
    ∃ artifacts, shop.generate = .ok artifacts ∧ artifacts.map (·.name.display) = shopNames ∧
      ∃ chosen, IsLeast {chosen | Closed shop shop.RefersTo chosen} chosen ∧
        (∀ definition ∈ chosen, Plain definition) ∧
        ∃ layout : Layout shop chosen, artifacts = layout.artifacts := by
  have named : (shop.generate.map (·.map (·.name.display))).toOption = some shopNames := by
    decide +kernel
  obtain ⟨artifacts, generated, named⟩ := map_eq_ok_iff.mp (toOption_eq_some_iff.mp named)
  exact ⟨artifacts, generated, named, generate_exact generated⟩

/-- Two enums that compose one name. A field has the type of the second. -/
def twins : Job where
  schema := .ofList [
    .enum "foo_bar" ["A"] .empty,
    .enum "fooBar" ["B"] .empty,
    .output ⟨"Query", [⟨"pick", .named "fooBar", [], .ofList [⟨"generate", []⟩]⟩], .empty⟩]
  settings := {}

/-- A name does not count for the first enum, which composes it as well but does not hold it. -/
theorem twins_not_exact :
    ∃ artifacts, twins.generate = .ok artifacts ∧
      ¬ ∃ chosen, IsLeast {chosen | Closed twins twins.Names chosen} chosen ∧
        ∃ layout : Layout twins chosen, artifacts = layout.artifacts := by
  have runs : (twins.generate.toOption.any fun artifacts =>
      artifacts.all (·.origin != "foo_bar") && artifacts.any fun artifact =>
        ⟨"generated.enums", "FooBar"⟩ ∈ artifact.references) = true := by
    decide +kernel
  obtain ⟨artifacts, generated, holds⟩ := exists_ok_of_any runs
  simp only [Bool.and_eq_true, List.all_eq_true, List.any_eq_true, decide_eq_true_eq,
    bne_iff_ne] at holds
  obtain ⟨apart, artifact, among, named⟩ := holds
  refine ⟨artifacts, generated, ?_⟩
  rintro ⟨chosen, ⟨closed, _⟩, layout, rfl⟩
  have member : .enum "foo_bar" ["A"] .empty ∈ twins.schema.types := by
    simp [twins, Schema.ofList, Schema.add, Schema.put, Schema.empty, Definition.name]
  have here : .enum "foo_bar" ["A"] .empty ∈ chosen :=
    closed.named artifact (layout.mem_artifacts.mp among) _ (mem_onDemand.mpr ⟨member, rfl⟩)
      ⟨_, named, List.mem_singleton.mpr (by decide)⟩
  have made : EnumPart twins chosen (.enum "foo_bar" ["A"] .empty)
      [⟨⟨"generated.enums", "FooBar"⟩, .enum, "foo_bar", [.variant "A"]⟩] :=
    ⟨fun _ => by decide +kernel, absurd here⟩
  exact apart _ (layout.mem_artifacts.mpr (.enum member made (.head _))) rfl

end Typewright.Job
