import Mathlib.Order.Bounds.Defs
import Typewright.Proofs.Closure
import Typewright.Proofs.Reachable

/-! What a run emits, and in which order. The types emitted on demand are the least set that holds
the selected ones and whatever an emitted artifact refers to. -/
namespace Typewright.Job

def Selects (job : Job) (definition : Definition) : Prop :=
  ∃ policy, Policy.ofDefinition definition job.settings.generateAll = .ok policy ∧
    policy.generate = true

/-- The field is selected, carries the directive for pages and is a list. -/
def ServesPages (job : Job) (container : String) (field : Field) : Prop :=
  ∃ policy, Policy.ofField container field job.settings.generateAll = .ok policy ∧
    policy.generate = true ∧ field.directives.contains "pagination" = true ∧
    field.type.isList = true

def Paginates (job : Job) : Prop :=
  ∃ record, .output record ∈ job.schema.types ∧ ∃ field ∈ record.fields,
    job.ServesPages record.name field

/-- What the draft comes to if it is wanted, and nothing if not. -/
structure Part (wanted : Prop) (draft : Draft (List Artifact)) (part : List Artifact) : Prop where
  made : wanted → draft.outcome = .ok part
  none : ¬ wanted → part = []

def alone (draft : Draft Artifact) : Draft (List Artifact) := do return [← draft]

def EnumPart (job : Job) (chosen : Set Definition) (definition : Definition)
    (part : List Artifact) : Prop :=
  match definition with
  | .enum name values _ => Part (definition ∈ chosen) (alone (job.enumArtifact name values)) part
  | _ => part = []

def InputPart (job : Job) (chosen : Set Definition) (definition : Definition)
    (part : List Artifact) : Prop :=
  match definition with
  | .input record => Part (definition ∈ chosen) (job.inputArtifacts record) part
  | _ => part = []

inductive FieldPart (job : Job) (container : String) (field : Field) (part : List Artifact) : Prop
  | unselected (read : Policy.ofField container field job.settings.generateAll = .ok policy)
      (apart : policy.generate = false) (none : part = [])
  | paged (serves : job.ServesPages container field)
      (made : (job.connectionArtifacts container field).outcome = .ok part)
  | plain (read : Policy.ofField container field job.settings.generateAll = .ok policy)
      (selected : policy.generate = true) (apart : ¬ job.ServesPages container field)
      (made : (job.resolverArtifacts container field policy).outcome = .ok part)

inductive OutputPart (job : Job) : Definition → List Artifact → Prop
  | record (own : Part (job.Selects (.output record)) (alone (job.outputArtifact record)) first)
      (fields : List.Forall₂ (FieldPart job record.name) record.fields parts) :
    OutputPart job (.output record) (first ++ parts.flatten)
  | other (apart : ∀ record, definition ≠ .output record) : OutputPart job definition []

def InterfacePart (job : Job) (definition : Definition) (part : List Artifact) : Prop :=
  match definition with
  | .interface record => Part (job.Selects definition) (alone (job.interfaceArtifact record)) part
  | _ => part = []

/-- The parts of a run that emits the chosen types on demand, one for each definition in order of
declaration. -/
structure Layout (job : Job) (chosen : Set Definition) where
  enums : List (List Artifact)
  inputs : List (List Artifact)
  outputs : List (List Artifact)
  interfaces : List (List Artifact)
  pageInfo : List Artifact
  valueBox : Artifact
  environment : Artifact
  enumsEach : List.Forall₂ (EnumPart job chosen) job.schema.types enums
  inputsEach : List.Forall₂ (InputPart job chosen) job.schema.types inputs
  outputsEach : List.Forall₂ (OutputPart job) job.schema.types outputs
  interfacesEach : List.Forall₂ (InterfacePart job) job.schema.types interfaces
  pageInfoMade : Part job.Paginates (alone job.pageInfoArtifact) pageInfo
  valueBoxMade : job.valueBoxArtifact.outcome = .ok valueBox
  environmentMade : job.environmentArtifact.outcome = .ok environment

def Layout.artifacts {job : Job} {chosen : Set Definition} (layout : Layout job chosen) :
    List Artifact :=
  layout.enums.flatten ++ layout.inputs.flatten ++ layout.outputs.flatten ++
    layout.interfaces.flatten ++ layout.pageInfo ++ [layout.valueBox, layout.environment]

inductive Emitted (job : Job) (chosen : Set Definition) (artifact : Artifact) : Prop
  | enum (member : definition ∈ job.schema.types) (made : EnumPart job chosen definition part)
      (among : artifact ∈ part)
  | input (member : definition ∈ job.schema.types) (made : InputPart job chosen definition part)
      (among : artifact ∈ part)
  | output (member : definition ∈ job.schema.types) (made : OutputPart job definition part)
      (among : artifact ∈ part)
  | interface (member : definition ∈ job.schema.types) (made : InterfacePart job definition part)
      (among : artifact ∈ part)
  | pageInfo (made : Part job.Paginates (alone job.pageInfoArtifact) part) (among : artifact ∈ part)
  | valueBox (made : job.valueBoxArtifact.outcome = .ok artifact)
  | environment (made : job.environmentArtifact.outcome = .ok artifact)

/-- Types emitted on demand that hold the selected ones and those to which an artifact emitted on
their account refers. -/
structure Closed (job : Job) (refers : Artifact → Definition → Prop) (chosen : Set Definition) :
    Prop where
  within : ∀ definition ∈ chosen, definition ∈ job.onDemand
  selected : ∀ definition ∈ job.onDemand, job.Selects definition → definition ∈ chosen
  named : ∀ artifact, Emitted job chosen artifact → ∀ definition ∈ job.onDemand,
    refers artifact definition → definition ∈ chosen

def naming (job : Job) : Ledger := (job.emission.settle job.settings {}).2

/-- The artifact has a name that the type or its parse function holds in the run. -/
def RefersTo (job : Job) (artifact : Artifact) (definition : Definition) : Prop :=
  ∃ name ∈ artifact.references, ∃ key ∈ ownKeys definition,
    job.naming.ownerOf? name = some key

/-- The artifact has a name that the type or its parse function composes, whether or not it holds
the name. -/
def Names (job : Job) (artifact : Artifact) (definition : Definition) : Prop :=
  ∃ name ∈ artifact.references, name ∈ job.ownNames definition

variable {job : Job} {granted : Set Key} {chosen : Set Definition} {artifact : Artifact}
  {artifacts part : List Artifact} {definition other : Definition} {container : String}
  {field : Field}

theorem selects_of_yields {selected : Bool}
    (made : (job.isSelected definition).Yields granted selected) :
    selected = true ↔ job.Selects definition := by
  obtain ⟨policy, read, made⟩ := Draft.yields_bind.mp made
  rw [Draft.yields_lift] at read
  obtain rfl := Draft.yields_pure.mp made
  constructor
  · exact fun selected => ⟨policy, read, selected⟩
  · rintro ⟨other, same, selected⟩
    exact Except.ok.inj (read.symm.trans same) ▸ selected

theorem servesPages_iff {policy : Policy}
    (read : Policy.ofField container field job.settings.generateAll = .ok policy) :
    job.ServesPages container field ↔ policy.generate = true ∧ policy.pagination = true := by
  rw [Policy.pagination_ofField read, Policy.wantsPages, Bool.and_eq_true]
  constructor
  · rintro ⟨other, same, selected, pages⟩
    exact ⟨Except.ok.inj (read.symm.trans same) ▸ selected, pages⟩
  · exact fun serves => ⟨policy, read, serves⟩

theorem part_of_when {draft : Draft Artifact} {wanted : Bool} {condition : Prop}
    (asked : wanted = true ↔ condition) (made : (draft.when wanted).Yields granted part) :
    Part condition (alone draft) part := by
  cases wanted with
  | true => exact ⟨fun _ => made.outcome, fun apart => absurd (asked.mp rfl) apart⟩
  | false =>
    refine ⟨fun holds => ?_, fun _ => Draft.yields_pure.mp made⟩
    simpa using asked.mpr holds

theorem fieldPart_of_yields {contribution : Contribution}
    (made : (job.fieldContribution container field).Yields granted contribution) :
    FieldPart job container field contribution.artifacts ∧
      (contribution.paginated = true ↔ job.ServesPages container field) := by
  obtain ⟨policy, read, made⟩ := Draft.yields_bind.mp made
  rw [Draft.yields_lift] at read
  have serves := servesPages_iff read
  cases selected : policy.generate with
  | false =>
    simp only [selected, Bool.not_false, if_true] at made
    obtain rfl := Draft.yields_pure.mp made
    exact ⟨.unselected read selected rfl, by simp [serves, selected]⟩
  | true =>
    simp only [selected, Bool.not_true, Bool.false_eq_true, if_false] at made
    split at made
    next pages =>
      obtain ⟨artifacts, connected, made⟩ := Draft.yields_bind.mp made
      obtain rfl := Draft.yields_pure.mp made
      have paged := serves.mpr ⟨selected, pages⟩
      exact ⟨.paged paged connected.outcome, iff_of_true rfl paged⟩
    next single =>
      obtain ⟨artifacts, resolved, made⟩ := Draft.yields_bind.mp made
      obtain rfl := Draft.yields_pure.mp made
      have apart : ¬ job.ServesPages container field := fun paged => single (serves.mp paged).2
      exact ⟨.plain read selected apart resolved.outcome, iff_of_false (by simp) apart⟩

theorem outputPart_of_yields {contribution : Contribution}
    (made : (job.outputContribution definition).Yields granted contribution) :
    OutputPart job definition contribution.artifacts ∧
      (contribution.paginated = true ↔ ∃ record, definition = .output record ∧
        ∃ field ∈ record.fields, job.ServesPages record.name field) := by
  cases definition with
  | output record =>
    obtain ⟨selected, decided, made⟩ := Draft.yields_bind.mp made
    obtain ⟨own, ownMade, made⟩ := Draft.yields_bind.mp made
    obtain ⟨served, servedEach, made⟩ := Draft.yields_bind.mp made
    obtain rfl := Draft.yields_pure.mp made
    have each := Draft.yields_mapM.mp servedEach
    constructor
    · rw [List.flatMap_def]
      refine .record (part_of_when (selects_of_yields decided) ownMade) ?_
      rw [List.forall₂_map_right_iff]
      exact each.imp fun field contribution made => (fieldPart_of_yields made).1
    · simp only [List.any_eq_true, Definition.output.injEq, exists_eq_left']
      constructor
      · rintro ⟨contribution, among, paged⟩
        obtain ⟨field, listed, made⟩ := each.exists_of_mem_right among
        exact ⟨field, listed, (fieldPart_of_yields made).2.mp paged⟩
      · rintro ⟨field, listed, serves⟩
        obtain ⟨contribution, among, made⟩ := each.exists_of_mem_left listed
        exact ⟨contribution, among, (fieldPart_of_yields made).2.mpr serves⟩
  | scalar _ _ | enum _ _ _ | input _ | interface _ | union _ _ _ =>
    obtain rfl := Draft.yields_pure.mp made
    exact ⟨.other (by simp), by simp⟩

theorem interfacePart_of_yields
    (made : (job.interfaceContribution definition).Yields granted part) :
    InterfacePart job definition part := by
  cases definition with
  | interface record =>
    obtain ⟨selected, decided, made⟩ := Draft.yields_bind.mp made
    exact part_of_when (selects_of_yields decided) made
  | scalar _ _ | enum _ _ _ | input _ | output _ | union _ _ _ => exact Draft.yields_pure.mp made

theorem container_of_ownKeys {key : Key} (own : key ∈ ownKeys definition) :
    key.container = some definition.name := by
  cases definition with
  | enum _ _ _ =>
    obtain rfl := List.mem_singleton.mp own
    rfl
  | input record =>
    simp only [ownKeys, List.mem_cons, List.not_mem_nil, or_false] at own
    rcases own with rfl | rfl <;> rfl
  | scalar _ _ | output _ | interface _ | union _ _ _ => simp [ownKeys] at own

theorem segment_of_ownKeys {key : Key} (own : key ∈ ownKeys definition) :
    key.role.segment = "enums" ∨ key.role.segment = "inputs" := by
  cases definition with
  | enum _ _ _ =>
    obtain rfl := List.mem_singleton.mp own
    exact .inl rfl
  | input record =>
    simp only [ownKeys, List.mem_cons, List.not_mem_nil, or_false] at own
    rcases own with rfl | rfl <;> exact .inr rfl
  | scalar _ _ | output _ | interface _ | union _ _ _ => simp [ownKeys] at own

theorem eq_of_ownKeys {key : Key} (own : key ∈ ownKeys definition) (also : key ∈ ownKeys other)
    (member : definition ∈ job.schema.types) (listed : other ∈ job.schema.types) :
    definition = other := by
  have same := (container_of_ownKeys own).symm.trans (container_of_ownKeys also)
  exact Schema.eq_of_name member listed (Option.some.inj same)

namespace Phases

variable {phases : Phases job granted}

def reachedTypes (phases : Phases job granted) : Set Definition :=
  {definition | definition ∈ job.onDemand ∧ definition.name ∈ phases.found.types}

/-- A type that is reached holds all of its names. -/
theorem granted_of_reached (phases : Phases job granted)
    (reached : definition ∈ phases.reachedTypes) :
    ∀ key ∈ ownKeys definition, key ∈ granted := by
  obtain ⟨among, reached⟩ := reached
  obtain ⟨member, onDemand⟩ := mem_onDemand.mp among
  cases definition with
  | enum name values directives =>
    obtain ⟨part, _, made⟩ := phases.enumsEach.exists_of_mem_left member
    rw [enumContribution, Draft.yields_when, if_pos (by simpa [Definition.name] using reached)] at made
    obtain ⟨artifact, single, _⟩ := made
    simpa [ownKeys] using (yields_enumArtifact.mp single).1
  | input record =>
    have valid := phases.found_valid.1
    obtain ⟨artifacts, entered⟩ := Option.isSome_iff_exists.mp (valid.filled record member reached)
    exact (inputArtifacts_origin (valid.entered_eq member entered)).1
  | scalar _ _ | output _ | interface _ | union _ _ _ => simp [isOnDemand] at onDemand

/-- The look-up of a name in the table of owners leads to the type that holds the name. -/
theorem mem_referencedTypes_iff (injective : Set.InjOn job.settings.compose granted)
    (known : ∀ type ∈ referencedTypes job.owners artifact, type ∈ phases.found.types)
    (member : definition ∈ job.onDemand) :
    definition.name ∈ referencedTypes job.owners artifact ↔
      ∃ key ∈ ownKeys definition, key ∈ granted ∧ job.settings.compose key ∈ artifact.references := by
  have held {owner : Definition} (owns : owner ∈ job.onDemand)
      (named : owner.name ∈ referencedTypes job.owners artifact) :
      ∀ key ∈ ownKeys owner, key ∈ granted :=
    phases.granted_of_reached ⟨owns, known _ named⟩
  constructor
  · intro named
    obtain ⟨name, listed, found⟩ := List.mem_filterMap.mp named
    obtain ⟨entry, first, same⟩ := Option.map_eq_some_iff.mp found
    obtain ⟨owner, owns, mine, called⟩ := mem_owners.mp (List.mem_of_find?_eq_some first)
    have called : owner.name = definition.name := called.trans same
    obtain rfl : owner = definition :=
      Schema.eq_of_name (mem_onDemand.mp owns).1 (mem_onDemand.mp member).1 called
    obtain rfl : entry.1 = name := by simpa using List.find?_some first
    rw [ownNames_eq] at mine
    obtain ⟨key, own, composed⟩ := List.mem_map.mp mine
    exact ⟨key, own, held member named key own, composed ▸ listed⟩
  · rintro ⟨key, own, claimed, listed⟩
    have mine : job.settings.compose key ∈ job.ownNames definition :=
      ownNames_eq job definition ▸ List.mem_map_of_mem own
    obtain ⟨owner, owns, shares, named⟩ := exists_referencedType member mine listed
    rw [ownNames_eq] at shares
    obtain ⟨twin, theirs, same⟩ := List.mem_map.mp shares
    obtain rfl : twin = key := injective (held owns named twin theirs) claimed same
    exact eq_of_ownKeys theirs own (mem_onDemand.mp owns).1 (mem_onDemand.mp member).1 ▸ named

end Phases

end Typewright.Job
