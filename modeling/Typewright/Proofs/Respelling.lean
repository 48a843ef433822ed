import Mathlib.Data.List.Find
import Typewright.Proofs.Correspondence
import Typewright.Proofs.Exactness
import Typewright.Proofs.Nesting
import Typewright.Proofs.Spelling

/-! A run under another prefix or base namespace. It emits the same artifacts in the same order with
their names replaced, though its worklist may work off the types in another order. -/
namespace Typewright

def Settings.respelt (settings : Settings) (lead : Option String) (base : String) : Settings :=
  { settings with namePrefix := lead, baseNamespace := base }

namespace Job

def respelt (job : Job) (lead : Option String) (base : String) : Job :=
  ⟨job.schema, job.settings.respelt lead base⟩

/-- The names of the keys under the one prefix and base namespace become those under the other. -/
def Respells (job : Job) (lead : Option String) (base : String)
    (f : QualifiedName → QualifiedName) : Prop :=
  ∀ key, f (job.settings.compose key) = (job.respelt lead base).settings.compose key

def NamesKey (job : Job) (base : Base) : Prop :=
  (∃ text, base = .external text) ∨ base = .unknown ∨
    ∃ key, base = .generated (job.settings.compose key)

theorem Resolves.namesKey {job : Job} {granted : Set Key} {definition : Definition} {base : Base}
    (resolved : Resolves job granted definition base) : job.NamesKey base := by
  induction resolved with
  | external _ => exact .inl ⟨_, rfl⟩
  | unknown _ => exact .inr (.inl rfl)
  | enum _ _ | input _ _ | output _ => exact .inr (.inr ⟨_, rfl⟩)
  | union _ _ _ ih => exact ih

variable {job : Job} {lead : Option String} {base : String} {f : QualifiedName → QualifiedName}
  {granted : Set Key} {phases : Phases job granted} {artifact : Artifact} {artifacts : List Artifact}
  {node name type : String}

theorem namesKey_of_memberBase {nested : Nat} {union member : String} {found : Base}
    (reached : (job.memberBase nested union member).outcome = .ok found) : job.NamesKey found := by
  obtain ⟨definition, _, resolved⟩ := Draft.yields_bind.mp (Draft.yields_univ.mpr reached)
  exact (resolves_of_yields resolved).namesKey

@[simp] theorem generateAll_respelt :
    (job.respelt lead base).settings.generateAll = job.settings.generateAll := rfl

@[simp] theorem scalars_respelt :
    (job.respelt lead base).settings.scalars = job.settings.scalars := rfl

/-- Keys collide under one spelling as they do under the other. -/
theorem compose_respelt_eq_iff {key other : Key} :
    (job.respelt lead base).settings.compose key = (job.respelt lead base).settings.compose other ↔
      job.settings.compose key = job.settings.compose other := by
  rw [Settings.compose_eq_iff, Settings.compose_eq_iff]

/-- Whatever an artifact of a run names is the name of a key. -/
theorem Phases.exists_key_of_references (among : artifact ∈ phases.artifacts) :
    ∀ name ∈ artifact.references, ∃ key, name = job.settings.compose key := by
  intro name named
  obtain ⟨other, emitted, rfl⟩ := Phases.closed among named
  obtain ⟨key, _, _, same⟩ := phases.labelled.exists_key emitted
  exact ⟨key, same⟩

section

variable (respells : job.Respells lead base f)

include respells

theorem Respells.eq_iff {key other : Key} :
    f (job.settings.compose key) = f (job.settings.compose other) ↔
      job.settings.compose key = job.settings.compose other := by
  rw [respells, respells, compose_respelt_eq_iff]

theorem name_respelt (key : Key) : (job.respelt lead base).name key = f <$> job.name key := by
  ext1
  · rfl
  · exact congrArg Except.ok (respells key).symm

theorem generated_respelt (kind : Kind) (name : String) :
    (job.respelt lead base).generated kind name = Base.rename f <$> job.generated kind name := by
  simp [generated, name_respelt respells, Base.rename]

theorem rename_inj {one two : Base} (first : job.NamesKey one) (second : job.NamesKey two)
    (same : one.rename f = two.rename f) : one = two := by
  rcases first with ⟨text, rfl⟩ | rfl | ⟨key, rfl⟩ <;>
    rcases second with ⟨text, rfl⟩ | rfl | ⟨key, rfl⟩ <;>
    simp_all [Base.rename, respells.eq_iff]

/-- Members share a base after the renaming as they did before. -/
theorem sharedBase_respelt {resolve renamed : String → Draft Base}
    (each : ∀ member, renamed member = Base.rename f <$> resolve member)
    (namesKey : ∀ member base, (resolve member).outcome = .ok base → job.NamesKey base)
    {shared : Option Base} (sharedKey : ∀ base ∈ shared, job.NamesKey base)
    (members : List String) :
    sharedBase renamed (shared.map (Base.rename f)) members =
      Option.map (Base.rename f) <$> sharedBase resolve shared members := by
  induction members generalizing shared with
  | nil => simp [sharedBase]
  | cons member rest ih =>
    rw [sharedBase, sharedBase, each, bind_map_left, map_bind]
    refine Draft.bind_congr_of_outcome fun base reached => ?_
    have here := namesKey member base reached
    have known : ∀ other ∈ some base, job.NamesKey other := by simpa using here
    cases shared with
    | none => exact ih known
    | some common =>
      have there := sharedKey common rfl
      by_cases same : common = base
      · simpa [same] using ih known
      · have apart : common.rename f ≠ base.rename f :=
          fun equal => same (rename_inj respells there here equal)
        simp [same, apart]

theorem baseOfDefinition_respelt (nested : Nat) (definition : Definition) :
    (job.respelt lead base).baseOfDefinition nested definition =
      Base.rename f <$> job.baseOfDefinition nested definition := by
  induction nested using Nat.strongRecOn generalizing definition with
  | _ nested ih =>
    rw [baseOfDefinition.eq_def, baseOfDefinition.eq_def, map_bind]
    refine bind_congr fun representation => ?_
    cases representation with
    | some external => simp [Base.rename]
    | none =>
      cases definition with
      | scalar _ _ | interface _ => simp [Base.rename]
      | enum name _ _ => exact generated_respelt respells _ _
      | input record => exact generated_respelt respells _ _
      | output record =>
        simp only [map_bind, generateAll_respelt]
        refine bind_congr fun selected => ?_
        cases selected with
        | true => exact generated_respelt respells _ _
        | false => simp [Base.rename]
      | union name members _ =>
        cases nested with
        | zero => simp [Base.rename]
        | succ nested =>
          have each (member : String) : (job.respelt lead base).memberBase nested name member =
              Base.rename f <$> job.memberBase nested name member := by
            rw [memberBase, memberBase, map_bind]
            exact bind_congr fun definition => ih nested (by omega) definition
          have shared := sharedBase_respelt respells each
            (fun _ _ => namesKey_of_memberBase) (by simp : ∀ base ∈ none, job.NamesKey base) members
          simp only [Option.map_none] at shared
          refine (congrArg (· >>= fun found => pure (found.getD .unknown)) shared).trans ?_
          simp only [bind_map_left]
          refine (bind_congr fun found => ?_).trans (map_bind ..).symm
          cases found <;> simp [Base.rename]

theorem resolveBase_respelt :
    (job.respelt lead base).resolveBase node name = Base.rename f <$> job.resolveBase node name := by
  rw [resolveBase, resolveBase, scalars_respelt]
  split
  · simp [Base.rename]
  · split
    · simp [Base.rename]
    · rw [map_bind]
      exact bind_congr fun definition => baseOfDefinition_respelt respells _ definition

theorem Respells.corresponds : job.Corresponds (job.respelt lead base) f fun _ => True where
  names := respells
  generateAll := rfl
  contextType := rfl
  scalars := rfl
  found _ _ := rfl
  bases _ _ _ := resolveBase_respelt respells

theorem inputArtifacts_respelt (record : RecordType) :
    (job.respelt lead base).inputArtifacts record =
      List.map (Artifact.rename f) <$> job.inputArtifacts record :=
  respells.corresponds.inputArtifacts fun _ _ => trivial

theorem ownNames_respelt (definition : Definition) :
    (job.respelt lead base).ownNames definition = (job.ownNames definition).map f := by
  rw [ownNames_eq, ownNames_eq, List.map_map]
  exact List.map_congr_left fun key _ => (respells key).symm

theorem owners_respelt :
    (job.respelt lead base).owners = job.owners.map fun entry => (f entry.1, entry.2) := by
  simp only [owners, List.map_reverse, List.map_flatMap, ownNames_respelt respells, List.map_map]
  rfl

theorem find?_owners_respelt (key : Key) :
    ((job.respelt lead base).owners.find? (·.1 = f (job.settings.compose key))).map Prod.snd =
      (job.owners.find? (·.1 = job.settings.compose key)).map Prod.snd := by
  rw [owners_respelt respells, List.find?_map, Option.map_map]
  refine congrArg _ (List.find?_congr fun entry listed => ?_)
  obtain ⟨definition, _, own, _⟩ := mem_owners.mp listed
  rw [ownNames_eq] at own
  obtain ⟨other, _, same⟩ := List.mem_map.mp own
  simp [← same, respells.eq_iff]

theorem mem_referencedTypes_respelt
    (named : ∀ name ∈ artifact.references, ∃ key, name = job.settings.compose key) :
    type ∈ referencedTypes (job.respelt lead base).owners (artifact.rename f) ↔
      type ∈ referencedTypes job.owners artifact := by
  simp only [referencedTypes, List.mem_filterMap, mem_references_rename]
  constructor
  · rintro ⟨_, ⟨name, listed, rfl⟩, found⟩
    obtain ⟨key, rfl⟩ := named name listed
    exact ⟨_, listed, find?_owners_respelt respells key ▸ found⟩
  · rintro ⟨name, listed, found⟩
    obtain ⟨key, rfl⟩ := named name listed
    exact ⟨_, ⟨_, listed, rfl⟩, (find?_owners_respelt respells key).trans found⟩

theorem inputArtifacts_respelt_ok {record : RecordType} {renamed : List Artifact}
    (made : ((job.respelt lead base).inputArtifacts record).outcome = .ok renamed) :
    ∃ artifacts, (job.inputArtifacts record).outcome = .ok artifacts ∧
      renamed = artifacts.map (Artifact.rename f) := by
  have yields := Draft.yields_univ.mpr made
  rw [inputArtifacts_respelt respells] at yields
  obtain ⟨artifacts, made, same⟩ := Draft.yields_map.mp yields
  exact ⟨artifacts, made.outcome, same⟩

/-- The artifacts of a record that is reached lead where they led before. -/
theorem leads_respelt (reached : name ∈ phases.found.types) :
    (job.respelt lead base).Leads name type ↔ job.Leads name type := by
  have emitted {record : RecordType} {group : List Artifact} {artifact : Artifact}
      (opened : job.schema.get? name = some (.input record))
      (made : (job.inputArtifacts record).outcome = .ok group) (inside : artifact ∈ group) :
      artifact ∈ phases.artifacts := by
    obtain ⟨member, rfl⟩ := Schema.get?_eq_some_iff.mp opened
    have here : .input record ∈ phases.reachedTypes := (phases.mem_reachedTypes member rfl).mpr reached
    exact phases.layout_artifacts ▸
      phases.layout.mem_artifacts.mpr (.input member ⟨fun _ => made, absurd here⟩ inside)
  constructor
  · rintro ⟨record, renamed, opened, made, artifact, inside, named⟩
    obtain ⟨group, before, rfl⟩ := inputArtifacts_respelt_ok respells made
    obtain ⟨original, within, rfl⟩ := List.mem_map.mp inside
    rw [mem_referencedTypes_respelt respells
      (Phases.exists_key_of_references (emitted opened before within))] at named
    exact ⟨record, group, opened, before, original, within, named⟩
  · rintro ⟨record, group, opened, made, artifact, inside, named⟩
    refine ⟨record, group.map (Artifact.rename f), opened, ?_, _, List.mem_map_of_mem inside, ?_⟩
    · rw [inputArtifacts_respelt respells, map_eq_pure_bind, Draft.outcome_bind, made]
      rfl
    · rwa [mem_referencedTypes_respelt respells
        (Phases.exists_key_of_references (emitted opened made inside))]

theorem InputPart.respelt {chosen : Set Definition} {definition : Definition} {part : List Artifact}
    (made : InputPart job chosen definition part) :
    InputPart (job.respelt lead base) chosen definition (part.map (Artifact.rename f)) := by
  cases definition with
  | input record =>
    obtain ⟨made, none⟩ := made
    refine ⟨fun here => ?_, fun apart => by simp [none apart]⟩
    rw [inputArtifacts_respelt respells, map_eq_pure_bind, Draft.outcome_bind, made here]
    rfl
  | scalar _ _ | enum _ _ _ | output _ | interface _ | union _ _ _ =>
    obtain rfl := made
    rfl

/-- The worklist of a respelt run comes to its end, and with the same types. -/
theorem exists_reach_respelt (phases : Phases job granted) {pending : List String}
    (same : ∀ type, type ∈ pending ↔ type ∈ phases.pending) :
    ∃ found, ((job.respelt lead base).reach (job.respelt lead base).owners
        (job.respelt lead base).onDemand.length pending {}).Yields granted found ∧
      ∀ type, type ∈ found.types ↔ type ∈ phases.found.types := by
  have reachable (type : String) :
      Reachable (job.respelt lead base) pending type ↔ type ∈ phases.found.types := by
    rw [phases.mem_found_iff, Reachable.perm same]
    exact Reachable.congr fun name type before =>
      leads_respelt respells (phases.mem_found_iff.mpr before)
  have fills (name : String) (record : RecordType)
      (reached : Reachable (job.respelt lead base) pending name)
      (opened : job.schema.get? name = some (.input record)) :
      ∃ artifacts, ((job.respelt lead base).inputArtifacts record).Yields granted artifacts := by
    obtain ⟨member, rfl⟩ := Schema.get?_eq_some_iff.mp opened
    have valid := phases.found_valid.1
    have here := (reachable _).mp reached
    obtain ⟨group, entered⟩ := Option.isSome_iff_exists.mp (valid.filled record member here)
    rw [inputArtifacts_respelt respells]
    exact ⟨_, Draft.yields_map.mpr ⟨group, valid.entered_eq member entered, rfl⟩⟩
  obtain ⟨found, made⟩ := exists_reach fills
  refine ⟨found, made, fun type => ?_⟩
  have known : ∀ type ∈ pending, type ∈ (job.respelt lead base).onDemand.map Definition.name :=
    fun type among => phases.pending_known type ((same type).mp among)
  rw [mem_types_reach known made, reachable]

omit respells in
theorem forall₂_renamed {gen renamed : Definition → Draft α} {h : α → α}
    {types : List Definition} {values : List α}
    (each : ∀ definition, renamed definition = h <$> gen definition)
    (made : List.Forall₂ (fun definition value => (gen definition).Yields granted value) types
      values) :
    List.Forall₂ (fun definition value => (renamed definition).Yields granted value) types
      (values.map h) := by
  rw [List.forall₂_map_right_iff]
  refine made.imp fun definition value made => ?_
  rw [each]
  exact Draft.yields_map.mpr ⟨value, made, rfl⟩

theorem exists_phases_respelt (phases : Phases job granted) :
    ∃ renamed : Phases (job.respelt lead base) granted,
      renamed.artifacts = phases.artifacts.map (Artifact.rename f) := by
  have corresponds := respells.corresponds
  have served : (phases.served.map (Contribution.rename f)).flatMap (·.artifacts) =
      phases.outputs.map (Artifact.rename f) := by
    simp [Phases.outputs, List.flatMap_map, List.map_flatMap, Contribution.rename]
  have interfaces : (phases.interfaces.map (List.map (Artifact.rename f))).flatten =
      phases.interfaces.flatten.map (Artifact.rename f) := List.map_flatten.symm
  have pending (type : String) : type ∈ (phases.selected.flatten ++
      ((phases.served.map (Contribution.rename f)).flatMap (·.artifacts) ++
        (phases.interfaces.map (List.map (Artifact.rename f))).flatten).flatMap
          (referencedTypes (job.respelt lead base).owners)).reverse ↔ type ∈ phases.pending := by
    rw [List.mem_reverse, Phases.pending, List.mem_append, List.mem_append, served, interfaces,
      ← List.map_append, List.flatMap_map, List.mem_flatMap, List.mem_flatMap]
    refine or_congr_right (exists_congr fun artifact => and_congr_right fun among => ?_)
    have emitted : artifact ∈ phases.artifacts :=
      Phases.mem_artifacts.mpr (.inr (.inr ((List.mem_append.mp among).imp_right .inl)))
    exact mem_referencedTypes_respelt respells (Phases.exists_key_of_references emitted)
  obtain ⟨found, reached, same⟩ := exists_reach_respelt respells phases pending
  have pageInfo : ((job.respelt lead base).pageInfoArtifact.when
      ((phases.served.map (Contribution.rename f)).any (·.paginated))).Yields granted
        (phases.pageInfo.map (Artifact.rename f)) := by
    rw [List.any_map, corresponds.pageInfoArtifact, Draft.when_map]
    exact Draft.yields_map.mpr ⟨_, phases.pageInfoMade, rfl⟩
  have valueBox : (job.respelt lead base).valueBoxArtifact.Yields granted
      (phases.valueBox.rename f) := by
    rw [corresponds.valueBoxArtifact]
    exact Draft.yields_map.mpr ⟨_, phases.valueBoxMade, rfl⟩
  have environment : (job.respelt lead base).environmentArtifact.Yields granted
      (phases.environment.rename f) := by
    rw [corresponds.environmentArtifact]
    exact Draft.yields_map.mpr ⟨_, phases.environmentMade, rfl⟩
  let renamed : Phases (job.respelt lead base) granted :=
    { served := phases.served.map (Contribution.rename f)
      interfaces := phases.interfaces.map (List.map (Artifact.rename f))
      selected := phases.selected
      found
      enums := phases.enums.map (List.map (Artifact.rename f))
      pageInfo := phases.pageInfo.map (Artifact.rename f)
      valueBox := phases.valueBox.rename f
      environment := phases.environment.rename f
      servedEach := forall₂_renamed (fun _ => corresponds.outputContribution trivial fun _ _ => trivial)
        phases.servedEach
      interfacesEach := forall₂_renamed (fun _ => corresponds.interfaceContribution fun _ _ => trivial)
        phases.interfacesEach
      selectedEach := phases.selectedEach
      reached
      enumsEach := forall₂_renamed (corresponds.enumContribution same) phases.enumsEach
      pageInfoMade := pageInfo
      valueBoxMade := valueBox
      environmentMade := environment }
  have types : renamed.reachedTypes = phases.reachedTypes :=
    Set.ext fun definition => and_congr_right fun _ => same definition.name
  have inputs : renamed.inputs = phases.inputs.map (Artifact.rename f) := by
    rw [Phases.inputs, Phases.inputs, List.map_flatMap]
    refine List.flatMap_congr fun definition member => ?_
    have part := InputPart.respelt respells (phases.inputPart member)
    exact (types ▸ renamed.inputPart member).unique part
  refine ⟨renamed, ?_⟩
  have outputs : renamed.outputs = phases.outputs.map (Artifact.rename f) := served
  rw [Phases.artifacts, Phases.artifacts, inputs, outputs]
  simp [renamed, List.map_flatten]

/-- What one run emits, the respelt run emits renamed. -/
theorem generate_respelt_of_ok (generated : job.generate = .ok artifacts) :
    (job.respelt lead base).generate = .ok (artifacts.map (Artifact.rename f)) := by
  obtain ⟨granted, injective, made⟩ := Draft.settle_ok generated
  obtain ⟨phases, rfl⟩ := emission_phases made
  obtain ⟨renamed, same⟩ := exists_phases_respelt respells phases
  rw [← same]
  refine Draft.settle_of_yields (fun key claimed other claimedToo equal => ?_) (yields_emission renamed)
  exact injective claimed claimedToo (compose_respelt_eq_iff.mp equal)

end

theorem exists_respells (job : Job) (lead : Option String) (base : String) :
    ∃ f, job.Respells lead base f := by
  classical
  refine ⟨Function.extend job.settings.compose (job.respelt lead base).settings.compose id, ?_⟩
  intro key
  exact Function.FactorsThrough.extend_apply
    (fun key other same => compose_respelt_eq_iff.mpr same) _ key

/-- Prefix and base namespace change names and nothing else. Two keys collide under both spellings
or under neither. A run succeeds under both or under neither, and then emits the same artifacts in
the same order, of the same kinds and origins, once the name of each key under the one is replaced
by its name under the other throughout. -/
theorem generate_respelt (job : Job) (lead : Option String) (base : String) :
    (∀ key other, job.settings.compose key = job.settings.compose other ↔
      (job.respelt lead base).settings.compose key =
        (job.respelt lead base).settings.compose other) ∧
    (∃ f, job.Respells lead base f) ∧
    ∀ f, job.Respells lead base f → (job.respelt lead base).generate.toOption =
      job.generate.toOption.map (List.map (Artifact.rename f)) := by
  refine ⟨fun key other => compose_respelt_eq_iff.symm, exists_respells job lead base, ?_⟩
  intro f respells
  cases generated : job.generate with
  | ok artifacts => rw [generate_respelt_of_ok respells generated]; rfl
  | error fault =>
    cases generatedToo : (job.respelt lead base).generate with
    | error _ => rfl
    | ok artifacts =>
      obtain ⟨back, respellsBack⟩ :=
        exists_respells (job.respelt lead base) job.settings.namePrefix job.settings.baseNamespace
      have generatedBack := generate_respelt_of_ok respellsBack generatedToo
      exact nomatch generated.symm.trans generatedBack

end Job

end Typewright
