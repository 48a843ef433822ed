import Typewright.Proofs.Insertion
import Typewright.Proofs.DistinctKeys
import Typewright.Proofs.Layout

/-! A type that a schema neither mentions nor selects. A run without it and a run with it come to the
same, unless the type goes before another one in the table of owners. -/
namespace Typewright

/-- What comes to nothing in the middle of a list leaves a gap in the results. -/
theorem Draft.mapM_inserted {f : α → Draft β} {extra : α} {nothing : β}
    (idle : f extra = pure nothing) (position : Nat) (xs : List α) :
    (xs.take position ++ extra :: xs.drop position).mapM f =
      (fun ys => ys.take position ++ nothing :: ys.drop position) <$> xs.mapM f := by
  induction xs generalizing position with
  | nil => simp [List.mapM_cons, idle]
  | cons x rest ih =>
    cases position with
    | zero => simp [List.mapM_cons, idle]
    | succ position => simp [List.mapM_cons, ih]

/-- Drafts go on alike if they come to the same as far as what follows them looks. -/
theorem Draft.bind_congr_of_map {x : Draft α} {y : Draft β} {f : α → γ} {g : β → γ}
    {next : α → Draft δ} {onward : β → Draft δ} (same : f <$> x = g <$> y)
    (follows : ∀ one other, y.outcome = .ok other → f one = g other → next one = onward other) :
    x >>= next = y >>= onward := by
  obtain ⟨claims, outcome⟩ := x
  obtain ⟨others, reached⟩ := y
  rw [map_eq_pure_bind, map_eq_pure_bind] at same
  show andThen _ _ = andThen _ _
  change andThen _ _ = andThen _ _ at same
  cases outcome <;> cases reached <;> simp [andThen] at same ⊢
  · exact same
  · rw [same.1, follows _ _ rfl same.2]
    simp

namespace Job

/-- Neither the type nor, in an output record, any of its fields is selected. -/
structure Idle (job : Job) (definition : Definition) : Prop where
  type : ∃ policy, Policy.ofDefinition definition job.settings.generateAll = .ok policy ∧
    policy.generate = false
  fields : ∀ record, definition = .output record → ∀ field ∈ record.fields,
    ∃ policy, Policy.ofField record.name field job.settings.generateAll = .ok policy ∧
      policy.generate = false

namespace Idle

variable {job : Job} {extra : Definition} (idle : job.Idle extra)

include idle

theorem isSelected : job.isSelected extra = pure false := by
  obtain ⟨policy, read, apart⟩ := idle.type
  rw [Job.isSelected, read, ← apart]
  rfl

theorem selectedName : job.selectedName extra = pure [] := by
  rw [Job.selectedName, idle.isSelected]
  rfl

theorem fieldContribution {record : RecordType} {field : Field} (output : extra = .output record)
    (among : field ∈ record.fields) : job.fieldContribution record.name field = pure {} := by
  obtain ⟨policy, read, apart⟩ := idle.fields record output field among
  rw [Job.fieldContribution, read]
  show (pure policy >>= _ : Draft Contribution) = _
  simp [apart]

theorem outputContribution : job.outputContribution extra = pure {} := by
  cases extra with
  | output record =>
    have served : record.fields.mapM (job.fieldContribution record.name) =
        pure (record.fields.map fun _ => {}) := by
      rw [mapM_congr fun field => idle.fieldContribution rfl]
      exact List.mapM_pure
    have gap (fields : Nat) :
        (List.replicate fields ({} : Contribution)).flatMap (·.artifacts) = [] := by
      simp [List.flatMap_eq_nil_iff]
    simp [Job.outputContribution, idle.isSelected, Draft.when, served, gap]
  | scalar _ _ | enum _ _ _ | input _ | interface _ | union _ _ _ => rfl

theorem interfaceContribution : job.interfaceContribution extra = pure [] := by
  cases extra with
  | interface record => simp [Job.interfaceContribution, idle.isSelected, Draft.when]
  | scalar _ _ | enum _ _ _ | input _ | output _ | union _ _ _ => rfl

end Idle

variable {job : Job} {position : Nat} {extra definition : Definition}
  {fresh : extra.name ∉ job.schema.types.map Definition.name} {name : QualifiedName}
  {artifact : Artifact} {paged : Bool} {group : List Artifact} {found : Reach}
  {pending : List String}

/-- Policies do not look at the schema. -/
theorem Idle.inserted (idle : job.Idle extra) (position : Nat)
    (fresh : extra.name ∉ job.schema.types.map Definition.name) :
    (job.inserted position extra fresh).Idle extra :=
  ⟨idle.type, idle.fields⟩

/-- A type that is not emitted on demand has no names of its own in the table. -/
theorem owners_eq (job : Job) : job.owners = (job.schema.types.flatMap fun definition =>
    (job.ownNames definition).map (·, definition.name)).reverse := by
  rw [owners, onDemand]
  refine congrArg List.reverse ?_
  induction job.schema.types with
  | nil => rfl
  | cons definition rest ih =>
    cases listed : isOnDemand definition with
    | true => rw [List.filter_cons_of_pos listed, List.flatMap_cons, List.flatMap_cons, ih]
    | false =>
      have none : job.ownNames definition = [] := by
        cases definition <;> first | rfl | simp [isOnDemand] at listed
      rw [List.filter_cons_of_neg (by simp [listed]), List.flatMap_cons, ih, none, List.map_nil,
        List.nil_append]

section

/- No type before the position has a name in common with the new one. -/
variable (unshadowed : ∀ definition ∈ job.schema.types.take position,
  ∀ name ∈ job.ownNames extra, name ∉ job.ownNames definition)

include unshadowed

/-- A name that a declared type owns leads to the same type as before. -/
theorem find?_owners_inserted
    (owned : name ∈ job.ownNames extra → ∃ owner ∈ job.onDemand, name ∈ job.ownNames owner) :
    (job.inserted position extra fresh).owners.find? (·.1 = name) =
      job.owners.find? (·.1 = name) := by
  let entries (definition : Definition) : List (QualifiedName × String) :=
    (job.ownNames definition).map (·, definition.name)
  have before : job.owners = ((job.schema.types.drop position).flatMap entries).reverse ++
      ((job.schema.types.take position).flatMap entries).reverse := by
    rw [owners_eq, ← List.reverse_append, ← List.flatMap_append, List.take_append_drop]
  have after : (job.inserted position extra fresh).owners =
      ((job.schema.types.drop position).flatMap entries).reverse ++ ((entries extra).reverse ++
        ((job.schema.types.take position).flatMap entries).reverse) := by
    rw [owners_eq, inserted, Schema.inserted, List.flatMap_append, List.flatMap_cons,
      List.reverse_append, List.reverse_append, List.append_assoc]
    rfl
  rw [before, after, List.find?_append, List.find?_append, List.find?_append]
  by_cases own : name ∈ job.ownNames extra
  · -- The owner stands after the position, where the look-up comes first.
    obtain ⟨owner, among, mine⟩ := owned own
    have later : owner ∈ job.schema.types.drop position := by
      have member := (mem_onDemand.mp among).1
      rw [← List.take_append_drop position job.schema.types, List.mem_append] at member
      exact member.resolve_left fun earlier => unshadowed owner earlier name own mine
    have found : (((job.schema.types.drop position).flatMap entries).reverse.find?
        (·.1 = name)).isSome = true := by
      rw [List.find?_isSome]
      refine ⟨(name, owner.name), ?_, by simp⟩
      rw [List.mem_reverse, List.mem_flatMap]
      exact ⟨owner, later, List.mem_map_of_mem mine⟩
    rw [Option.or_of_isSome found, Option.or_of_isSome found]
  · have none : (entries extra).reverse.find? (·.1 = name) = none := by
      simp only [List.find?_eq_none, List.mem_reverse, entries, List.mem_map, decide_eq_true_eq]
      rintro _ ⟨other, listed, rfl⟩ rfl
      exact own listed
    rw [none, Option.none_or]

/-- What the artifacts of a group name leads to the same types as before. -/
theorem referencedTypes_inserted (made : Group job Set.univ paged group) (among : artifact ∈ group) :
    referencedTypes (job.inserted position extra fresh).owners artifact =
      referencedTypes job.owners artifact := by
  refine List.filterMap_congr fun name named => ?_
  rw [find?_owners_inserted unshadowed fun own => ?_]
  rw [ownNames_eq] at own
  obtain ⟨key, listed, rfl⟩ := List.mem_map.mp own
  obtain ⟨owner, owns, twin, theirs, _, composed, _⟩ :=
    made.exists_owner among named (segment_of_ownKeys listed)
  exact ⟨owner, owns, ownNames_eq job owner ▸ composed ▸ List.mem_map_of_mem theirs⟩

theorem flatMap_referencedTypes_inserted {served : Bool} {artifacts : List Artifact}
    (grouped : Grouped job Set.univ served artifacts) :
    artifacts.flatMap (referencedTypes (job.inserted position extra fresh).owners) =
      artifacts.flatMap (referencedTypes job.owners) := by
  refine List.flatMap_congr fun artifact among => ?_
  obtain ⟨paged, group, made, member, _⟩ := grouped artifact among
  exact referencedTypes_inserted unshadowed made member

end

theorem onDemand_inserted (position : Nat)
    (fresh : extra.name ∉ job.schema.types.map Definition.name) :
    (job.inserted position extra fresh).onDemand = job.onDemand ∨
    ∃ place, (job.inserted position extra fresh).onDemand =
      job.onDemand.take place ++ extra :: job.onDemand.drop place := by
  have split : job.onDemand = (job.schema.types.take position).filter isOnDemand ++
      (job.schema.types.drop position).filter isOnDemand := by
    rw [onDemand, ← List.filter_append, List.take_append_drop]
  have merged : (job.inserted position extra fresh).onDemand =
      (job.schema.types.take position).filter isOnDemand ++
        (extra :: job.schema.types.drop position).filter isOnDemand := List.filter_append ..
  rw [merged, split]
  cases listed : isOnDemand extra with
  | false => exact .inl (by rw [List.filter_cons_of_neg (by simp [listed])])
  | true =>
    refine .inr ⟨((job.schema.types.take position).filter isOnDemand).length, ?_⟩
    rw [List.filter_cons_of_pos listed, List.take_left', List.drop_left'] <;> rfl

theorem flatMap_inserted {make : α → List β} {nothing : α} (none : make nothing = []) (xs : List α)
    (place : Nat) : (xs.take place ++ nothing :: xs.drop place).flatMap make = xs.flatMap make := by
  rw [List.flatMap_append, List.flatMap_cons, none, List.nil_append, ← List.flatMap_append,
    List.take_append_drop]

theorem flatten_inserted (parts : List (List α)) (place : Nat) :
    (parts.take place ++ [] :: parts.drop place).flatten = parts.flatten := by
  rw [← List.flatMap_id, flatMap_inserted rfl, List.flatMap_id]

theorem any_inserted {holds : α → Bool} {nothing : α} (none : holds nothing = false) (xs : List α)
    (place : Nat) : (xs.take place ++ nothing :: xs.drop place).any holds = xs.any holds := by
  rw [List.any_append, List.any_cons, none, Bool.false_or, ← List.any_append, List.take_append_drop]

theorem selected_inserted (idle : job.Idle extra) :
    List.flatten <$> (job.inserted position extra fresh).onDemand.mapM
      (job.inserted position extra fresh).selectedName =
    List.flatten <$> job.onDemand.mapM job.selectedName := by
  have same : job.onDemand.mapM (job.inserted position extra fresh).selectedName =
      job.onDemand.mapM job.selectedName := rfl
  rcases onDemand_inserted position fresh with listed | ⟨place, listed⟩
  · rw [listed, same]
  · rw [listed, Draft.mapM_inserted (idle.inserted position fresh).selectedName, same,
      Functor.map_map]
    simp only [flatten_inserted]

/-- A type that comes to nothing leaves a gap among the results. -/
theorem mapM_types_inserted {make remade : Definition → Draft α} {nothing : α}
    (same : ∀ definition ∈ job.schema.types, remade definition = make definition)
    (idle : remade extra = pure nothing) :
    (job.inserted position extra fresh).schema.types.mapM remade =
      (fun ys => ys.take position ++ nothing :: ys.drop position) <$> job.schema.types.mapM make := by
  rw [← mapM_congr same]
  exact Draft.mapM_inserted idle position _

theorem enumContribution_unreached (unreached : extra.name ∉ found.types) :
    (job.inserted position extra fresh).enumContribution found extra = pure [] := by
  cases extra with
  | enum name _ _ =>
    have apart : name ∉ found.types := unreached
    simp [enumContribution, apart, Draft.when]
  | scalar _ _ | input _ | output _ | interface _ | union _ _ _ => rfl

theorem inputContribution_unreached (unreached : extra.name ∉ found.types)
    (entered : ∀ type artifacts, found.inputs.get? type = some artifacts → type ∈ found.types) :
    inputContribution found extra = [] := by
  cases extra with
  | input record =>
    cases made : found.inputs.get? record.name with
    | none => simp [inputContribution, made]
    | some artifacts => exact absurd (entered _ _ made) unreached
  | scalar _ _ | enum _ _ _ | output _ | interface _ | union _ _ _ => rfl

/-- A run without the new type does not reach it. -/
theorem unreached_of_reach (fresh : extra.name ∉ job.schema.types.map Definition.name)
    (known : ∀ type ∈ pending, type ∈ job.onDemand.map Definition.name)
    (reached : (job.reach job.owners job.onDemand.length pending {}).outcome = .ok found) :
    extra.name ∉ found.types ∧
      ∀ type artifacts, found.inputs.get? type = some artifacts → type ∈ found.types := by
  have valid := (reach_run (Reach.start_invariant known) (by simp) (Draft.yields_univ.mpr reached)).1
  refine ⟨fun among => ?_, valid.entered⟩
  obtain ⟨owner, listed, called⟩ := List.mem_map.mp (valid.known _ (List.mem_append_left _ among))
  exact name_ne_of_mem fresh (mem_onDemand.mp listed).1 called

section Run

variable (silent : ¬ job.schema.Mentions extra.name) (grounded : job.schema.Grounded)
  (unshadowed : ∀ definition ∈ job.schema.types.take position,
    ∀ name ∈ job.ownNames extra, name ∉ job.ownNames definition)

include silent grounded unshadowed

/-- The worklist works off the same types in the same rounds. -/
theorem reach_inserted {rounds : Nat}
    (known : ∀ type ∈ pending, type ∈ job.onDemand.map Definition.name) :
    (job.inserted position extra fresh).reach (job.inserted position extra fresh).owners rounds
      pending found = job.reach job.owners rounds pending found := by
  induction rounds generalizing pending found with
  | zero => rw [reach, reach]
  | succ rounds ih =>
    cases next : found.unseen pending with
    | nil => rw [reach_done next, reach_done next]
    | cons type rest =>
      have pends : type :: rest ⊆ pending := next ▸ (List.dropWhile_sublist _).subset
      have later : ∀ type ∈ rest, type ∈ job.onDemand.map Definition.name :=
        fun other among => known other (pends (.tail _ among))
      obtain ⟨owner, among, called⟩ := List.mem_map.mp (known type (pends (.head _)))
      have apart : type ≠ extra.name := called ▸ name_ne_of_mem fresh (mem_onDemand.mp among).1
      have same : (job.inserted position extra fresh).schema.get? type = job.schema.get? type := by
        rw [inserted, Schema.get?_inserted apart]
      by_cases isInput : ∃ record, job.schema.get? type = some (.input record)
      · obtain ⟨record, opened⟩ := isInput
        rw [reach_input next opened, reach_input next (same.trans opened)]
        obtain ⟨member, rfl⟩ := Schema.get?_eq_some_iff.mp opened
        rw [inputArtifacts_inserted silent grounded member]
        refine Draft.bind_congr_of_outcome fun artifacts filled => ?_
        have made := Group.input member (Draft.yields_univ.mpr filled)
        rw [flatMap_referencedTypes_inserted unshadowed made.grouped]
        refine ih fun other among => ?_
        simp only [List.mem_append, List.mem_reverse, List.mem_flatMap] at among
        rcases among with ⟨artifact, _, named⟩ | among
        · exact mem_referencedTypes named
        · exact later other among
      · have noInput := not_exists.mp isInput
        rw [reach_other next noInput, reach_other next fun record => same ▸ noInput record]
        exact ih later

/-- A round for the new type makes no difference. -/
theorem reach_onDemand_inserted
    (known : ∀ type ∈ pending, type ∈ job.onDemand.map Definition.name) :
    (job.inserted position extra fresh).reach (job.inserted position extra fresh).owners
      (job.inserted position extra fresh).onDemand.length pending {} =
    job.reach job.owners job.onDemand.length pending {} := by
  rw [reach_inserted silent grounded unshadowed known]
  rcases onDemand_inserted position fresh with listed | ⟨place, listed⟩
  · rw [listed]
  · rw [listed, List.perm_middle.length_eq, List.take_append_drop, List.length_cons]
    exact reach_succ (Reach.start_invariant known) (by simp)

/-- Phase by phase the new type leaves a gap, and the gaps close as the phases are joined. -/
theorem emission_inserted (idle : job.Idle extra) :
    (job.inserted position extra fresh).emission = job.emission := by
  have outputs (definition : Definition) (member : definition ∈ job.schema.types) :
      (job.inserted position extra fresh).outputContribution definition =
        job.outputContribution definition := outputContribution_inserted silent grounded member
  have interfaces (definition : Definition) (member : definition ∈ job.schema.types) :
      (job.inserted position extra fresh).interfaceContribution definition =
        job.interfaceContribution definition := interfaceContribution_inserted silent grounded member
  have still := idle.inserted position fresh
  rw [emission, emission, mapM_types_inserted outputs still.outputContribution, bind_map_left]
  refine Draft.bind_congr_of_outcome fun served servedMade => ?_
  dsimp only
  rw [mapM_types_inserted interfaces still.interfaceContribution, bind_map_left]
  refine Draft.bind_congr_of_outcome fun interfaces interfacesMade => ?_
  rw [flatMap_inserted rfl, any_inserted rfl, flatten_inserted]
  refine Draft.bind_congr_of_map (selected_inserted idle) fun _ selected selectedMade same => ?_
  rw [same]
  have known : ∀ type ∈ (selected.flatten ++ (served.flatMap (·.artifacts) ++
      interfaces.flatten).flatMap (referencedTypes job.owners)).reverse,
      type ∈ job.onDemand.map Definition.name := fun type among =>
    known_of_selected _ (Draft.yields_mapM.mp (Draft.yields_univ.mpr selectedMade)) type
      (List.mem_reverse.mp among)
  have outputs := outputs_grouped (Draft.yields_mapM.mp (Draft.yields_univ.mpr servedMade))
  have interfaces := interfaces_grouped (Draft.yields_mapM.mp (Draft.yields_univ.mpr interfacesMade))
  rw [flatMap_referencedTypes_inserted unshadowed (outputs.append (interfaces.mono (by simp))),
    reach_onDemand_inserted silent grounded unshadowed known]
  refine Draft.bind_congr_of_outcome fun found reached => ?_
  obtain ⟨unreached, entered⟩ := unreached_of_reach fresh known reached
  have enums (definition : Definition) (_ : definition ∈ job.schema.types) :
      (job.inserted position extra fresh).enumContribution found definition =
        job.enumContribution found definition := rfl
  rw [mapM_types_inserted enums (enumContribution_unreached unreached), bind_map_left]
  have inputs : (job.inserted position extra fresh).schema.types.flatMap (inputContribution found) =
      job.schema.types.flatMap (inputContribution found) :=
    flatMap_inserted (inputContribution_unreached unreached entered) _ position
  refine bind_congr fun enums => ?_
  rw [flatten_inserted, inputs]
  rfl

end Run

/-- A type that the schema does not mention, and whose policies do not select it, has no effect
wherever it is declared, unless a type declared before it has a name in common with it: then the
look-up of that name leads to the new type. -/
theorem generate_inserted (job : Job) (position : Nat) (extra : Definition)
    (fresh : extra.name ∉ job.schema.types.map Definition.name)
    (silent : ¬ job.schema.Mentions extra.name) (idle : job.Idle extra)
    (grounded : job.schema.Grounded)
    (unshadowed : ∀ definition ∈ job.schema.types.take position,
      ∀ name ∈ job.ownNames extra, name ∉ job.ownNames definition) :
    (job.inserted position extra fresh).generate = job.generate := by
  rw [generate, emission_inserted silent grounded unshadowed idle]
  rfl

def lone : Job where
  schema := .ofList [
    .enum "fooBar" ["B"] .empty,
    .output ⟨"Query", [⟨"pick", .named "fooBar", [], .ofList [⟨"generate", []⟩]⟩], .empty⟩]
  settings := {}

/-- An enum that nothing uses, though its name is composed like that of the other. -/
def spare : Definition := .enum "foo_bar" ["A"] .empty

theorem lone_fresh : spare.name ∉ lone.schema.types.map Definition.name := by
  decide +kernel

theorem lone_grounded : lone.schema.Grounded := by
  intro definition loop
  have member := lone.schema.inside_subset definition loop
  obtain ⟨_, ⟨_, _, _, rfl, _⟩, _⟩ := Relation.TransGen.head'_iff.mp loop
  simp [lone, Schema.ofList, Schema.add, Schema.put, Schema.empty, Definition.name] at member

theorem lone_idle : lone.Idle spare :=
  ⟨⟨_, rfl, rfl⟩, by rintro _ ⟨⟩⟩

theorem lone_silent : ¬ lone.schema.Mentions spare.name := by
  decide +kernel

/-- Declared first, the spare enum is not looked up. -/
theorem generate_inserted_lone :
    ¬ lone.schema.Mentions spare.name ∧ lone.Idle spare ∧ lone.schema.Grounded ∧
      lone.generate.isOk = true ∧
      (lone.inserted 0 spare lone_fresh).generate = lone.generate := by
  refine ⟨lone_silent, lone_idle, lone_grounded, by decide +kernel, ?_⟩
  exact generate_inserted lone 0 spare lone_fresh lone_silent lone_idle lone_grounded (by simp)

/-- Declared later, the spare enum is emitted in place of the other, and the run fails. -/
theorem generate_inserted_twin :
    ¬ lone.schema.Mentions spare.name ∧ lone.Idle spare ∧ lone.schema.Grounded ∧
      lone.generate.isOk = true ∧ (lone.inserted 1 spare lone_fresh).generate.isOk = false := by
  exact ⟨lone_silent, lone_idle, lone_grounded, by decide +kernel, by decide +kernel⟩

end Job

end Typewright
