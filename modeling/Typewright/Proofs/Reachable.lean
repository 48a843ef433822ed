import Mathlib.Logic.Relation
import Typewright.Proofs.Worklist

/-! The types that a worklist reaches: those to which the pending ones lead, and no others. The
order in which it works them off decides nothing. -/
namespace Typewright.Job

variable {job : Job} {granted : Set Key} {found final : Reach} {pending rest : List String}
  {name type : String} {record : RecordType} {artifacts : List Artifact}

/-- The first name is that of an input record whose artifacts name the second type. -/
def Leads (job : Job) (name type : String) : Prop :=
  ∃ record artifacts, job.schema.get? name = some (.input record) ∧
    (job.inputArtifacts record).outcome = .ok artifacts ∧
    ∃ artifact ∈ artifacts, type ∈ referencedTypes job.owners artifact

/-- A pending type leads to this one, by way of as many others as need be. -/
def Reachable (job : Job) (pending : List String) (type : String) : Prop :=
  ∃ start ∈ pending, Relation.ReflTransGen job.Leads start type

theorem Reachable.start (among : type ∈ pending) : Reachable job pending type :=
  ⟨type, among, .refl⟩

theorem Reachable.next (reached : Reachable job pending name) (leads : job.Leads name type) :
    Reachable job pending type := by
  obtain ⟨start, among, path⟩ := reached
  exact ⟨start, among, path.tail leads⟩

theorem Reachable.trans {others : List String} (reached : Reachable job others type)
    (covered : ∀ other ∈ others, Reachable job pending other) : Reachable job pending type := by
  obtain ⟨start, among, path⟩ := reached
  obtain ⟨first, pends, before⟩ := covered start among
  exact ⟨first, pends, before.trans path⟩

theorem Reachable.perm {others : List String} (same : ∀ type, type ∈ pending ↔ type ∈ others) :
    Reachable job pending type ↔ Reachable job others type :=
  exists_congr fun start => and_congr_left fun _ => same start

/-- What is reachable hangs on what the types on the way lead to alone. -/
theorem Reachable.congr {other : Job}
    (same : ∀ name type, Reachable job pending name →
      (other.Leads name type ↔ job.Leads name type)) :
    Reachable other pending type ↔ Reachable job pending type := by
  constructor
  · rintro ⟨start, among, path⟩
    induction path with
    | refl => exact .start among
    | tail _ leads before => exact before.next ((same _ _ before).mp leads)
  · rintro ⟨start, among, path⟩
    induction path with
    | refl => exact .start among
    | tail path leads before =>
      exact before.next ((same _ _ ⟨start, among, path⟩).mpr leads)

/-- What remains after a round for an input record is reachable from what was pending. -/
theorem reachable_of_round (found : job.schema.get? name = some (.input record))
    (made : (job.inputArtifacts record).outcome = .ok artifacts)
    (among : type ∈ (artifacts.flatMap (referencedTypes job.owners)).reverse ++ rest) :
    Reachable job (name :: rest) type := by
  simp only [List.mem_append, List.mem_reverse, List.mem_flatMap] at among
  rcases among with ⟨artifact, inside, named⟩ | later
  · exact (Reachable.start (.head _)).next ⟨record, artifacts, found, made, artifact, inside, named⟩
  · exact .start (.tail _ later)

theorem reachable_of_unseen (reached : Reachable job (found.unseen pending) type) :
    Reachable job pending type :=
  reached.trans fun _ among => .start ((List.dropWhile_sublist _).subset among)

/-- A type is reached only on account of the pending ones. -/
theorem reachable_of_reach {rounds : Nat}
    (made : (job.reach job.owners rounds pending found).Yields granted final)
    (reached : type ∈ final.types) : type ∈ found.types ∨ Reachable job pending type := by
  induction rounds generalizing pending found with
  | zero =>
    obtain rfl := Draft.yields_pure.mp made
    exact .inl reached
  | succ rounds ih =>
    rw [reach] at made
    split at made
    next =>
      obtain rfl := Draft.yields_pure.mp made
      exact .inl reached
    next name rest next =>
      have onward (later : Reachable job (name :: rest) type) : Reachable job pending type :=
        reachable_of_unseen (next ▸ later)
      split at made
      next record found =>
        obtain ⟨artifacts, filled, made⟩ := Draft.yields_bind.mp made
        rcases ih made with before | later
        · rcases List.mem_cons.mp before with rfl | before
          · exact .inr (onward (.start (.head _)))
          · exact .inl before
        · exact .inr (onward (later.trans fun _ => reachable_of_round found filled.outcome))
      next =>
        rcases ih made with before | later
        · rcases List.mem_cons.mp before with rfl | before
          · exact .inr (onward (.start (.head _)))
          · exact .inl before
        · exact .inr (onward (later.trans fun _ among => .start (.tail _ among)))

/-- A worklist comes to its end if the artifacts of every input record on its way can be made. -/
theorem exists_reach {rounds : Nat}
    (fills : ∀ name record, Reachable job pending name →
      job.schema.get? name = some (.input record) →
      ∃ artifacts, (job.inputArtifacts record).Yields granted artifacts) :
    ∃ final, (job.reach job.owners rounds pending found).Yields granted final := by
  induction rounds generalizing pending found with
  | zero => exact ⟨found, Draft.yields_pure.mpr rfl⟩
  | succ rounds ih =>
    rw [reach]
    split
    next => exact ⟨found, Draft.yields_pure.mpr rfl⟩
    next name rest next =>
      have onward (type : String) (later : Reachable job (name :: rest) type) :
          Reachable job pending type := reachable_of_unseen (next ▸ later)
      split
      next record opened =>
        obtain ⟨artifacts, filled⟩ := fills name record (onward _ (.start (.head _))) opened
        obtain ⟨final, made⟩ := ih fun type other reached => fills type other
          (onward _ (reached.trans fun _ => reachable_of_round opened filled.outcome))
        exact ⟨final, Draft.yields_bind.mpr ⟨artifacts, filled, made⟩⟩
      next =>
        exact ih fun type other reached => fills type other
          (onward _ (reached.trans fun _ among => .start (.tail _ among)))

namespace Reach.Invariant

theorem entered_eq (valid : Invariant job granted found pending)
    (member : .input record ∈ job.schema.types)
    (entered : found.inputs.get? record.name = some artifacts) :
    (job.inputArtifacts record).Yields granted artifacts := by
  obtain ⟨other, defined, same, made⟩ := valid.made _ _ entered
  have equal : Definition.input other = .input record := Schema.eq_of_name defined member same
  exact Definition.input.inj equal ▸ made

/-- What a reached type leads to is reached or pending. -/
theorem mem_of_leads (valid : Invariant job granted found pending) (reached : name ∈ found.types)
    (leads : job.Leads name type) : type ∈ found.types ++ pending := by
  obtain ⟨record, artifacts, opened, made, artifact, inside, named⟩ := leads
  obtain ⟨member, rfl⟩ := Schema.get?_eq_some_iff.mp opened
  obtain ⟨others, entered⟩ := Option.isSome_iff_exists.mp (valid.filled record member reached)
  have filled := valid.entered_eq member entered
  obtain rfl : others = artifacts := Except.ok.inj (filled.outcome.symm.trans made)
  exact valid.closed _ _ entered artifact inside type named

end Reach.Invariant

/-- A run from the start, with a round for every type, reaches what is reachable. -/
theorem mem_types_reach (known : ∀ type ∈ pending, type ∈ job.onDemand.map Definition.name)
    (made : (job.reach job.owners job.onDemand.length pending {}).Yields granted final) :
    type ∈ final.types ↔ Reachable job pending type := by
  constructor
  · intro reached
    exact (reachable_of_reach made reached).resolve_left (by simp)
  · rintro ⟨start, among, path⟩
    obtain ⟨valid, covered⟩ := reach_run (Reach.start_invariant known) (by simp) made
    induction path with
    | refl => exact covered start (List.mem_append_right _ among)
    | tail _ leads reached => simpa using valid.mem_of_leads reached leads

end Typewright.Job
