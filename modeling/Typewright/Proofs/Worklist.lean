import Mathlib.Data.List.Perm.Subperm
import Mathlib.Data.List.TakeWhile
import Typewright.Artifact.Emission
import Typewright.Proofs.DraftOutcomes

/-! The worklist of types emitted on demand. A type is reached at most once, so the rounds that a
run has are enough, and at its end whatever an artifact of a reached type names is reached too. -/
namespace Typewright.Job

variable {job : Job} {granted : Set Key} {found final : Reach} {pending rest : List String}
  {name : QualifiedName} {type : String} {artifact : Artifact} {artifacts : List Artifact}

theorem mem_referencedTypes (member : type ∈ referencedTypes job.owners artifact) :
    type ∈ job.onDemand.map Definition.name := by
  obtain ⟨name, _, owned⟩ := List.mem_filterMap.mp member
  obtain ⟨entry, first, rfl⟩ := Option.map_eq_some_iff.mp owned
  obtain ⟨definition, among, _, same⟩ := mem_owners.mp (List.mem_of_find?_eq_some first)
  exact same ▸ List.mem_map_of_mem among

/-- A name that a type owns leads to that type or to another one that owns it as well. -/
theorem exists_referencedType {definition : Definition} (among : definition ∈ job.onDemand)
    (own : name ∈ job.ownNames definition) (named : name ∈ artifact.references) :
    ∃ owner ∈ job.onDemand, name ∈ job.ownNames owner ∧
      owner.name ∈ referencedTypes job.owners artifact := by
  have entered : (name, definition.name) ∈ job.owners := mem_owners.mpr ⟨_, among, own, rfl⟩
  cases first : job.owners.find? (·.1 = name) with
  | none => simpa using List.find?_eq_none.mp first _ entered
  | some entry =>
    obtain ⟨called, type⟩ := entry
    obtain rfl : called = name := by simpa using List.find?_some first
    obtain ⟨owner, owns, mine, rfl⟩ := mem_owners.mp (List.mem_of_find?_eq_some first)
    exact ⟨owner, owns, mine, List.mem_filterMap.mpr ⟨called, named, by simp [first]⟩⟩

namespace Reach

/-- What the worklist keeps from round to round: `types` holds each type once, the input records
among them and no others have their artifacts, and what those name is reached or pending. -/
structure Invariant (job : Job) (granted : Set Key) (found : Reach) (pending : List String) :
    Prop where
  distinct : found.types.Nodup
  known : ∀ type ∈ found.types ++ pending, type ∈ job.onDemand.map Definition.name
  filled : ∀ record, .input record ∈ job.schema.types → record.name ∈ found.types →
    (found.inputs.get? record.name).isSome
  entered : ∀ type artifacts, found.inputs.get? type = some artifacts → type ∈ found.types
  made : ∀ type artifacts, found.inputs.get? type = some artifacts →
    ∃ record, .input record ∈ job.schema.types ∧ record.name = type ∧
      (job.inputArtifacts record).Yields granted artifacts
  closed : ∀ type artifacts, found.inputs.get? type = some artifacts →
    ∀ artifact ∈ artifacts, ∀ other ∈ referencedTypes job.owners artifact,
      other ∈ found.types ++ pending

theorem start_invariant (known : ∀ type ∈ pending, type ∈ job.onDemand.map Definition.name) :
    Invariant job granted {} pending where
  distinct := .nil
  known := by simpa using known
  filled := by simp
  entered := by simp [Dict.get?]
  made := by simp [Dict.get?]
  closed := by simp [Dict.get?]

/-- Pending types may go as long as they are reached. -/
theorem Invariant.shrink {fewer : List String} (valid : Invariant job granted found pending)
    (same : ∀ type, type ∈ found.types ++ fewer ↔ type ∈ found.types ++ pending) :
    Invariant job granted found fewer where
  distinct := valid.distinct
  known type member := valid.known type ((same type).mp member)
  filled := valid.filled
  entered := valid.entered
  made := valid.made
  closed type artifacts entered artifact member other named :=
    (same other).mpr (valid.closed type artifacts entered artifact member other named)

theorem mem_unseen : type ∈ found.types ++ found.unseen pending ↔ type ∈ found.types ++ pending := by
  simp only [List.mem_append]
  constructor
  · exact Or.imp_right fun member => (List.dropWhile_sublist _).subset member
  · rintro (reached | member)
    · exact .inl reached
    · rw [← List.takeWhile_append_dropWhile (p := (found.types.contains ·)) (l := pending),
        List.mem_append] at member
      exact member.imp_left fun dropped => by simpa using List.mem_takeWhile_imp dropped

theorem unseen_head (next : found.unseen pending = type :: rest) : type ∉ found.types := by
  have kept := List.head?_dropWhile_not (found.types.contains ·) pending
  rw [← unseen, next] at kept
  simpa using kept

/-- A round that reaches an input record enters its artifacts and makes pending what they name. -/
theorem Invariant.input {record : RecordType}
    (valid : Invariant job granted found (record.name :: rest)) (fresh : record.name ∉ found.types)
    (member : .input record ∈ job.schema.types)
    (made : (job.inputArtifacts record).Yields granted artifacts) :
    Invariant job granted
      ⟨record.name :: found.types, found.inputs.insert record.name artifacts⟩
      ((artifacts.flatMap (referencedTypes job.owners)).reverse ++ rest) where
  distinct := List.nodup_cons.mpr ⟨fresh, valid.distinct⟩
  known := by
    intro type among
    simp only [List.mem_append, List.mem_cons, List.mem_reverse, List.mem_flatMap] at among
    rcases among with (rfl | reached) | (⟨artifact, _, named⟩ | later)
    · exact valid.known _ (by simp)
    · exact valid.known _ (by simp [reached])
    · exact mem_referencedTypes named
    · exact valid.known _ (by simp [later])
  filled := by
    intro other defined reached
    rw [Dict.get?_insert]
    split
    · rfl
    next apart =>
      rcases List.mem_cons.mp reached with same | before
      · exact absurd same apart
      · exact valid.filled other defined before
  entered := by
    intro type others entered
    rw [Dict.get?_insert] at entered
    split at entered
    next same => exact same ▸ .head _
    next => exact .tail _ (valid.entered type others entered)
  made := by
    intro type others entered
    rw [Dict.get?_insert] at entered
    split at entered
    next same => exact ⟨record, member, same.symm, Option.some.inj entered ▸ made⟩
    next => exact valid.made type others entered
  closed := by
    intro type others entered artifact among other named
    rw [Dict.get?_insert] at entered
    split at entered
    next =>
      obtain rfl := Option.some.inj entered
      simp only [List.mem_append, List.mem_reverse, List.mem_flatMap]
      exact .inr (.inl ⟨artifact, among, named⟩)
    next =>
      have covered := valid.closed type others entered artifact among other named
      simp only [List.mem_append, List.mem_cons] at covered ⊢
      rcases covered with reached | rfl | later
      · exact .inl (.inr reached)
      · exact .inl (.inl rfl)
      · exact .inr (.inr later)

/-- A round that reaches any other type does no more than that. -/
theorem Invariant.other (valid : Invariant job granted found (type :: rest))
    (fresh : type ∉ found.types)
    (apart : ∀ record, job.schema.get? type ≠ some (.input record)) :
    Invariant job granted { found with types := type :: found.types } rest where
  distinct := List.nodup_cons.mpr ⟨fresh, valid.distinct⟩
  known := by
    intro other among
    refine valid.known other ?_
    simp only [List.cons_append, List.mem_cons, List.mem_append] at among ⊢
    tauto
  filled := by
    intro record defined reached
    rcases List.mem_cons.mp reached with rfl | before
    · exact absurd (Schema.get?_eq_some_iff.mpr ⟨defined, rfl⟩) (apart record)
    · exact valid.filled record defined before
  entered type artifacts entered := .tail _ (valid.entered type artifacts entered)
  made := valid.made
  closed := by
    intro entry artifacts entered artifact among other named
    have covered := valid.closed entry artifacts entered artifact among other named
    simp only [List.cons_append, List.mem_cons, List.mem_append] at covered ⊢
    tauto

/-- With as many types reached as there are, nothing is left to reach. -/
theorem Invariant.exhausted (valid : Invariant job granted found pending)
    (all : job.onDemand.length ≤ found.types.length) : ∀ type ∈ pending, type ∈ found.types := by
  have within : found.types ⊆ job.onDemand.map Definition.name :=
    fun type reached => valid.known type (List.mem_append_left _ reached)
  have perm := (List.subperm_of_subset valid.distinct within).perm_of_length_le (by simpa using all)
  exact fun type later => perm.mem_iff.mpr (valid.known type (List.mem_append_right _ later))

theorem Invariant.settled (valid : Invariant job granted found pending)
    (done : ∀ type ∈ pending, type ∈ found.types) :
    Invariant job granted found [] ∧ ∀ type ∈ found.types ++ pending, type ∈ found.types := by
  have all : ∀ type ∈ found.types ++ pending, type ∈ found.types := fun type member =>
    (List.mem_append.mp member).elim id (done type)
  refine ⟨valid.shrink fun type => ?_, all⟩
  rw [List.append_nil]
  exact ⟨List.mem_append_left _, all type⟩

end Reach

/-- A run with enough rounds reaches all that is pending, and ends with nothing left to reach. -/
theorem reach_run {rounds : Nat} (valid : Reach.Invariant job granted found pending)
    (enough : job.onDemand.length ≤ rounds + found.types.length)
    (made : (job.reach job.owners rounds pending found).Yields granted final) :
    Reach.Invariant job granted final [] ∧
      ∀ type ∈ found.types ++ pending, type ∈ final.types := by
  induction rounds generalizing pending found with
  | zero =>
    obtain rfl := Draft.yields_pure.mp made
    exact valid.settled (valid.exhausted (by omega))
  | succ rounds ih =>
    have smaller := valid.shrink fun type => Reach.mem_unseen
    suffices Reach.Invariant job granted final [] ∧
        ∀ type ∈ found.types ++ found.unseen pending, type ∈ final.types from
      ⟨this.1, fun type member => this.2 type (Reach.mem_unseen.mpr member)⟩
    rw [reach] at made
    split at made
    next none =>
      obtain rfl := Draft.yields_pure.mp made
      rw [none] at smaller ⊢
      exact smaller.settled (by simp)
    next type rest next =>
      have fresh := Reach.unseen_head next
      rw [next] at smaller ⊢
      split at made
      next record found =>
        obtain ⟨member, rfl⟩ := Schema.get?_eq_some_iff.mp found
        obtain ⟨artifacts, filled, made⟩ := Draft.yields_bind.mp made
        obtain ⟨valid, covered⟩ := ih (smaller.input fresh member filled)
          (by simp only [List.length_cons]; omega) made
        refine ⟨valid, fun type among => covered type ?_⟩
        simp only [List.mem_append, List.mem_cons] at among ⊢
        tauto
      next apart =>
        obtain ⟨valid, covered⟩ := ih (smaller.other fresh fun record => apart record)
          (by simp only [List.length_cons]; omega) made
        refine ⟨valid, fun type among => covered type ?_⟩
        simp only [List.mem_append, List.mem_cons] at among ⊢
        tauto

section Rounds

variable {owners : List (QualifiedName × String)} {rounds : Nat} {record : RecordType}

theorem reach_done (done : found.unseen pending = []) :
    job.reach owners (rounds + 1) pending found = pure found := by
  rw [reach, done]

theorem reach_input (next : found.unseen pending = type :: rest)
    (opened : job.schema.get? type = some (.input record)) :
    job.reach owners (rounds + 1) pending found = (job.inputArtifacts record >>= fun artifacts =>
      job.reach owners rounds ((artifacts.flatMap (referencedTypes owners)).reverse ++ rest)
        ⟨type :: found.types, found.inputs.insert type artifacts⟩) := by
  rw [reach, next]
  simp only [opened]

theorem reach_other (next : found.unseen pending = type :: rest)
    (apart : ∀ record, job.schema.get? type ≠ some (.input record)) :
    job.reach owners (rounds + 1) pending found =
      job.reach owners rounds rest { found with types := type :: found.types } := by
  rw [reach, next]
  dsimp only
  split
  next record opened => exact absurd opened (apart record)
  next => rfl

/-- With a round for each type one round more makes no difference. -/
theorem reach_succ (valid : Reach.Invariant job Set.univ found pending)
    (enough : job.onDemand.length ≤ rounds + found.types.length) :
    job.reach job.owners (rounds + 1) pending found = job.reach job.owners rounds pending found := by
  induction rounds generalizing pending found with
  | zero =>
    have done : found.unseen pending = [] := by
      rw [Reach.unseen, List.dropWhile_eq_nil_iff]
      simpa using valid.exhausted (by omega)
    rw [reach_done done, reach]
  | succ rounds ih =>
    have smaller := valid.shrink fun type => Reach.mem_unseen
    cases next : found.unseen pending with
    | nil => rw [reach_done next, reach_done next]
    | cons type rest =>
      have unreached := Reach.unseen_head next
      rw [next] at smaller
      by_cases isInput : ∃ record, job.schema.get? type = some (.input record)
      · obtain ⟨record, opened⟩ := isInput
        rw [reach_input next opened, reach_input next opened]
        obtain ⟨member, rfl⟩ := Schema.get?_eq_some_iff.mp opened
        refine Draft.bind_congr_of_outcome fun artifacts filled => ih ?_ ?_
        · exact smaller.input unreached member (Draft.yields_univ.mpr filled)
        · simp only [List.length_cons]
          omega
      · have apart := not_exists.mp isInput
        rw [reach_other next apart, reach_other next apart]
        refine ih (smaller.other unreached apart) ?_
        simp only [List.length_cons]
        omega

end Rounds

end Typewright.Job
