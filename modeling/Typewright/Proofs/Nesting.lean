import Mathlib.Data.Set.Card
import Mathlib.Logic.Relation
import Typewright.Proofs.Resolution

/-! Unions inside one another. Where none contains itself, fewer of them stand inside one another
than the schema has types, and the rounds that resolution has are enough. -/
namespace Typewright

namespace Schema

variable {schema : Schema} {outer inner : Definition}

/-- The first definition is a union with the second among its members. -/
def Opens (schema : Schema) (outer inner : Definition) : Prop :=
  ∃ name members directives, outer = .union name members directives ∧
    inner ∈ schema.types ∧ inner.name ∈ members

/-- No union of the schema contains itself. The base of one that does would have no end. -/
def Grounded (schema : Schema) : Prop :=
  ∀ definition, ¬ Relation.TransGen schema.Opens definition definition

def inside (schema : Schema) (definition : Definition) : Set Definition :=
  {inner | Relation.TransGen schema.Opens definition inner}

theorem inside_subset (schema : Schema) (definition : Definition) :
    schema.inside definition ⊆ {inner | inner ∈ schema.types} := by
  intro inner contained
  obtain ⟨_, _, _, _, _, _, member, _⟩ := Relation.TransGen.tail'_iff.mp contained
  exact member

theorem ncard_inside_le (schema : Schema) (definition : Definition) :
    (schema.inside definition).ncard ≤ schema.size := by
  classical
  have types : {inner | inner ∈ schema.types} = (schema.types.toFinset : Set Definition) := by
    ext inner
    simp
  calc (schema.inside definition).ncard
      ≤ (schema.types.toFinset : Set Definition).ncard :=
        Set.ncard_le_ncard (types ▸ schema.inside_subset definition) (Finset.finite_toSet _)
    _ = schema.types.toFinset.card := Set.ncard_coe_finset _
    _ ≤ schema.size := schema.types.toFinset_card_le

theorem Grounded.ncard_lt (grounded : schema.Grounded) (opens : schema.Opens outer inner) :
    (schema.inside inner).ncard < (schema.inside outer).ncard := by
  refine Set.ncard_lt_ncard ⟨fun other contained => .head opens contained, fun whole => ?_⟩
    (schema.types.finite_toSet.subset (schema.inside_subset outer))
  exact grounded inner (whole (.single opens))

end Schema

/-- Only what the members resolve to matters. -/
theorem sharedBase_congr {resolve other : String → Draft Base} {members : List String}
    (each : ∀ member ∈ members, other member = resolve member) (shared : Option Base) :
    sharedBase other shared members = sharedBase resolve shared members := by
  induction members generalizing shared with
  | nil => rw [sharedBase, sharedBase]
  | cons member rest ih =>
    have later := ih fun member among => each member (.tail _ among)
    rw [sharedBase, sharedBase, each member (.head _)]
    refine bind_congr fun base => ?_
    cases shared with
    | none => exact later _
    | some common => simp only [later]

namespace Job

variable {job other : Job} {definition : Definition}

def memberBase (job : Job) (nested : Nat) (union member : String) : Draft Base := do
  job.baseOfDefinition nested (← job.schema.lookup union member)

/-- A union that may not open has no base of its own. -/
theorem baseOfDefinition_zero (settings : other.settings = job.settings) :
    other.baseOfDefinition 0 definition = job.baseOfDefinition 0 definition := by
  obtain ⟨schema, settings⟩ := job
  obtain ⟨larger, _⟩ := other
  obtain rfl := settings
  rw [baseOfDefinition.eq_def, baseOfDefinition.eq_def]
  refine bind_congr fun representation => ?_
  cases representation with
  | some _ => rfl
  | none => cases definition <;> rfl

/-- Under the same settings a definition has the same base if the members of a union do. -/
theorem baseOfDefinition_congr {nested others : Nat} (settings : other.settings = job.settings)
    (same : ∀ name members directives, definition = .union name members directives →
      ∀ member ∈ members, other.memberBase others name member = job.memberBase nested name member) :
    other.baseOfDefinition (others + 1) definition = job.baseOfDefinition (nested + 1) definition := by
  obtain ⟨schema, settings⟩ := job
  obtain ⟨larger, _⟩ := other
  obtain rfl := settings
  rw [baseOfDefinition.eq_def, baseOfDefinition.eq_def]
  refine bind_congr fun representation => ?_
  cases representation with
  | some _ => rfl
  | none =>
    cases definition with
    | union name members directives =>
      have shared := sharedBase_congr (same name members directives rfl) none
      exact congrArg (· >>= fun found => pure (found.getD .unknown)) shared
    | scalar _ _ | enum _ _ _ | input _ | output _ | interface _ => rfl

/-- A round more than a definition contains others makes no difference. -/
theorem baseOfDefinition_succ (grounded : job.schema.Grounded) {nested : Nat}
    (enough : (job.schema.inside definition).ncard < nested) :
    job.baseOfDefinition (nested + 1) definition = job.baseOfDefinition nested definition := by
  induction nested generalizing definition with
  | zero => omega
  | succ nested ih =>
    refine baseOfDefinition_congr rfl ?_
    rintro name members directives rfl member listed
    refine Draft.bind_congr_of_outcome fun inner found => ih ?_
    have found := yields_lookup.mp (Draft.yields_univ.mpr found)
    obtain ⟨declared, rfl⟩ := Schema.get?_eq_some_iff.mp found
    have less := grounded.ncard_lt ⟨name, members, directives, rfl, declared, listed⟩
    omega

end Job

end Typewright
