import Typewright.Proofs.Correspondence
import Typewright.Proofs.Nesting

/-! A schema with one type more. What generators make for the other types stays as it is, as long as
the schema does not mention the new one. -/
namespace Typewright

def Definition.memberNames : Definition → List String
  | union _ members _ => members
  | scalar .. | enum .. | input _ | output _ | interface _ => []

namespace Schema

variable {schema : Schema} {position : Nat} {extra : Definition} {name : String}
  {fresh : extra.name ∉ schema.types.map Definition.name}

/-- A type reference or a union of the schema names the type. -/
def Mentions (schema : Schema) (name : String) : Prop :=
  ∃ definition ∈ schema.types, name ∈ definition.typeNames ++ definition.memberNames

instance (schema : Schema) (name : String) : Decidable (schema.Mentions name) :=
  inferInstanceAs (Decidable (∃ definition ∈ schema.types, _))

theorem distinct_inserted (fresh : extra.name ∉ schema.types.map Definition.name) :
    ((schema.types.take position ++ extra :: schema.types.drop position).map
      Definition.name).Nodup := by
  rw [(List.perm_middle.map Definition.name).nodup_iff, List.take_append_drop]
  exact List.nodup_cons.mpr ⟨fresh, schema.distinct⟩

def inserted (schema : Schema) (position : Nat) (extra : Definition)
    (fresh : extra.name ∉ schema.types.map Definition.name) : Schema where
  types := schema.types.take position ++ extra :: schema.types.drop position
  distinct := distinct_inserted fresh
  index := ((schema.types.take position ++ extra :: schema.types.drop position).map
    Definition.name).zipIdx
  located := Index.locates_zipIdx (distinct_inserted fresh)

theorem size_inserted : (schema.inserted position extra fresh).size = schema.size + 1 := by
  rw [size, size, inserted, List.perm_middle.length_eq, List.take_append_drop, List.length_cons]

theorem get?_inserted (apart : name ≠ extra.name) :
    (schema.inserted position extra fresh).get? name = schema.get? name := by
  ext definition
  have listed : definition ∈ (schema.inserted position extra fresh).types ↔
      definition = extra ∨ definition ∈ schema.types := by
    rw [inserted, List.perm_middle.mem_iff, List.take_append_drop, List.mem_cons]
  rw [get?_eq_some_iff, get?_eq_some_iff, listed, or_and_right, or_iff_right]
  rintro ⟨rfl, rfl⟩
  exact apart rfl

theorem lookup_inserted {node : String} (apart : name ≠ extra.name) :
    (schema.inserted position extra fresh).lookup node name = schema.lookup node name := by
  rw [lookup, lookup, get?_inserted apart]

end Schema

namespace Job

variable {job : Job} {position : Nat} {extra definition : Definition}
  {fresh : extra.name ∉ job.schema.types.map Definition.name} {node name : String}

def inserted (job : Job) (position : Nat) (extra : Definition)
    (fresh : extra.name ∉ job.schema.types.map Definition.name) : Job :=
  ⟨job.schema.inserted position extra fresh, job.settings⟩

@[simp] theorem settings_inserted :
    (job.inserted position extra fresh).settings = job.settings := rfl

theorem name_ne_of_mem (fresh : extra.name ∉ job.schema.types.map Definition.name)
    (member : definition ∈ job.schema.types) : definition.name ≠ extra.name :=
  fun same => fresh (same ▸ List.mem_map_of_mem member)

section

variable (silent : ¬ job.schema.Mentions extra.name)

include silent

theorem typeName_ne (member : definition ∈ job.schema.types) (named : name ∈ definition.typeNames) :
    name ≠ extra.name := by
  rintro rfl
  exact silent ⟨definition, member, List.mem_append_left _ named⟩

theorem memberName_ne (member : definition ∈ job.schema.types)
    (named : name ∈ definition.memberNames) : name ≠ extra.name := by
  rintro rfl
  exact silent ⟨definition, member, List.mem_append_right _ named⟩

theorem baseOfDefinition_inserted (nested : Nat) (member : definition ∈ job.schema.types) :
    (job.inserted position extra fresh).baseOfDefinition nested definition =
      job.baseOfDefinition nested definition := by
  induction nested generalizing definition with
  | zero => exact baseOfDefinition_zero rfl
  | succ nested ih =>
    refine baseOfDefinition_congr rfl ?_
    rintro union members directives rfl name listed
    have apart := memberName_ne silent member listed
    rw [memberBase, memberBase, inserted, Schema.lookup_inserted apart]
    refine Draft.bind_congr_of_outcome fun inner found => ih ?_
    exact (Schema.get?_eq_some_iff.mp (yields_lookup.mp (Draft.yields_univ.mpr found))).1

variable (grounded : job.schema.Grounded)

include grounded

theorem resolveDefinition_inserted (member : definition ∈ job.schema.types) :
    (job.inserted position extra fresh).resolveDefinition definition =
      job.resolveDefinition definition := by
  rw [resolveDefinition, baseOfDefinition_inserted silent _ member, inserted, Schema.size_inserted]
  have few := job.schema.ncard_inside_le definition
  exact baseOfDefinition_succ grounded (by omega)

theorem resolveBase_inserted (apart : name ≠ extra.name) :
    (job.inserted position extra fresh).resolveBase node name = job.resolveBase node name := by
  rw [resolveBase, resolveBase, settings_inserted]
  split
  · rfl
  split
  · rfl
  rw [inserted, Schema.lookup_inserted apart]
  refine Draft.bind_congr_of_outcome fun definition found => ?_
  have found := yields_lookup.mp (Draft.yields_univ.mpr found)
  exact resolveDefinition_inserted silent grounded (Schema.get?_eq_some_iff.mp found).1

/-- Under names that the schema mentions both jobs find the same. -/
theorem corresponds_inserted (position : Nat)
    (fresh : extra.name ∉ job.schema.types.map Definition.name) :
    job.Corresponds (job.inserted position extra fresh) id (· ≠ extra.name) where
  names _ := rfl
  generateAll := rfl
  contextType := rfl
  scalars := rfl
  found _ apart := by rw [inserted, Schema.get?_inserted apart]
  bases _ _ apart := by simp [resolveBase_inserted silent grounded apart]

variable (member : definition ∈ job.schema.types)

include member

theorem outputContribution_inserted :
    (job.inserted position extra fresh).outputContribution definition =
      job.outputContribution definition := by
  have same := (corresponds_inserted silent grounded position fresh).outputContribution
    (name_ne_of_mem fresh member) fun _ => typeName_ne silent member
  simpa using same

theorem interfaceContribution_inserted :
    (job.inserted position extra fresh).interfaceContribution definition =
      job.interfaceContribution definition := by
  have same := (corresponds_inserted silent grounded position fresh).interfaceContribution
    fun _ => typeName_ne silent member
  simpa using same

end

theorem inputArtifacts_inserted (silent : ¬ job.schema.Mentions extra.name)
    (grounded : job.schema.Grounded) {record : RecordType}
    (member : .input record ∈ job.schema.types) :
    (job.inserted position extra fresh).inputArtifacts record = job.inputArtifacts record := by
  have same := (corresponds_inserted silent grounded position fresh).inputArtifacts fun field among =>
    typeName_ne silent member (List.mem_flatMap.mpr ⟨field, among, .head _⟩)
  simpa using same

end Job

end Typewright
