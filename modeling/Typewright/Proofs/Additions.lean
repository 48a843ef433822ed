import Mathlib.Data.Finset.Card
import Mathlib.Data.List.Induction
import Typewright.Proofs.Lists
import Typewright.Schema.Store

/-! Schemas made by adding one definition after another. The index stays in step with the definitions
through every addition, a name keeps the place of its first addition, and what is found under it is
its last definition. -/
namespace Typewright

namespace Schema

variable {definitions : List Definition} {definition : Definition} {name : String}

theorem add_cases (schema : Schema) (definition : Definition) :
    (∃ position, schema.index.get? definition.name = some position ∧
      (schema.add definition).types = schema.types.set position definition ∧
      (schema.add definition).index = schema.index) ∨
    (schema.index.get? definition.name = none ∧
      (schema.add definition).types = schema.types ++ [definition] ∧
      (schema.add definition).index = (definition.name, schema.size) :: schema.index) := by
  cases known : schema.index.get? definition.name with
  | some position => exact .inl ⟨position, rfl, by simp [add, put, known]⟩
  | none => exact .inr ⟨rfl, by simp [add, put, known, size]⟩

theorem names_add (schema : Schema) (definition : Definition) :
    (schema.add definition).types.map Definition.name =
      if definition.name ∈ schema.types.map Definition.name then
        schema.types.map Definition.name
      else schema.types.map Definition.name ++ [definition.name] :=
  names_put schema.located definition

/-- An addition shows under its own name alone. -/
theorem get?_add (schema : Schema) (definition : Definition) (name : String) :
    (schema.add definition).get? name =
      if definition.name = name then some definition else schema.get? name := by
  rcases schema.add_cases definition with ⟨position, known, types, index⟩ | ⟨fresh, types, index⟩
  · have here := (schema.located _ _).mp known
    have inside := (List.getElem?_eq_some_iff.mp here).1
    rw [List.length_map] at inside
    rw [get?, types, index]
    split
    next same => rw [← same, known, Option.bind_some, List.getElem?_set_self inside]
    next apart =>
      refine Option.bind_congr fun place found => List.getElem?_set_ne ?_
      rintro rfl
      have there := (schema.located _ _).mp found
      exact apart (Option.some.inj (here.symm.trans there))
  · rw [get?, types, index, Index.get?_cons]
    split
    next => rw [Option.bind_some, size, List.getElem?_concat_length]
    next =>
      refine Option.bind_congr fun place found => List.getElem?_append_left ?_
      have there := (List.getElem?_eq_some_iff.mp ((schema.located _ _).mp found)).1
      rwa [List.length_map] at there

theorem ofList_concat (definitions : List Definition) (definition : Definition) :
    ofList (definitions ++ [definition]) = (ofList definitions).add definition := by
  rw [ofList, List.foldl_concat, ofList]

theorem names_ofList (definitions : List Definition) :
    (ofList definitions).types.map Definition.name =
      (definitions.map Definition.name).eraseDups := by
  induction definitions using List.reverseRecOn with
  | nil => rfl
  | append_singleton earlier last ih =>
    rw [ofList_concat, names_add, ih, List.map_append, List.map_singleton, eraseDups_concat]
    simp only [List.mem_eraseDups]

theorem size_ofList (definitions : List Definition) :
    (ofList definitions).size = (definitions.map Definition.name).toFinset.card := by
  have members : (definitions.map Definition.name).toFinset =
      ((ofList definitions).types.map Definition.name).toFinset := by
    ext name
    rw [List.mem_toFinset, List.mem_toFinset, names_ofList, List.mem_eraseDups]
  rw [members, List.toFinset_card_of_nodup (ofList definitions).distinct, List.length_map, size]

/-- The definition is added under the name, and no later one is. -/
def LastUnder (definitions : List Definition) (name : String) (definition : Definition) : Prop :=
  ∃ earlier later, definitions = earlier ++ definition :: later ∧ definition.name = name ∧
    ∀ other ∈ later, other.name ≠ name

theorem lastUnder_concat {last : Definition} :
    LastUnder (definitions ++ [last]) name definition ↔
      if last.name = name then last = definition else LastUnder definitions name definition := by
  constructor
  · rintro ⟨earlier, later, split, named, apart⟩
    rcases concat_eq_append_cons_iff.mp split with ⟨_, rfl, _⟩ | ⟨rest, rfl, joined⟩
    · rw [if_pos named]
    · rw [if_neg (apart last (by simp))]
      exact ⟨earlier, rest, joined, named, fun other among => apart other (by simp [among])⟩
  · split
    next same =>
      rintro rfl
      exact ⟨definitions, [], rfl, same, by simp⟩
    next differs =>
      rintro ⟨earlier, later, rfl, named, apart⟩
      refine ⟨earlier, later ++ [last], by simp, named, fun other among => ?_⟩
      rcases List.mem_append.mp among with inside | final
      · exact apart other inside
      · exact List.mem_singleton.mp final ▸ differs

theorem get?_ofList_eq_some_iff :
    (ofList definitions).get? name = some definition ↔ LastUnder definitions name definition := by
  induction definitions using List.reverseRecOn with
  | nil => simp [LastUnder, ofList, get?, empty]
  | append_singleton earlier last ih =>
    rw [ofList_concat, get?_add, lastUnder_concat]
    split
    next => exact Option.some_inj
    next => exact ih

theorem get?_eq_none_iff {schema : Schema} :
    schema.get? name = none ↔ name ∉ schema.types.map Definition.name := by
  rw [Option.eq_none_iff_forall_ne_some, List.mem_map, not_exists]
  exact forall_congr' fun definition => not_congr get?_eq_some_iff

theorem get?_ofList_eq_none_iff :
    (ofList definitions).get? name = none ↔ ∀ definition ∈ definitions, definition.name ≠ name := by
  rw [get?_eq_none_iff, names_ofList, List.mem_eraseDups]
  simp

theorem lookup_eq_ok_iff {schema : Schema} {node : String} :
    schema.lookup node name = .ok definition ↔ schema.get? name = some definition := by
  rw [lookup]
  split
  next found => rw [found, Option.some_inj, Except.ok.injEq]
  next missing => simp [missing]

theorem lookup_eq_error_iff {schema : Schema} {node : String} {fault : Fault} :
    schema.lookup node name = .error fault ↔
      fault = .unknownType node name ∧ schema.get? name = none := by
  rw [lookup]
  split
  next found => simp [found]
  next missing => rw [missing, Except.error.injEq, and_iff_left rfl, eq_comm]

/-- What a schema holds after any additions. -/
theorem additions_kept (definitions : List Definition) :
    (∀ name position, (ofList definitions).index.get? name = some position ↔
      ∃ definition, (ofList definitions).types[position]? = some definition ∧
        definition.name = name) ∧
    ((ofList definitions).types.map Definition.name).Nodup ∧
    (ofList definitions).types.map Definition.name =
      (definitions.map Definition.name).eraseDups ∧
    (ofList definitions).size = (definitions.map Definition.name).toFinset.card ∧
    (∀ name definition, (ofList definitions).get? name = some definition ↔
      LastUnder definitions name definition) ∧
    (∀ name, (ofList definitions).get? name = none ↔
      ∀ definition ∈ definitions, definition.name ≠ name) ∧
    (∀ node name definition, (ofList definitions).lookup node name = .ok definition ↔
      LastUnder definitions name definition) ∧
    ∀ node name fault, (ofList definitions).lookup node name = .error fault ↔
      fault = .unknownType node name ∧ ∀ definition ∈ definitions, definition.name ≠ name := by
  refine ⟨fun name position => ?_, (ofList definitions).distinct, names_ofList definitions,
    size_ofList definitions, fun _ _ => get?_ofList_eq_some_iff, fun _ => get?_ofList_eq_none_iff,
    fun _ _ _ => lookup_eq_ok_iff.trans get?_ofList_eq_some_iff,
    fun _ _ _ => lookup_eq_error_iff.trans (and_congr_right fun _ => get?_ofList_eq_none_iff)⟩
  rw [(ofList definitions).located, List.getElem?_map, Option.map_eq_some_iff]

/-- A name that is added once more keeps its place, whatever the kind of its new type. -/
example : ((ofList [.enum "Color" ["RED"] .empty, .scalar "Url" .empty,
      .scalar "Color" .empty]).types.map fun definition => (definition.name, definition.kind)) =
    [("Color", .scalar), ("Url", .scalar)] := rfl

end Schema

end Typewright
