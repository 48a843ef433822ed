import Typewright.Fault

/-! A schema: definitions in the order in which their names were first added, and an index of the
positions at which they stand. -/
namespace Typewright

namespace Schema

/-- Names and their positions. The latest entry of a name counts. -/
abbrev Index := List (String × Nat)

namespace Index

def get? (index : Index) (name : String) : Option Nat :=
  (index.find? (·.1 = name)).map Prod.snd

@[simp] theorem get?_nil (name : String) : get? [] name = none := rfl

@[simp] theorem get?_cons (other : String) (position : Nat) (index : Index) (name : String) :
    get? ((other, position) :: index) name =
      if other = name then some position else index.get? name := by
  by_cases same : other = name <;> simp [get?, same]

def Locates (index : Index) (names : List String) : Prop :=
  ∀ name position, index.get? name = some position ↔ names[position]? = some name

variable {index : Index} {names : List String} {name : String}

theorem Locates.get?_eq_none_iff (located : index.Locates names) :
    index.get? name = none ↔ name ∉ names := by
  rw [List.mem_iff_getElem?, Option.eq_none_iff_forall_ne_some, not_exists]
  exact forall_congr' fun position => not_congr (located name position)

theorem Locates.concat (located : index.Locates names) (fresh : name ∉ names) :
    Locates ((name, names.length) :: index) (names ++ [name]) := by
  intro other position
  rw [get?_cons]
  split
  next same =>
    subst same
    constructor
    · intro last
      rw [← Option.some.inj last, List.getElem?_concat_length]
    · intro here
      have within := (List.getElem?_eq_some_iff.mp here).1
      have late : ¬ position < names.length := fun early =>
        fresh (List.mem_of_getElem? (List.getElem?_append_left early ▸ here))
      rw [List.length_append, List.length_singleton] at within
      congr 1
      omega
  next apart =>
    rw [located other position, List.getElem?_append]
    split
    next => exact .rfl
    next beyond =>
      rw [List.getElem?_eq_none (Nat.le_of_not_lt beyond), List.getElem?_singleton]
      simp [apart]

theorem locates_zipIdx (distinct : names.Nodup) : Locates names.zipIdx names := by
  intro name position
  constructor
  · intro found
    obtain ⟨entry, first, rfl⟩ := Option.map_eq_some_iff.mp found
    have listed := List.mem_zipIdx_iff_getElem?.mp (List.mem_of_find?_eq_some first)
    simpa [show entry.1 = name by simpa using List.find?_some first] using listed
  · intro here
    have known : (names.zipIdx.find? (·.1 = name)).isSome :=
      List.find?_isSome.mpr ⟨(name, position), List.mk_mem_zipIdx_iff_getElem?.mpr here, by simp⟩
    obtain ⟨entry, first⟩ := Option.isSome_iff_exists.mp known
    have listed := List.mem_zipIdx_iff_getElem?.mp (List.mem_of_find?_eq_some first)
    have same : entry.1 = name := by simpa using List.find?_some first
    have inside : entry.2 < names.length := (List.getElem?_eq_some_iff.mp listed).1
    rw [get?, first, Option.map_some, Option.some_inj]
    exact (List.getElem?_inj inside distinct).mp (by rw [listed, here, same])

end Index

end Schema

structure Schema where
  types : List Definition
  distinct : (types.map Definition.name).Nodup
  index : Schema.Index
  located : index.Locates (types.map Definition.name)

namespace Schema

def empty : Schema := ⟨[], .nil, [], by simp [Index.Locates]⟩

/-- Takes the place of the definition of its name. A new name gets the last place and is entered into
the index. -/
def put (definition : Definition) (types : List Definition) (index : Index) :
    List Definition × Index :=
  match index.get? definition.name with
  | some position => (types.set position definition, index)
  | none => (types ++ [definition], (definition.name, types.length) :: index)

section Put

variable {types : List Definition} {index : Index}

/-- A name that is there keeps its place, a new one comes last. -/
theorem names_put (located : index.Locates (types.map Definition.name)) (definition : Definition) :
    (put definition types index).1.map Definition.name =
      if definition.name ∈ types.map Definition.name then types.map Definition.name
      else types.map Definition.name ++ [definition.name] := by
  rw [put]
  split
  next position found =>
    have here := (located _ _).mp found
    obtain ⟨inside, same⟩ := List.getElem?_eq_some_iff.mp here
    rw [if_pos (List.mem_of_getElem? here), List.map_set, ← same, List.set_getElem_self]
  next fresh =>
    rw [if_neg (located.get?_eq_none_iff.mp fresh), List.map_append, List.map_singleton]

theorem put_distinct (located : index.Locates (types.map Definition.name))
    (distinct : (types.map Definition.name).Nodup) (definition : Definition) :
    ((put definition types index).1.map Definition.name).Nodup := by
  rw [names_put located]
  split
  next => exact distinct
  next fresh =>
    rw [List.nodup_append]
    refine ⟨distinct, by simp, ?_⟩
    intro name member other last same
    rw [List.mem_singleton] at last
    exact fresh (last ▸ same ▸ member)

/-- The index still knows where every name stands: a replacement moves none, and a new name is
entered with the place that it gets. -/
theorem put_located (located : index.Locates (types.map Definition.name)) (definition : Definition) :
    (put definition types index).2.Locates
      ((put definition types index).1.map Definition.name) := by
  rw [names_put located, put]
  split
  next position found =>
    rw [if_pos (List.mem_of_getElem? ((located _ _).mp found))]
    exact located
  next missing =>
    have fresh := located.get?_eq_none_iff.mp missing
    rw [if_neg fresh, ← List.length_map Definition.name]
    exact located.concat fresh

end Put

def add (schema : Schema) (definition : Definition) : Schema where
  types := (put definition schema.types schema.index).1
  distinct := put_distinct schema.located schema.distinct definition
  index := (put definition schema.types schema.index).2
  located := put_located schema.located definition

def ofList (definitions : List Definition) : Schema := definitions.foldl add empty

def get? (schema : Schema) (name : String) : Option Definition :=
  (schema.index.get? name).bind (schema.types[·]?)

theorem get?_eq_some_iff {schema : Schema} {name : String} {definition : Definition} :
    schema.get? name = some definition ↔ definition ∈ schema.types ∧ definition.name = name := by
  simp only [get?, Option.bind_eq_some_iff, schema.located name, List.getElem?_map,
    Option.map_eq_some_iff]
  constructor
  · rintro ⟨position, ⟨_, here, named⟩, found⟩
    obtain rfl := Option.some.inj (here.symm.trans found)
    exact ⟨List.mem_of_getElem? found, named⟩
  · rintro ⟨member, named⟩
    obtain ⟨position, here⟩ := List.mem_iff_getElem?.mp member
    exact ⟨position, ⟨definition, here, named⟩, here⟩

theorem eq_of_name {schema : Schema} {definition other : Definition}
    (member : definition ∈ schema.types) (also : other ∈ schema.types)
    (same : definition.name = other.name) : definition = other := by
  have first := get?_eq_some_iff.mpr ⟨member, same⟩
  have second := get?_eq_some_iff.mpr ⟨also, rfl⟩
  exact Option.some.inj (first.symm.trans second)

def lookup (schema : Schema) (node name : String) : Except Fault Definition :=
  match schema.get? name with
  | some definition => .ok definition
  | none => .error (.unknownType node name)

def size (schema : Schema) : Nat := schema.types.length

def isEmpty (schema : Schema) : Bool := schema.types.isEmpty

end Schema

end Typewright
