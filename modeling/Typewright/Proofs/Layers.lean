import Mathlib.Data.List.Destutter
import Typewright.Proofs.Target

/-! References as trees and as flat layers. Layers fold non-null markers that stand directly on one
another into one, and nothing else is lost on the way there and back. -/
namespace Typewright

def Layer.Apart (outer inner : Layer) : Prop := ¬ (outer = .nonNull ∧ inner = .nonNull)

instance : DecidableRel Layer.Apart :=
  fun outer inner => inferInstanceAs (Decidable (¬ (outer = .nonNull ∧ inner = .nonNull)))

/-- The layers with one non-null marker for each run of them. -/
def merged (layers : List Layer) : List Layer := layers.destutter Layer.Apart

def NamedLast (name : String) (layers : List Layer) : Prop :=
  ∃ modifiers, layers = modifiers ++ [.named name] ∧ ∀ layer ∈ modifiers, layer.isModifier = true

namespace TypeRef

/-- One marker in place of each run of directly nested non-null markers. -/
def collapse : TypeRef → TypeRef
  | named name => named name
  | list element => list element.collapse
  | nonNull inner => if inner.isNonNull then inner.collapse else nonNull inner.collapse

/-- Somewhere in the reference a non-null marker stands directly on another one. -/
inductive Repeats : TypeRef → Prop
  | here {inner : TypeRef} : Repeats (nonNull (nonNull inner))
  | list (inside : Repeats element) : Repeats (list element)
  | nonNull {inner : TypeRef} (inside : Repeats inner) : Repeats (nonNull inner)

/-- One layer for each marker, and then the name. -/
def markers : TypeRef → List Layer
  | named name => [.named name]
  | list element => .list :: element.markers
  | nonNull inner => .nonNull :: inner.markers

end TypeRef

section Lists

variable {layer inner : Layer} {layers : List Layer} {name : String}

theorem merged_cons_of_apart (apart : layer.Apart inner) :
    merged (layer :: inner :: layers) = layer :: merged (inner :: layers) := by
  rw [merged, List.destutter_cons', List.destutter'_cons_pos _ apart, merged, List.destutter_cons']

/-- The first of two adjacent markers may go. -/
theorem merged_cons_nonNull :
    merged (.nonNull :: .nonNull :: layers) = merged (.nonNull :: layers) := by
  rw [merged, List.destutter_cons', List.destutter'_cons_neg _ (by decide), merged,
    List.destutter_cons']

theorem namedLast_cons (modifier : layer.isModifier = true) :
    NamedLast name (layer :: layers) ↔ NamedLast name layers := by
  constructor
  · rintro ⟨_ | ⟨first, modifiers⟩, same, each⟩
    · obtain ⟨rfl, rfl⟩ := List.cons.inj same
      contradiction
    · obtain ⟨rfl, rfl⟩ := List.cons.inj same
      exact ⟨modifiers, rfl, fun other among => each other (.tail _ among)⟩
  · rintro ⟨modifiers, rfl, each⟩
    exact ⟨layer :: modifiers, rfl, List.forall_mem_cons.mpr ⟨modifier, each⟩⟩

end Lists

namespace TypeRef

variable {type inner : TypeRef} {layers : List Layer} {name : String}

/-- A reference is rebuilt from its own markers and from no other layers. -/
theorem rewrap_eq_some_iff : rewrap layers = some type ↔ type.markers = layers := by
  induction layers generalizing type with
  | nil => cases type <;> simp [rewrap, markers]
  | cons layer rest ih =>
    cases layer with
    | named name =>
      cases rest with
      | nil => cases type <;> simp [rewrap, markers, eq_comm (a := name)]
      | cons _ _ => cases type <;> simp [rewrap, markers]
    | list => cases type <;> simp [rewrap, markers, ih]
    | nonNull => cases type <;> simp [rewrap, markers, ih]

theorem rewrap_markers (type : TypeRef) : rewrap type.markers = some type :=
  rewrap_eq_some_iff.mpr rfl

/-- The markers begin with a non-null one if the reference does. -/
theorem exists_markers (type : TypeRef) :
    ∃ first rest, type.markers = first :: rest ∧ (first = .nonNull ↔ type.isNonNull = true) := by
  cases type <;> simp [markers, isNonNull]

theorem namedLast_markers (type : TypeRef) : NamedLast type.baseName type.markers := by
  induction type with
  | named name => exact ⟨[], rfl, by simp⟩
  | list element ih => exact (namedLast_cons rfl).mpr ih
  | nonNull inner ih => exact (namedLast_cons rfl).mpr ih

theorem exists_markers_of_namedLast (last : NamedLast name layers) :
    ∃ type : TypeRef, type.markers = layers := by
  obtain ⟨modifiers, rfl, each⟩ := last
  induction modifiers with
  | nil => exact ⟨named name, rfl⟩
  | cons layer modifiers ih =>
    rw [List.forall_mem_cons] at each
    obtain ⟨type, same⟩ := ih each.2
    cases layer with
    | named _ => exact absurd each.1 Bool.false_ne_true
    | list => exact ⟨list type, by simp [markers, same]⟩
    | nonNull => exact ⟨nonNull type, by simp [markers, same]⟩

/-- A marker that stands directly on another one adds no layer. -/
theorem layers_nonNull (inner : TypeRef) :
    (nonNull inner).layers =
      if inner.isNonNull then inner.layers else .nonNull :: inner.layers := by
  cases inner with
  | named _ | list _ => rfl
  | nonNull deeper =>
    rcases layers_nonNull_cases (nonNull deeper) with ⟨rest, found, same⟩ | ⟨apart, _⟩
    · rw [same, found]
      rfl
    · rcases layers_nonNull_cases deeper with ⟨rest, _, same⟩ | ⟨_, same⟩
      all_goals exact absurd (by rw [same]; rfl) apart

/-- Layers are the markers of a reference, merged. -/
theorem layers_eq_merged (type : TypeRef) : type.layers = merged type.markers := by
  induction type with
  | named name => rfl
  | list element ih =>
    obtain ⟨first, rest, same, _⟩ := element.exists_markers
    rw [layers, markers, ih, same, merged_cons_of_apart (by simp [Layer.Apart])]
  | nonNull inner ih =>
    obtain ⟨first, rest, same, outer⟩ := inner.exists_markers
    rw [layers_nonNull, markers, ih, same]
    split
    next repeats =>
      obtain rfl := outer.mpr repeats
      exact merged_cons_nonNull.symm
    next apart =>
      exact (merged_cons_of_apart fun both => apart (outer.mp both.2)).symm

/-- They are also the markers of what collapsing leaves. -/
theorem markers_collapse (type : TypeRef) : type.collapse.markers = type.layers := by
  induction type with
  | named name => rfl
  | list element ih => rw [collapse, markers, layers, ih]
  | nonNull inner ih =>
    rw [collapse, layers_nonNull, ← ih]
    split <;> rfl

theorem markers_injective : Function.Injective markers := fun one two same =>
  Option.some.inj ((rewrap_markers one).symm.trans (same ▸ rewrap_markers two))

/-- No two markers of a reference stand directly on one another if none repeats in it. -/
theorem isChain_markers_iff : type.markers.IsChain Layer.Apart ↔ ¬ type.Repeats := by
  induction type with
  | named name => exact iff_of_true (.singleton _) nofun
  | list element ih =>
    obtain ⟨first, rest, same, _⟩ := element.exists_markers
    have inside : (list element).Repeats ↔ element.Repeats := ⟨fun | .list found => found, .list⟩
    rw [markers, inside, ← ih, same, List.isChain_cons_cons]
    simp [Layer.Apart]
  | nonNull inner ih =>
    obtain ⟨first, rest, same, outer⟩ := inner.exists_markers
    have inside : (nonNull inner).Repeats ↔ inner.isNonNull = true ∨ inner.Repeats := by
      constructor
      · rintro (_ | _ | found)
        · exact .inl rfl
        · exact .inr found
      · rintro (direct | found)
        · cases inner with
          | nonNull deeper => exact .here
          | named _ | list _ => contradiction
        · exact .nonNull found
    rw [markers, inside, not_or, ← ih, ← outer, same, List.isChain_cons_cons]
    simp [Layer.Apart]

theorem isChain_layers (type : TypeRef) : type.layers.IsChain Layer.Apart := by
  rw [layers_eq_merged]
  exact List.isChain_destutter _ _

theorem collapse_eq_self_iff : type.collapse = type ↔ ¬ type.Repeats := by
  rw [← markers_injective.eq_iff, markers_collapse, layers_eq_merged, ← isChain_markers_iff]
  exact List.destutter_eq_self_iff _ _

theorem collapse_collapse (type : TypeRef) : type.collapse.collapse = type.collapse := by
  rw [collapse_eq_self_iff, ← isChain_markers_iff, markers_collapse]
  exact type.isChain_layers

theorem rewrap_layers (type : TypeRef) : rewrap type.layers = some type.collapse :=
  rewrap_eq_some_iff.mpr type.markers_collapse

theorem isSome_rewrap_iff : (rewrap layers).isSome = true ↔ ∃ name, NamedLast name layers := by
  rw [Option.isSome_iff_exists]
  constructor
  · rintro ⟨type, rebuilt⟩
    exact ⟨type.baseName, rewrap_eq_some_iff.mp rebuilt ▸ type.namedLast_markers⟩
  · rintro ⟨name, last⟩
    obtain ⟨type, same⟩ := exists_markers_of_namedLast last
    exact ⟨type, rewrap_eq_some_iff.mpr same⟩

theorem baseName_collapse (type : TypeRef) : type.collapse.baseName = type.baseName := by
  induction type with
  | named _ => rfl
  | list _ ih => exact ih
  | nonNull inner ih =>
    rw [collapse]
    split <;> exact ih

theorem namedLast_layers (type : TypeRef) : NamedLast type.baseName type.layers := by
  rw [← markers_collapse, ← baseName_collapse]
  exact namedLast_markers _

theorem isList_iff : type.isList = true ↔ type.layers.find? (· ≠ .nonNull) = some .list := by
  induction type with
  | named name => simp [isList, layers]
  | list element => simp [isList, layers]
  | nonNull inner ih =>
    rw [isList, ih, layers_nonNull]
    split
    · rfl
    · simp

end TypeRef

/-- Flattening and rebuilding are inverse up to runs of non-null markers. The layers of a reference
end in its name, hold no other name and no two adjacent non-null markers, and rebuild the reference
with its runs collapsed, which is the reference itself if it has none. Layers rebuild a reference
just if a name comes last and nowhere else, and its layers are then these, merged. -/
theorem rewrap_inverse :
    (∀ type : TypeRef,
      NamedLast type.baseName type.layers ∧
      type.layers.IsChain Layer.Apart ∧
      rewrap type.layers = some type.collapse ∧
      (rewrap type.layers = some type ↔ ¬ type.Repeats) ∧
      (rewrap type.layers).bind (fun once => rewrap once.layers) = rewrap type.layers ∧
      (type.isList = true ↔ type.layers.find? (· ≠ .nonNull) = some .list)) ∧
    ∀ layers : List Layer,
      ((rewrap layers).isSome = true ↔ ∃ name, NamedLast name layers) ∧
      ∀ type ∈ rewrap layers, type.layers = merged layers := by
  constructor
  · intro type
    refine ⟨type.namedLast_layers, type.isChain_layers, type.rewrap_layers, ?_, ?_,
      TypeRef.isList_iff⟩
    · rw [type.rewrap_layers, Option.some.injEq, TypeRef.collapse_eq_self_iff]
    · rw [type.rewrap_layers, Option.bind_some, TypeRef.rewrap_layers, TypeRef.collapse_collapse]
  · intro layers
    refine ⟨TypeRef.isSome_rewrap_iff, fun type rebuilt => ?_⟩
    rw [type.layers_eq_merged, TypeRef.rewrap_eq_some_iff.mp rebuilt]

/-- Of two adjacent markers one is left. -/
theorem rewrap_inverse_marked :
    TypeRef.nonNull (.nonNull (.list (.named "ID"))) ∈
      rewrap [.nonNull, .nonNull, .list, .named "ID"] ∧
    (TypeRef.nonNull (.nonNull (.list (.named "ID")))).layers =
      merged [.nonNull, .nonNull, .list, .named "ID"] :=
  ⟨rfl, (rewrap_inverse.2 _).2 _ rfl⟩

example : merged [.nonNull, .nonNull, .list, .named "ID"] = [.nonNull, .list, .named "ID"] := by
  decide

end Typewright
