import Typewright.Proofs.Erasure

/-! Parse functions against the plain evaluation of an object by the same fields. A parse function
refuses unknown keys before it converts anything; the plain evaluation does not look at them. On all
other objects they agree, faults included. -/
namespace Typewright

namespace Dict

theorem get?_filter {entries : Dict α} (kept : String → Bool) {key : String}
    (keeps : kept key = true) :
    get? (entries.filter fun entry => kept entry.1) key = get? entries key := by
  induction entries with
  | nil => rfl
  | cons entry rest ih =>
    by_cases same : key = entry.1
    · rw [List.filter_cons_of_pos (same ▸ keeps), get?, get?, if_pos same, if_pos same]
    · rw [get?, if_neg same, ← ih, List.filter_cons]
      split
      · rw [get?, if_neg same]
      · rfl

end Dict

theorem Recipe.exists_unknownKey? {recipe : Recipe} {keys : List String}
    (foreign : ∃ key ∈ keys, key ∉ recipe.fields.map FieldCoercion.key) :
    ∃ key, recipe.unknownKey? keys = some key := by
  obtain ⟨key, listed, foreign⟩ := foreign
  refine Option.ne_none_iff_exists'.mp fun none => ?_
  have known := List.filter_eq_nil_iff.mp (leastOf_eq_none.mp none) key listed
  simp only [Bool.not_eq_true, Bool.not_eq_false', List.any_eq_true, beq_iff_eq] at known
  obtain ⟨field, among, same⟩ := known
  exact foreign (List.mem_map.mpr ⟨field, among, same⟩)

namespace Registry

variable {registry : Registry}

/-- A field is read from the entry under its key alone. -/
theorem evaluateObject_restrict (fields : List FieldCoercion) (entries : Dict Value) :
    registry.evaluateObject fields
        (entries.filter fun entry => entry.1 ∈ fields.map FieldCoercion.key) =
      registry.evaluateObject fields entries := by
  rw [evaluateObject, evaluateObject]
  refine mapM_congr fun field among => ?_
  rw [evaluateField, evaluateField, Dict.get?_filter fun key => key ∈ fields.map FieldCoercion.key]
  exact decide_eq_true (List.mem_map_of_mem among)

/-- Of an object without unknown keys a parse function builds what evaluation by its fields yields,
and fails as it does. Of any other object it refuses the least unknown key, whatever else there is,
while evaluation leaves out the unknown keys. -/
theorem build_evaluateObject {builder : QualifiedName} {recipe : Recipe}
    (found : registry.find? builder = some recipe) (entries : Dict Value) :
    ((∀ key ∈ Dict.keys entries, key ∈ recipe.fields.map FieldCoercion.key) →
      registry.build builder (.object entries) =
        (registry.evaluateObject recipe.fields entries).map (.record recipe.record)) ∧
    ((∃ key ∈ Dict.keys entries, key ∉ recipe.fields.map FieldCoercion.key) →
      ∃ least ∈ Dict.keys entries, least ∉ recipe.fields.map FieldCoercion.key ∧
        (∀ other ∈ Dict.keys entries, other ∉ recipe.fields.map FieldCoercion.key →
          ¬ other < least) ∧
        registry.build builder (.object entries) = .error (.malformedInput s!"$.{least}"
          s!"a field of `{recipe.record.display}`" "unknown field")) ∧
    registry.evaluateObject recipe.fields entries =
      registry.evaluateObject recipe.fields
        (entries.filter fun entry => entry.1 ∈ recipe.fields.map FieldCoercion.key) := by
  have foreign_iff (key : String) : key ∉ recipe.fields.map FieldCoercion.key ↔
      ∀ field ∈ recipe.fields, field.key ≠ key := by
    simp [List.mem_map]
  refine ⟨fun known => ?_, fun foreign => ?_, (evaluateObject_restrict _ _).symm⟩
  · rw [build, buildAt_object found, Recipe.unknownKey?_eq_none known, evaluateObject]
  · obtain ⟨least, unknown⟩ := Recipe.exists_unknownKey? foreign
    obtain ⟨listed, apart, first⟩ := Recipe.unknownKey?_eq_some unknown
    refine ⟨least, listed, (foreign_iff least).mpr apart, ?_, ?_⟩
    · intro other among another
      exact first other among ((foreign_iff other).mp another)
    · rw [build, buildAt_object found, unknown]
      rfl

/-- With keys of its own alone a tree is built as it is evaluated. Of two other keys the lesser one is
shown, though a color is no list. -/
theorem build_evaluateObject_tree :
    let registry : Registry := ⟨[treeParser]⟩
    registry.build treeParser.1 (.object [("label", .string "root")]) =
      .ok (.record treeParser.2.record
        [("colors", .null), ("label", .present (.scalar (.string "root"))), ("child", .absent)]) ∧
    registry.build treeParser.1
        (.object [("size", .int 1), ("colors", .int 3), ("age", .int 2)]) =
      .error (.malformedInput "$.age" "a field of `generated.inputs.Tree`" "unknown field") ∧
    registry.evaluateObject treeParser.2.fields
        [("size", .int 1), ("colors", .list []), ("age", .int 2)] =
      registry.evaluateObject treeParser.2.fields [("colors", .list [])] := by
  intro registry
  have agree := @build_evaluateObject registry treeParser.1 treeParser.2 rfl
  refine ⟨((agree _).1 (by decide)).trans rfl, ?_, (agree _).2.2⟩
  obtain ⟨least, listed, apart, first, refused⟩ :=
    (agree [("size", .int 1), ("colors", .int 3), ("age", .int 2)]).2.1 ⟨"age", by decide⟩
  have same : least = "age" := by
    have before := first "age" (by decide) (by decide)
    simp only [Dict.keys, List.map_cons, List.map_nil, List.mem_cons, List.not_mem_nil,
      or_false] at listed
    rcases listed with rfl | rfl | rfl
    · exact absurd (by decide) before
    · exact absurd (by decide) apart
    · rfl
  rw [refused, same]
  rfl

end Registry

end Typewright
