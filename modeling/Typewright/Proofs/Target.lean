import Typewright.Proofs.DraftOutcomes
import Typewright.Target.Resolve

/-! Resolved types, marker by marker. Resolution walks over flat layers with a pending non-null
marker; the target of a reference is read off its tree instead, and both agree. -/
namespace Typewright

def Wrapped.demanded (type : Wrapped β) : Wrapped β :=
  match type.wrapping with
  | [] => { type with nullable := false }
  | outer :: inner => { type with wrapping := { outer with nullable := false } :: inner }

@[simp] theorem Wrapped.demanded_demanded (type : Wrapped β) :
    type.demanded.demanded = type.demanded := by
  obtain ⟨base, nullable, _ | ⟨outer, inner⟩⟩ := type <;> rfl

@[simp] theorem Wrapped.isBoxed_demanded (type : Wrapped β) :
    type.demanded.isBoxed = type.isBoxed := by
  obtain ⟨base, nullable, _ | ⟨⟨_ | _, _⟩, inner⟩⟩ := type <;> rfl

@[simp] theorem Wrapped.element?_demanded (type : Wrapped β) :
    type.demanded.element? = type.element? := by
  obtain ⟨base, nullable, _ | ⟨⟨_ | _, _⟩, inner⟩⟩ := type <;> rfl

namespace TypeRef

/-- The target of a reference whose name has the given base. -/
def target (base : Base) : TypeRef → TargetType
  | named _ => .optional base
  | list element => (element.target base).listOf true
  | nonNull inner => (inner.target base).demanded

@[simp] theorem base_target (base : Base) (type : TypeRef) : (type.target base).base = base := by
  induction type with
  | named _ => rfl
  | list _ ih => exact ih
  | nonNull inner ih =>
    rw [target, Wrapped.demanded]
    split <;> exact ih

/-- Markers make lists only. -/
@[simp] theorem isBoxed_target (base : Base) (type : TypeRef) :
    (type.target base).isBoxed = false := by
  induction type with
  | named _ => rfl
  | list _ => rfl
  | nonNull inner ih => rw [target, Wrapped.isBoxed_demanded, ih]

/-- A non-null marker adds a layer unless one stands right under it. -/
theorem layers_nonNull_cases (inner : TypeRef) :
    (∃ rest, inner.layers = .nonNull :: rest ∧ (nonNull inner).layers = .nonNull :: rest) ∨
    (inner.layers.head? ≠ some .nonNull ∧ (nonNull inner).layers = .nonNull :: inner.layers) := by
  rw [layers]
  split
  next rest found => exact .inl ⟨rest, found, rfl⟩
  next apart =>
    refine .inr ⟨?_, rfl⟩
    cases found : inner.layers with
    | nil => simp
    | cons layer rest =>
      rintro head
      obtain rfl : layer = .nonNull := by simpa using head
      exact apart rest found

theorem exists_of_layers_nonNull {type : TypeRef} {rest : List Layer}
    (found : type.layers = .nonNull :: rest) : ∃ inner, type = .nonNull inner := by
  cases type with
  | named _ | list _ => simp [layers] at found
  | nonNull inner => exact ⟨inner, rfl⟩

theorem getLast?_layers (type : TypeRef) : type.layers.getLast? = some (.named type.baseName) := by
  induction type with
  | named _ => rfl
  | list element ih => simp [layers, baseName, List.getLast?_cons, ih]
  | nonNull inner ih =>
    rcases layers_nonNull_cases inner with ⟨rest, found, same⟩ | ⟨_, same⟩
    · rw [same, ← found, ih, baseName]
    · simp [same, baseName, List.getLast?_cons, ih]

theorem splitLayers_layers (type : TypeRef) :
    splitLayers type.layers = some (type.layers.dropLast, type.baseName) := by
  rw [splitLayers, getLast?_layers]

end TypeRef

theorem nesting_append_named (pending : Bool) (modifiers : List Layer) (name : String) :
    nesting pending (modifiers ++ [.named name]) = nesting pending modifiers := by
  induction modifiers generalizing pending with
  | nil => rfl
  | cons layer rest ih => cases layer <;> simp [nesting, ih]

/-- A pending marker closes the outermost position. -/
theorem nesting_layers (base : Base) (type : TypeRef) (pending : Bool) :
    (⟨base, (nesting pending type.layers).2, (nesting pending type.layers).1⟩ : TargetType) =
      if pending then (type.target base).demanded else type.target base := by
  induction type generalizing pending with
  | named name => cases pending <;> rfl
  | list element ih =>
    have inside := ih false
    simp only [Bool.false_eq_true, if_false] at inside
    rw [TypeRef.target, ← inside]
    cases pending <;> rfl
  | nonNull inner ih =>
    have closed : (⟨base, (nesting true inner.layers).2, (nesting true inner.layers).1⟩ :
        TargetType) = (inner.target base).demanded := by simpa using ih true
    have same : nesting pending (TypeRef.nonNull inner).layers = nesting true inner.layers := by
      rcases TypeRef.layers_nonNull_cases inner with ⟨rest, found, same⟩ | ⟨_, same⟩
      · rw [same, found, nesting, nesting]
      · rw [same, nesting]
    rw [same, closed, TypeRef.target]
    cases pending <;> simp

namespace Job

variable {job : Job} {granted : Set Key} {node : String} {policy : Option Policy}

/-- Resolution comes to the base of the name and builds the target of the reference around it. -/
theorem resolve_eq {type : TypeRef} : job.resolve node type policy =
    (fun base => boxFor policy (type.target base)) <$> job.baseUnder node type.baseName policy := by
  have layers : type.layers = type.layers.dropLast ++ [.named type.baseName] := by
    rw [List.dropLast_append_getLast?]
    exact type.getLast?_layers
  have nested (base : Base) := nesting_layers base type false
  simp only [Bool.false_eq_true, if_false] at nested
  rw [layers, nesting_append_named] at nested
  simp only [resolve, TypeRef.splitLayers_layers, map_eq_pure_bind]
  exact bind_congr fun base => by rw [← nested]

theorem yields_resolve {type : TypeRef} {target : TargetType} :
    (job.resolve node type policy).Yields granted target ↔
      ∃ base, (job.baseUnder node type.baseName policy).Yields granted base ∧
        target = boxFor policy (type.target base) := by
  rw [resolve_eq, Draft.yields_map]

end Job

end Typewright
