import Typewright.Proofs.Presence

/-! Taking non-null markers off a type reference. The looser reference takes all that the stricter
one takes, and yields the same for it; what it takes besides has null where a marker was. -/
namespace Typewright

namespace TypeRef

/-- The second reference is the first with some of its markers taken off, at any depth. -/
inductive Relaxes : TypeRef → TypeRef → Prop
  | named : Relaxes (.named name) (.named name)
  | list (inside : Relaxes strict relaxed) : Relaxes (.list strict) (.list relaxed)
  | nonNull (inside : Relaxes strict relaxed) : Relaxes (.nonNull strict) (.nonNull relaxed)
  | drop (inside : Relaxes strict relaxed) : Relaxes (.nonNull strict) relaxed

/-- No position with a marker holds null. -/
def KeptBy : TypeRef → Coerced → Prop
  | named _, _ => True
  | list element, .list items => ∀ item ∈ items, element.KeptBy item
  | list _, _ => True
  | nonNull inner, out => out ≠ .null ∧ inner.KeptBy out

variable {type strict relaxed : TypeRef} {rule : String → BaseRule} {registry : Registry}
  {path : String} {value : Value} {out : Coerced}

/-- Null is all that null is converted to, and comes of nothing else. -/
theorem convert_eq_null_iff (converted : type.convert rule registry path value = .ok out) :
    out = .null ↔ value.isNull = true := by
  constructor
  · intro null
    by_contra present
    exact convert_ne_null (Bool.eq_false_iff.mpr present) converted null
  · intro null
    obtain rfl := Value.isNull_iff.mp null
    cases type with
    | named _ | list _ => exact (Except.ok.inj converted).symm
    | nonNull _ => contradiction

/-- A marker takes away the runs that yield null, and no others. -/
theorem convert_nonNull_iff :
    (nonNull type).convert rule registry path value = .ok out ↔
      type.convert rule registry path value = .ok out ∧ out ≠ .null := by
  rw [convert]
  by_cases null : value.isNull
  · rw [if_pos null]
    constructor
    · intro failed
      contradiction
    · rintro ⟨converted, apart⟩
      exact absurd ((convert_eq_null_iff converted).mpr null) apart
  · rw [if_neg null]
    constructor
    · intro converted
      exact ⟨converted, fun same => null ((convert_eq_null_iff converted).mp same)⟩
    · exact And.left

theorem convert_list_iff {items : List Value} :
    (list type).convert rule registry path (.list items) = .ok out ↔
      ∃ outs, out = .list outs ∧ List.Forall₂ (fun (entry : Value × Nat) out =>
        type.convert rule registry s!"{path}[{entry.2}]" entry.1 = .ok out) items.zipIdx outs := by
  rw [convert, map_eq_ok_iff]
  refine exists_congr fun outs => ?_
  rw [mapM_eq_ok_iff, and_comm, eq_comm]

/-- What is not a list is converted alike, whatever the elements are. -/
theorem convert_list_of_not_list (apart : ∀ items, value ≠ .list items) :
    (list strict).convert rule registry path value =
      (list relaxed).convert rule registry path value := by
  cases value with
  | list items => exact absurd rfl (apart items)
  | null | bool _ | int _ | float _ | string _ | enum _ | object _ => rfl

/-- What is yielded for something else than a list is no list. -/
theorem keptBy_of_not_list (apart : ∀ items, value ≠ .list items)
    (converted : (list type).convert rule registry path value = .ok out) :
    (list strict).KeptBy out := by
  cases value with
  | list items => exact absurd rfl (apart items)
  | null =>
    obtain rfl := Except.ok.inj converted
    trivial
  | bool _ | int _ | float _ | string _ | enum _ | object _ => contradiction

theorem convert_relaxed (relaxes : strict.Relaxes relaxed) :
    strict.convert rule registry path value = .ok out ↔
      relaxed.convert rule registry path value = .ok out ∧ strict.KeptBy out := by
  induction relaxes generalizing path value out with
  | named => simp [KeptBy]
  | @list strict relaxed _ ih =>
    by_cases list : ∃ items, value = .list items
    · obtain ⟨items, rfl⟩ := list
      rw [convert_list_iff, convert_list_iff]
      constructor
      · rintro ⟨outs, rfl, each⟩
        refine ⟨⟨outs, rfl, each.imp fun _ _ made => (ih.mp made).1⟩, fun item listed => ?_⟩
        obtain ⟨entry, _, made⟩ := each.exists_of_mem_right listed
        exact (ih.mp made).2
      · rintro ⟨⟨outs, rfl, each⟩, kept⟩
        have both := ((List.forall₂_and_left _ _).mpr ⟨kept, each.flip⟩).flip
        exact ⟨outs, rfl, both.imp fun _ _ made => ih.mpr ⟨made.2, made.1⟩⟩
    · have apart := not_exists.mp list
      rw [convert_list_of_not_list apart]
      exact ⟨fun converted => ⟨converted, keptBy_of_not_list apart converted⟩, And.left⟩
  | nonNull _ ih =>
    rw [convert_nonNull_iff, convert_nonNull_iff, ih, KeptBy]
    tauto
  | drop _ ih =>
    rw [convert_nonNull_iff, ih, KeptBy]
    tauto

end TypeRef

namespace Job

variable {job : Job} {granted : Set Key} {node : String} {policy : Option Policy}

/-- Without a double null policy a chain takes a missing key for null, and converts as its reference
does. -/
theorem evaluateAt_single {type : TypeRef} {chain : Chain}
    (single : policy.any (·.doubleNull) = false)
    (made : (job.synthesize node type policy).Yields granted chain)
    (registry : Registry) (path : String) (input : Option Value) :
    registry.evaluateAt chain path input =
      type.convert (job.baseRule policy) registry path (input.getD .null) := by
  have plain : chain.presence = .plain := by simp [presence_synthesize made, single]
  rw [Registry.evaluateAt_plain plain, synthesize_convert made]

/-- The chain of a reference yields a value just where the chain of a looser one yields it and the
value keeps to the markers of the reference. -/
theorem evaluate_relaxed {strict relaxed : TypeRef} {ledger other : Ledger} {chain looser : Chain}
    (single : policy.any (·.doubleNull) = false) (relaxes : strict.Relaxes relaxed)
    (synthesized :
      ((job.synthesize node strict policy).settle job.settings ledger).1 = .ok chain)
    (loosened :
      ((job.synthesize node relaxed policy).settle job.settings other).1 = .ok looser)
    (registry : Registry) (input : Option Value) (out : Coerced) :
    registry.evaluate chain input = .ok out ↔
      registry.evaluate looser input = .ok out ∧ strict.KeptBy out := by
  have strictly := evaluateAt_single single (Draft.yields_of_settle synthesized) registry "$" input
  have loosely := evaluateAt_single single (Draft.yields_of_settle loosened) registry "$" input
  rw [Registry.evaluate, Registry.evaluate, strictly, loosely]
  exact TypeRef.convert_relaxed relaxes

def looseChain : Chain where
  steps := [.parseEnum "Color" (.generated ⟨"generated.enums", "Color"⟩) ["RED", "BLUE"] true,
    .mapList true true]
  presence := .plain
  target := ⟨.generated ⟨"generated.enums", "Color"⟩, true, [⟨.list, true⟩]⟩

/-- A null among the colors goes through the looser chain alone. -/
theorem evaluate_relaxed_palette :
    ((palette.synthesize "Query.paint" paletteType none).settle palette.settings {}).1 =
      .ok paletteChain ∧
    ((palette.synthesize "Query.paint" (.list (.named "Color")) none).settle
      palette.settings {}).1 = .ok looseChain ∧
    paletteType.Relaxes (.list (.named "Color")) ∧
    (⟨[]⟩ : Registry).evaluate paletteChain (some (.list [.string "RED"])) =
      .ok (.list [.enum "Color" "RED"]) ∧
    (⟨[]⟩ : Registry).evaluate looseChain (some (.list [.string "RED", .null])) =
      .ok (.list [.enum "Color" "RED", .null]) ∧
    (⟨[]⟩ : Registry).evaluate paletteChain (some (.list [.string "RED", .null])) ≠
      .ok (.list [.enum "Color" "RED", .null]) := by
  have made : ((palette.synthesize "Query.paint" paletteType none).settle palette.settings {}).1 =
      .ok paletteChain := by decide +kernel
  have loosened : ((palette.synthesize "Query.paint" (.list (.named "Color")) none).settle
      palette.settings {}).1 = .ok looseChain := by decide +kernel
  have relaxes : paletteType.Relaxes (.list (.named "Color")) :=
    .drop (.drop (.list (.drop .named)))
  have relaxed := evaluate_relaxed rfl relaxes made loosened ⟨[]⟩
  refine ⟨made, loosened, relaxes, (relaxed _ _).mpr ⟨rfl, ?_⟩, rfl, fun converted => ?_⟩
  · simp [paletteType, TypeRef.KeptBy]
  · simpa [paletteType, TypeRef.KeptBy] using ((relaxed _ _).mp converted).2

end Job

end Typewright
