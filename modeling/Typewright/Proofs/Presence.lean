import Typewright.Proofs.Erasure
import Typewright.Proofs.MarkerResolution
import Typewright.Proofs.Soundness

/-! Absent keys, nulls and values that are there come out of a chain as three different things where
it is boxed, and as two where it is plain. -/
namespace Typewright

namespace Coerced

mutual

/-- Neither absent nor a box, and nothing inside is so either, but for the fields of records. -/
inductive Bare : Coerced → Prop
  | null : Bare .null
  | scalar : Bare (.scalar value)
  | enum : Bare (.enum enumName variant)
  | list (each : ∀ item ∈ items, Bare item) : Bare (.list items)
  | record (each : ∀ field ∈ fields, Placed field.2) : Bare (.record name fields)

/-- What may be the whole of a result, or stand under a field of a record. -/
inductive Placed : Coerced → Prop
  | absent : Placed .absent
  | present (inside : Bare value) : Placed (.present value)
  | bare (inside : Bare value) : Placed value

end

theorem Bare.ne_absent {value : Coerced} (bare : value.Bare) : value ≠ .absent := by
  rintro rfl
  cases bare

theorem Bare.ne_present {value : Coerced} (bare : value.Bare) (inner : Coerced) :
    value ≠ .present inner := by
  rintro rfl
  cases bare

end Coerced

namespace Registry

variable {registry : Registry} {path : String} {value : Value} {out : Coerced}

def Bares (registry : Registry) (value : Value) : Prop :=
  ∀ steps path out, registry.convert value path steps = .ok out → out.Bare

theorem bare_of_convert (registry : Registry) (value : Value) : registry.Bares value := by
  intro steps path out converted
  refine convert_induction (motive := fun _ out => out.Bare) .null (fun _ => .scalar)
    (fun _ _ _ _ => .enum) (fun items outs each => .list fun out listed => ?_)
    (fun entries name fields each => .record fun field listed => ?_) converted
  · obtain ⟨_, _, bare⟩ := each out listed
    exact bare
  · rcases each field listed with absent | ⟨_, inside, bare, held | held⟩
    · exact absent ▸ .absent
    · exact held ▸ .bare bare
    · exact held ▸ .present bare

/-- A box, or the mark of an absent key, goes around what the steps of a chain yield and nowhere
else. -/
theorem evaluateAt_placed {chain : Chain} {input : Option Value}
    (bares : registry.Bares (input.getD .null))
    (evaluated : registry.evaluateAt chain path input = .ok out) : out.Placed := by
  rcases evaluateAt_ok evaluated with rfl | ⟨inside, converted, rfl | rfl⟩
  · exact .absent
  · exact .bare (bares _ _ _ converted)
  · exact .present (bares _ _ _ converted)

/-- Null comes out of steps only where null went in. -/
theorem convert_ne_null {steps : List Step} (there : value.isNull = false)
    (converted : registry.convert value path steps = .ok out) : out ≠ .null := by
  rintro rfl
  exact nomatch isNull_erase there converted

end Registry

theorem TypeRef.convert_null {type : TypeRef} {base : Base} {rule : String → BaseRule}
    {registry : Registry} {path : String} (nullable : (type.target base).isNullable = true) :
    type.convert rule registry path .null = .ok .null := by
  cases type with
  | named _ | list _ => rfl
  | nonNull inner =>
    rw [target, Wrapped.demanded] at nullable
    split at nullable <;> simp_all [Wrapped.isNullable]

namespace Job

variable {job : Job} {granted : Set Key} {node : String} {policy : Option Policy} {type : TypeRef}

/-- Without the double null policy the same steps are synthesized, and no box. -/
theorem synthesize_single (context : Policy) :
    job.synthesize node type (some { context with doubleNull := false }) =
      (fun chain => (⟨chain.steps, .plain, chain.target.unboxed⟩ : Chain)) <$>
        job.synthesize node type (some { context with doubleNull := true }) := by
  simp only [synthesize, resolve_eq, bind_map_left, map_bind, map_pure]
  refine bind_congr fun base => bind_congr fun steps => ?_
  have unboxed := TypeRef.isBoxed_target base type
  rw [boxFor_double, boxFor_single rfl, unboxed, Wrapped.unboxed_presented unboxed]
  rfl

@[simp] theorem isNullable_boxFor (target : TargetType) :
    (boxFor policy target).isNullable = target.isNullable := by
  rw [boxFor]
  split
  next boxed => exact (Bool.and_eq_true_iff.mp boxed).2.symm
  next => rfl

/-- A chain is boxed just where a double null policy meets a type that takes null. -/
theorem presence_synthesize {chain : Chain}
    (made : (job.synthesize node type policy).Yields granted chain) :
    chain.presence =
      if policy.any (·.doubleNull) && chain.target.isNullable then .boxed else .plain := by
  obtain ⟨target, resolved, steps, _, rfl⟩ := yields_synthesize.mp made
  obtain ⟨base, _, rfl⟩ := yields_resolve.mp resolved
  rw [isNullable_boxFor, isBoxed_boxFor (TypeRef.isBoxed_target base type)]

theorem convert_null_of_isNullable {chain : Chain} {registry : Registry} {path : String}
    (made : (job.synthesize node type policy).Yields granted chain)
    (nullable : chain.target.isNullable = true) :
    registry.convert .null path chain.steps.reverse = .ok .null := by
  rw [synthesize_convert made registry path .null]
  obtain ⟨target, resolved, steps, _, rfl⟩ := yields_synthesize.mp made
  obtain ⟨base, _, rfl⟩ := yields_resolve.mp resolved
  exact TypeRef.convert_null (by simpa using nullable)

/-- A boxed chain takes an absent key for absent and null for a box around null, and puts a box
around whatever the chain without the double null policy makes of other values, which is neither
null nor absent nor a box. A plain chain takes an absent key for null, and yields null for nothing
else. Absent is a whole result or stands under a field of a record. -/
theorem evaluate_presence {ledger : Ledger} {chain : Chain}
    (synthesized : ((job.synthesize node type policy).settle job.settings ledger).1 = .ok chain)
    (registry : Registry) :
    (∀ context, policy = some context → context.doubleNull = true →
      chain.target.isNullable = true →
      registry.evaluate chain none = .ok .absent ∧
      registry.evaluate chain (some .null) = .ok (.present .null) ∧
      ∃ plain, ((job.synthesize node type (some { context with doubleNull := false })).settle
          job.settings ledger).1 = .ok plain ∧
        ∀ value, value.isNull = false →
          registry.evaluate chain (some value) =
            (registry.evaluate plain (some value)).map .present ∧
          ∀ out, registry.evaluate plain (some value) = .ok out →
            out ≠ .null ∧ out ≠ .absent ∧ ∀ inner, out ≠ .present inner) ∧
    (chain.presence = .plain →
      registry.evaluate chain none = registry.evaluate chain (some .null) ∧
      (∀ input out, registry.evaluate chain input = .ok out →
        out ≠ .absent ∧ ∀ inner, out ≠ .present inner) ∧
      ∀ value out, value.isNull = false → registry.evaluate chain (some value) = .ok out →
        out ≠ .null) ∧
    ∀ input out, registry.evaluate chain input = .ok out → out.Placed := by
  have made := Draft.yields_of_settle synthesized
  have plainly {chain : Chain} (plain : chain.presence = .plain) {input : Option Value}
      {out : Coerced} (evaluated : registry.evaluate chain input = .ok out) :
      out.Bare ∧ ((input.getD .null).isNull = false → out ≠ .null) := by
    rw [Registry.evaluate, Registry.evaluateAt_plain plain] at evaluated
    exact ⟨registry.bare_of_convert _ _ _ _ evaluated,
      fun there => Registry.convert_ne_null there evaluated⟩
  refine ⟨?_, fun plain => ⟨?_, fun input out evaluated => ?_, fun value out there evaluated => ?_⟩,
    fun input out evaluated => Registry.evaluateAt_placed (registry.bare_of_convert _) evaluated⟩
  · rintro context rfl double nullable
    have boxed : chain.presence = .boxed := by
      rw [presence_synthesize made]
      simp [double, nullable]
    have same : context = { context with doubleNull := true } := by rw [← double]
    have twin : ((job.synthesize node type (some { context with doubleNull := false })).settle
        job.settings ledger).1 = .ok ⟨chain.steps, .plain, chain.target.unboxed⟩ := by
      rw [synthesize_single, Draft.settle_map, ← same, synthesized]
      rfl
    refine ⟨?_, ?_, _, twin, fun value there => ⟨?_, fun out evaluated => ?_⟩⟩
    · rw [Registry.evaluate, Registry.evaluateAt_boxed boxed]
    · rw [Registry.evaluate, Registry.evaluateAt_boxed boxed]
      exact map_eq_ok_iff.mpr ⟨.null, convert_null_of_isNullable made nullable, rfl⟩
    · rw [Registry.evaluate, Registry.evaluate, Registry.evaluateAt_boxed boxed,
        Registry.evaluateAt_plain rfl]
      rfl
    · obtain ⟨bare, apart⟩ := plainly rfl evaluated
      exact ⟨apart there, bare.ne_absent, bare.ne_present⟩
  · rw [Registry.evaluate, Registry.evaluate, Registry.evaluateAt_plain plain,
      Registry.evaluateAt_plain plain]
    rfl
  · exact ⟨(plainly plain evaluated).1.ne_absent, (plainly plain evaluated).1.ne_present⟩
  · exact (plainly plain evaluated).2 there

def optionalPaints : Chain where
  steps := [.parseEnum "Color" (.generated ⟨"generated.enums", "Color"⟩) ["RED", "BLUE"] false,
    .nonNull, .mapList true false]
  presence := .boxed
  target := paintsTarget.presented

theorem evaluate_presence_palette :
    ((palette.synthesize "Query.paint" (.list (.nonNull (.named "Color")))
      (some { doubleNull := true })).settle palette.settings {}).1 = .ok optionalPaints ∧
    (⟨[]⟩ : Registry).evaluate optionalPaints none = .ok .absent ∧
    (⟨[]⟩ : Registry).evaluate optionalPaints (some .null) = .ok (.present .null) ∧
    (⟨[]⟩ : Registry).evaluate optionalPaints (some (.list [.string "RED"])) =
      .ok (.present (.list [.enum "Color" "RED"])) := by
  have made : ((palette.synthesize "Query.paint" (.list (.nonNull (.named "Color")))
      (some { doubleNull := true })).settle palette.settings {}).1 = .ok optionalPaints := by
    decide +kernel
  obtain ⟨absent, null, _⟩ := (evaluate_presence made ⟨[]⟩).1 _ rfl rfl rfl
  exact ⟨made, absent, null, rfl⟩

end Job

end Typewright
