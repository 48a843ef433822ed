import Typewright.Proofs.ReferenceConversion

/-! Resolution by recursion on the reference: what each marker, a representation and a double null
policy make of the type that is resolved without them, and how the type is written. -/
namespace Typewright

/-- One nullable box around a type that takes null. -/
def Wrapped.presented (type : Wrapped β) : Wrapped β :=
  if type.isNullable then { type with wrapping := ⟨.box, true⟩ :: type.wrapping } else type

theorem Wrapped.display_listOf (type : TargetType) (nullable : Bool) :
    (type.listOf nullable).display = optionOf nullable s!"Vec<{type.display}>" := by
  obtain ⟨base, inner, wrapping⟩ := type
  simp [display, listOf, Base.displayWrapped, Wrapper.display, WrapperKind.display]

theorem Wrapped.unboxed_presented {type : Wrapped β} (plain : type.isBoxed = false) :
    type.presented.unboxed = type := by
  rw [presented]
  split
  · rfl
  · obtain ⟨base, nullable, _ | ⟨⟨_ | _, _⟩, inner⟩⟩ := type
    · rfl
    · rfl
    · simp [isBoxed] at plain

/-- A base inside the lists of a reference, written as vectors, with an option at each position
that takes null. The flag tells whether the outermost one does. -/
def TypeRef.nested (base : String) : (nullable : Bool) → TypeRef → String
  | nullable, named _ => optionOf nullable base
  | nullable, list element => optionOf nullable s!"Vec<{element.nested base true}>"
  | _, nonNull inner => inner.nested base false

namespace TypeRef

/-- Another base leaves the wrappers and their nullability as they are. -/
theorem target_base (base other : Base) (type : TypeRef) :
    { type.target base with base := other } = type.target other := by
  induction type with
  | named _ => rfl
  | list element ih => rw [target, target, ← ih, Wrapped.listOf, Wrapped.listOf]
  | nonNull inner ih =>
    rw [target, target, ← ih, Wrapped.demanded, Wrapped.demanded]
    split <;> simp_all

theorem kind_of_mem_target (base : Base) (type : TypeRef) :
    ∀ wrapper ∈ (type.target base).wrapping, wrapper.kind = .list := by
  induction type with
  | named _ => simp [target, Wrapped.optional]
  | list element ih => simpa [target, Wrapped.listOf] using ih
  | nonNull inner ih =>
    rw [target, Wrapped.demanded]
    split
    next bare => simp [bare]
    next outer rest wrapped => simpa [wrapped] using ih

theorem display_target (base : Base) (type : TypeRef) (nullable : Bool) :
    (if nullable then type.target base else (type.target base).demanded).display =
      type.nested base.display nullable := by
  induction type generalizing nullable with
  | named _ => cases nullable <;> rfl
  | list element ih =>
    have inside := ih true
    rw [if_pos rfl] at inside
    rw [nested, ← inside, ← Wrapped.display_listOf]
    cases nullable <;> rfl
  | nonNull inner ih =>
    rw [nested, ← ih false]
    cases nullable <;> simp [target]

end TypeRef

namespace Job

variable {job : Job} {node : String} {policy : Option Policy} {type : TypeRef}

theorem boxFor_single (single : policy.any (·.doubleNull) = false) (target : TargetType) :
    boxFor policy target = target := by
  simp [boxFor, single]

theorem boxFor_double (context : Policy) (target : TargetType) :
    boxFor (some { context with doubleNull := true }) target = target.presented := by
  simp [boxFor, Wrapped.presented]

theorem resolve_single (single : policy.any (·.doubleNull) = false) :
    job.resolve node type policy = type.target <$> job.baseUnder node type.baseName policy := by
  simp only [resolve_eq, boxFor_single single]

theorem resolve_double (context : Policy) :
    job.resolve node type (some { context with doubleNull := true }) =
      Wrapped.presented <$>
        (type.target <$> job.baseUnder node type.baseName (some context)) := by
  rw [resolve_eq, Functor.map_map]
  simp only [boxFor_double]
  rfl

/-- A representation in the context leaves the wrappers and the nullability of what is resolved
without it, and its own type stands in for the base. -/
theorem resolve_represented (single : policy.any (·.doubleNull) = false) {target : TargetType}
    (resolved : (job.resolve node type policy).outcome = .ok target) (external : String) :
    job.resolve node type (some { policy.getD {} with representation := some external }) =
      pure { target with base := .external external } := by
  obtain ⟨base, _, rfl⟩ := yields_resolve.mp (Draft.yields_univ.mpr resolved)
  have apart : (policy.getD {}).doubleNull = false := by
    cases policy with
    | none => rfl
    | some context => simpa using single
  rw [boxFor_single single, TypeRef.target_base, resolve_single (by simpa using apart)]
  rfl

/-- A box stands around the whole of what is resolved under a double null policy, or there is none,
and what is in it is what is resolved without the policy. -/
theorem unboxed_resolve {context : Policy} (single : context.doubleNull = false)
    {target : TargetType} (resolved :
      (job.resolve node type (some { context with doubleNull := true })).outcome = .ok target) :
    (∀ wrapper ∈ target.wrapping.tail, wrapper.kind = .list) ∧
      (job.resolve node type (some context)).outcome = .ok target.unboxed := by
  obtain ⟨base, named, rfl⟩ := yields_resolve.mp (Draft.yields_univ.mpr resolved)
  have inside : (job.resolve node type (some context)).Yields Set.univ (type.target base) :=
    yields_resolve.mpr ⟨base, named, (boxFor_single (by simpa using single) _).symm⟩
  have lists := TypeRef.kind_of_mem_target base type
  rw [boxFor_double, Wrapped.unboxed_presented (TypeRef.isBoxed_target base type)]
  refine ⟨?_, inside.outcome⟩
  rw [Wrapped.presented]
  split
  · exact lists
  · exact fun wrapper among => lists wrapper (List.mem_of_mem_tail among)

/-- Without a double null policy a reference is resolved by recursion on it: a name to its base, open
to null, a list to a list open to null around what the element is resolved to, and a non-null marker
closes the outermost position and no other. Both sides claim the same names and fail alike. What is
resolved is written as the reference is nested, and a representation in the context replaces the
base alone. With a double null policy one box goes around whatever takes null. -/
theorem resolve_structural (single : policy.any (·.doubleNull) = false) :
    (∀ name, job.resolve node (.named name) policy =
      Wrapped.optional <$> job.baseUnder node name policy) ∧
    (∀ element, job.resolve node (.list element) policy =
      (·.listOf true) <$> job.resolve node element policy) ∧
    (∀ inner, job.resolve node (.nonNull inner) policy =
      Wrapped.demanded <$> job.resolve node inner policy) ∧
    (∀ inner, job.resolve node (.nonNull (.nonNull inner)) policy =
      job.resolve node (.nonNull inner) policy) ∧
    (∀ type target, (job.resolve node type policy).outcome = .ok target →
      target.display = type.nested target.base.display true ∧
      (∀ wrapper ∈ target.wrapping, wrapper.kind = .list) ∧
      ∀ external,
        job.resolve node type (some { policy.getD {} with representation := some external }) =
          pure { target with base := .external external }) ∧
    ∀ context, policy = some context → ∀ type,
      job.resolve node type (some { context with doubleNull := true }) =
        Wrapped.presented <$> job.resolve node type policy ∧
      ∀ target,
        (job.resolve node type (some { context with doubleNull := true })).outcome = .ok target →
        (∀ wrapper ∈ target.wrapping.tail, wrapper.kind = .list) ∧
          (job.resolve node type policy).outcome = .ok target.unboxed := by
  have demanded (inner : TypeRef) : job.resolve node (.nonNull inner) policy =
      Wrapped.demanded <$> job.resolve node inner policy := by
    rw [resolve_single single, resolve_single single, Functor.map_map]
    rfl
  refine ⟨fun name => resolve_single single, fun element => ?_, demanded, fun inner => ?_,
    fun type target resolved => ⟨?_, ?_, fun external => ?_⟩, ?_⟩
  · rw [resolve_single single, resolve_single single, Functor.map_map]
    rfl
  · rw [demanded, demanded, Functor.map_map]
    simp only [Wrapped.demanded_demanded]
  · obtain ⟨base, _, rfl⟩ := yields_resolve.mp (Draft.yields_univ.mpr resolved)
    rw [boxFor_single single, TypeRef.base_target]
    exact TypeRef.display_target base type true
  · obtain ⟨base, _, rfl⟩ := yields_resolve.mp (Draft.yields_univ.mpr resolved)
    rw [boxFor_single single]
    exact TypeRef.kind_of_mem_target base type
  · exact resolve_represented single resolved external
  · rintro context rfl type
    refine ⟨?_, fun target resolved => unboxed_resolve (by simpa using single) resolved⟩
    rw [resolve_double, resolve_single single]

def paintsTarget : TargetType := ⟨.generated ⟨"generated.enums", "Color"⟩, false, [⟨.list, true⟩]⟩

theorem resolve_structural_palette :
    (some {} : Option Policy).any (·.doubleNull) = false ∧
    (palette.resolve "Query.paint" (.list (.nonNull (.named "Color"))) (some {})).outcome =
      .ok paintsTarget ∧
    paintsTarget.display = "Option<Vec<generated.enums.Color>>" ∧
    (palette.resolve "Query.paint" (.list (.nonNull (.named "Color")))
      (some { doubleNull := true })).outcome = .ok paintsTarget.presented := by
  have single : (some {} : Option Policy).any (·.doubleNull) = false := rfl
  have resolved : (palette.resolve "Query.paint" (.list (.nonNull (.named "Color")))
      (some {})).outcome = .ok paintsTarget := by decide +kernel
  obtain ⟨_, _, _, _, whole, double⟩ := @resolve_structural palette "Query.paint" _ single
  refine ⟨single, resolved, (whole _ _ resolved).1, ?_⟩
  rw [(double {} rfl _).1, map_eq_pure_bind, Draft.outcome_bind, resolved]
  rfl

end Job

end Typewright
