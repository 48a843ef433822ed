import Mathlib.Data.List.Perm.Basic
import Mathlib.Data.Set.Function
import Typewright.Draft
import Typewright.Proofs.Lists
import Typewright.Proofs.Naming

/-! What a draft comes to once the names that it claims are granted. Each way of making a draft
has one rule here, and proofs about generators use these rules alone. -/
namespace Typewright

namespace Draft

/-- The draft comes to the value and claims no name but granted ones. -/
structure Yields (granted : Set Key) (draft : Draft α) (value : α) : Prop where
  outcome : draft.outcome = .ok value
  claims : ∀ key ∈ draft.claims, key ∈ granted

variable {granted : Set Key}

@[simp] theorem yields_pure {value other : α} :
    (pure value : Draft α).Yields granted other ↔ other = value := by
  constructor
  · intro made
    simpa [eq_comm] using made.outcome
  · rintro rfl
    exact ⟨rfl, by simp⟩

@[simp] theorem yields_bind {x : Draft α} {next : α → Draft β} {value : β} :
    (x >>= next).Yields granted value ↔
      ∃ first, x.Yields granted first ∧ (next first).Yields granted value := by
  cases reached : x.outcome with
  | error fault =>
    rw [bind_of_error next reached]
    constructor
    · intro made
      exact nomatch made.outcome
    · rintro ⟨first, made, _⟩
      exact nomatch reached.symm.trans made.outcome
  | ok first =>
    rw [bind_of_ok next reached]
    constructor
    · intro made
      refine ⟨first, ⟨reached, ?_⟩, ⟨made.outcome, ?_⟩⟩
      · exact fun key member => made.claims key (List.mem_append_left _ member)
      · exact fun key member => made.claims key (List.mem_append_right _ member)
    · rintro ⟨other, made, later⟩
      obtain rfl : first = other := Except.ok.inj (reached.symm.trans made.outcome)
      refine ⟨later.outcome, fun key member => ?_⟩
      exact (List.mem_append.mp member).elim (made.claims key) (later.claims key)

/-- With every key granted a draft yields what it comes to. -/
theorem yields_univ {draft : Draft α} {value : α} :
    draft.Yields Set.univ value ↔ draft.outcome = .ok value :=
  ⟨fun made => made.outcome, fun reached => ⟨reached, fun _ _ => trivial⟩⟩

theorem yields_claims {draft : Draft α} {value : α} :
    draft.Yields {key | key ∈ draft.claims} value ↔ draft.outcome = .ok value :=
  ⟨fun made => made.outcome, fun reached => ⟨reached, fun _ member => member⟩⟩

/-- What follows a draft matters at the value that the draft comes to alone. -/
theorem bind_congr_of_outcome {x : Draft α} {f g : α → Draft β}
    (same : ∀ value, x.outcome = .ok value → f value = g value) : x >>= f = x >>= g := by
  show x.andThen f = x.andThen g
  rw [andThen, andThen]
  split
  next => rfl
  next value reached => rw [same value reached]

@[simp] theorem yields_map {f : α → β} {x : Draft α} {value : β} :
    (f <$> x).Yields granted value ↔ ∃ first, x.Yields granted first ∧ value = f first := by
  rw [map_eq_pure_bind, yields_bind]
  simp

@[simp] theorem yields_lift {outcome : Except Fault α} {value : α} :
    (liftM outcome : Draft α).Yields granted value ↔ outcome = .ok value :=
  ⟨fun made => made.outcome, fun reached => ⟨reached, fun _ member => nomatch member⟩⟩

@[simp] theorem yields_fail {fault : Fault} {value : α} :
    ¬ (fail fault : Draft α).Yields granted value :=
  fun made => nomatch made.outcome

@[simp] theorem yields_name {settings : Settings} {key : Key} {value : QualifiedName} :
    (Draft.name settings key).Yields granted value ↔
      value = settings.compose key ∧ key ∈ granted := by
  constructor
  · intro made
    exact ⟨(Except.ok.inj made.outcome).symm, made.claims key (.head _)⟩
  · rintro ⟨rfl, member⟩
    exact ⟨rfl, by simpa [Draft.name] using member⟩

@[simp] theorem yields_when {wanted : Bool} {draft : Draft α} {values : List α} :
    (draft.when wanted).Yields granted values ↔
      if wanted then ∃ value, draft.Yields granted value ∧ values = [value] else values = [] := by
  cases wanted <;> simp [when]

@[simp] theorem yields_mapM {f : α → Draft β} {xs : List α} {ys : List β} :
    (xs.mapM f).Yields granted ys ↔
      List.Forall₂ (fun x y => (f x).Yields granted y) xs ys := by
  induction xs generalizing ys with
  | nil => simp
  | cons x rest ih =>
    simp only [List.mapM_cons, yields_bind, yields_pure, ih, List.forall₂_cons_left_iff]
    constructor
    · rintro ⟨y, made, tail, later, rfl⟩
      exact ⟨y, tail, made, later, rfl⟩
    · rintro ⟨y, tail, made, later, rfl⟩
      exact ⟨y, made, tail, later, rfl⟩

theorem Yields.unique {other : Set Key} {draft : Draft α} {first second : α}
    (one : draft.Yields granted first) (two : draft.Yields other second) : first = second :=
  Except.ok.inj (one.outcome.symm.trans two.outcome)

/-- What is granted twice over suffices. -/
theorem Yields.inter {other : Set Key} {draft : Draft α} {first second : α}
    (one : draft.Yields granted first) (two : draft.Yields other second) :
    draft.Yields (granted ∩ other) first :=
  ⟨one.outcome, fun key member => ⟨one.claims key member, two.claims key member⟩⟩

/-- What a draft comes to for each member of a list keeps to the members as they change places. -/
theorem perm_of_forall₂ {other : Set Key} {f : α → Draft β} {xs ys : List α} {first second : List β}
    (perm : xs.Perm ys) (one : List.Forall₂ (fun x y => (f x).Yields granted y) xs first)
    (two : List.Forall₂ (fun x y => (f x).Yields other y) ys second) : first.Perm second := by
  have unique : Relator.RightUnique fun x y => (f x).outcome = .ok y :=
    fun _ _ _ left right => Except.ok.inj (left.symm.trans right)
  exact List.rel_perm_imp unique (one.imp fun _ _ made => made.outcome)
    (two.imp fun _ _ made => made.outcome) perm

theorem settle_bind {settings : Settings} {ledger : Ledger} (x : Draft α) (next : α → Draft β) :
    (x >>= next).settle settings ledger =
      match x.settle settings ledger with
      | (.ok value, ledger) => (next value).settle settings ledger
      | (.error fault, ledger) => (.error fault, ledger) := by
  rw [settle.eq_def settings x]
  cases reached : x.outcome with
  | error fault =>
    rw [bind_of_error next reached, settle]
    obtain ⟨granted, later⟩ := ledger.claimAll settings x.claims
    cases granted <;> rfl
  | ok value =>
    rw [bind_of_ok next reached, settle, Ledger.claimAll_append]
    obtain ⟨granted, later⟩ := ledger.claimAll settings x.claims
    cases granted <;> rfl

theorem settle_map {settings : Settings} {ledger : Ledger} (f : α → β) (draft : Draft α) :
    (f <$> draft).settle settings ledger =
      ((draft.settle settings ledger).1.map f, (draft.settle settings ledger).2) := by
  rw [map_eq_pure_bind, settle_bind]
  obtain ⟨outcome, later⟩ := draft.settle settings ledger
  cases outcome <;> rfl

theorem yields_of_settle {settings : Settings} {draft : Draft α} {ledger : Ledger} {value : α}
    (settled : (draft.settle settings ledger).1 = .ok value) :
    draft.Yields {key | key ∈ draft.claims} value := by
  rw [settle] at settled
  split at settled
  · exact yields_claims.mpr settled
  · contradiction

theorem claimed_of_settle {settings : Settings} {draft : Draft α} {value : α}
    (settled : (draft.settle settings {}).1 = .ok value) :
    (({} : Ledger).claimAll settings draft.claims).1 = .ok () := by
  rw [settle] at settled
  split at settled
  next done => rw [done]
  next => contradiction

theorem injOn_claims {settings : Settings} {draft : Draft α} {value : α}
    (settled : (draft.settle settings {}).1 = .ok value) :
    Set.InjOn settings.compose {key | key ∈ draft.claims} := by
  have compatible :=
    (Ledger.claimAll_ok_iff Ledger.empty_invariant _).mp (claimed_of_settle settled)
  exact fun key member other among same => (compatible other among).1 key member same

/-- In a run with a ledger of its own no two granted keys have one name. -/
theorem settle_ok {settings : Settings} {draft : Draft α} {value : α}
    (settled : (draft.settle settings {}).1 = .ok value) :
    ∃ granted : Set Key, Set.InjOn settings.compose granted ∧ draft.Yields granted value :=
  ⟨_, injOn_claims settled, yields_of_settle settled⟩

/-- Keys whose names are distinct may all be granted. -/
theorem settle_of_yields {settings : Settings} {draft : Draft α} {value : α}
    (injective : Set.InjOn settings.compose granted) (made : draft.Yields granted value) :
    (draft.settle settings {}).1 = .ok value := by
  have compatible : Ledger.Compatible settings draft.claims {} := fun key member =>
    ⟨fun other among same => injective (made.claims other among) (made.claims key member) same,
      by simp [Ledger.ownerOf?]⟩
  have claimed := (Ledger.claimAll_ok_iff Ledger.empty_invariant _).mpr compatible
  rw [settle]
  split
  next => exact made.outcome
  next refused => simp [refused] at claimed

/-- With a ledger of its own a draft either comes to its outcome, with distinct names for the keys
that it claims, or is refused over two of these keys. -/
theorem settle_cases (settings : Settings) (draft : Draft α) :
    (Set.InjOn settings.compose {key | key ∈ draft.claims} ∧
      (draft.settle settings {}).1 = draft.outcome) ∨
    ∃ first ∈ draft.claims, ∃ second ∈ draft.claims, first ≠ second ∧
      settings.compose first = settings.compose second ∧
      (draft.settle settings {}).1 =
        .error (.nameCollision (settings.compose second) first second) := by
  cases claimed : (({} : Ledger).claimAll settings draft.claims).1 with
  | ok done =>
    have compatible := (Ledger.claimAll_ok_iff Ledger.empty_invariant _).mp claimed
    refine .inl ⟨fun key member other among same => (compatible other among).1 key member same, ?_⟩
    rw [settle]
    split <;> simp_all
  | error fault =>
    obtain ⟨first, second, member, holder, apart, same, rfl⟩ :=
      Ledger.claimAll_error Ledger.empty_invariant claimed
    have among : first ∈ draft.claims := by simpa [Ledger.ownerOf?] using holder
    refine .inr ⟨first, among, second, member, apart, same, ?_⟩
    rw [settle]
    split <;> simp_all

/-- The table that a run leaves holds the names of its claims and no others. -/
theorem ownerOf?_settle {settings : Settings} {draft : Draft α} {value : α} {key : Key}
    {name : QualifiedName} (settled : (draft.settle settings {}).1 = .ok value) :
    (draft.settle settings {}).2.ownerOf? name = some key ↔
      key ∈ draft.claims ∧ name = settings.compose key := by
  have claimed := claimed_of_settle settled
  have table : (draft.settle settings {}).2 = Ledger.after settings draft.claims {} := by
    rw [← Ledger.claimAll_after claimed, settle]
    split <;> simp [*]
  rw [table, Ledger.ownerOf?_after_empty, Ledger.granted_iff_mem]
  exact (Ledger.claimAll_ok_iff Ledger.empty_invariant _).mp claimed

end Draft

end Typewright
