import Typewright.Proofs.Lists

/-! Results that may be faults: when a computation made of others comes to a value, and when it
fails. -/
namespace Typewright

theorem mapM_eq_ok_iff {f : α → Except ε β} {xs : List α} {ys : List β} :
    xs.mapM f = .ok ys ↔ List.Forall₂ (fun x y => f x = .ok y) xs ys := by
  induction xs generalizing ys with
  | nil => simp [pure, Except.pure, eq_comm]
  | cons x rest ih =>
    rw [List.mapM_cons, List.forall₂_cons_left_iff]
    cases first : f x with
    | error fault => simp [bind, Except.bind]
    | ok y =>
      cases later : rest.mapM f with
      | error fault => simp [bind, Except.bind, ← ih, later]
      | ok tail => simp [bind, Except.bind, pure, Except.pure, ← ih, later, eq_comm]

theorem exists_mapM_ok {f : α → Except ε β} {xs : List α} (each : ∀ x ∈ xs, ∃ y, f x = .ok y) :
    ∃ ys, xs.mapM f = .ok ys := by
  obtain ⟨ys, related⟩ := exists_forall₂ each
  exact ⟨ys, mapM_eq_ok_iff.mpr related⟩

theorem bind_eq_ok_iff {x : Except ε α} {f : α → Except ε β} {value : β} :
    (x >>= f) = .ok value ↔ ∃ first, x = .ok first ∧ f first = .ok value := by
  cases x <;> simp [bind, Except.bind]

theorem bind_eq_error_iff {x : Except ε α} {f : α → Except ε β} {fault : ε} :
    (x >>= f) = .error fault ↔
      x = .error fault ∨ ∃ value, x = .ok value ∧ f value = .error fault := by
  cases x <;> simp [bind, Except.bind]

theorem map_eq_ok_iff {f : α → β} {x : Except ε α} {value : β} :
    x.map f = .ok value ↔ ∃ first, x = .ok first ∧ f first = value := by
  cases x <;> simp [Except.map]

theorem map_eq_error_iff {f : α → β} {x : Except ε α} {fault : ε} :
    x.map f = .error fault ↔ x = .error fault := by
  cases x <;> simp [Except.map]

theorem exists_of_mapM_error {f : α → Except ε β} {xs : List α} {fault : ε}
    (failed : xs.mapM f = .error fault) : ∃ x ∈ xs, f x = .error fault := by
  induction xs with
  | nil => simp [pure, Except.pure] at failed
  | cons x rest ih =>
    rw [List.mapM_cons] at failed
    cases first : f x with
    | error other =>
      obtain rfl : other = fault := by simpa [first, bind, Except.bind] using failed
      exact ⟨x, .head _, first⟩
    | ok y =>
      cases later : rest.mapM f with
      | ok _ => simp [first, later, bind, Except.bind, pure, Except.pure] at failed
      | error other =>
        obtain rfl : other = fault := by simpa [first, later, bind, Except.bind] using failed
        obtain ⟨deeper, among, same⟩ := ih later
        exact ⟨deeper, .tail _ among, same⟩

theorem exists_ok_of_isOk {x : Except ε α} (given : x.isOk = true) : ∃ value, x = .ok value := by
  cases x with
  | error _ => contradiction
  | ok value => exact ⟨value, rfl⟩

theorem exists_ok_of_any {x : Except ε α} {check : α → Bool}
    (holds : x.toOption.any check = true) : ∃ value, x = .ok value ∧ check value = true := by
  cases x with
  | error _ => contradiction
  | ok value => exact ⟨value, rfl, holds⟩

theorem toOption_eq_some_iff {x : Except ε α} {value : α} :
    x.toOption = some value ↔ x = .ok value := by
  cases x <;> simp [Except.toOption]

end Typewright
