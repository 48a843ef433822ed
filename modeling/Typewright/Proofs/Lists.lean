import Mathlib.Data.List.Forall2
import Mathlib.Data.List.Nodup

/-! Lists whose members are related one by one, lists without members of one key, and lists that are
taken apart at their ends. -/
namespace List.Forall₂

variable {α β : Type*} {R : α → β → Prop} {xs : List α} {ys : List β}

theorem exists_of_mem_right {y : β} (related : Forall₂ R xs ys) (member : y ∈ ys) :
    ∃ x ∈ xs, R x y := by
  induction related with
  | nil => simp at member
  | cons first _ ih =>
    rcases List.mem_cons.mp member with rfl | later
    · exact ⟨_, .head _, first⟩
    · obtain ⟨x, among, found⟩ := ih later
      exact ⟨x, .tail _ among, found⟩

theorem exists_of_mem_left {x : α} (related : Forall₂ R xs ys) (member : x ∈ xs) :
    ∃ y ∈ ys, R x y :=
  exists_of_mem_right related.flip member

end List.Forall₂

namespace Typewright

theorem exists_forall₂ {R : α → β → Prop} {xs : List α} (each : ∀ x ∈ xs, ∃ y, R x y) :
    ∃ ys, List.Forall₂ R xs ys := by
  induction xs with
  | nil => exact ⟨[], .nil⟩
  | cons x rest ih =>
    obtain ⟨⟨y, first⟩, later⟩ := List.forall_mem_cons.mp each
    obtain ⟨ys, related⟩ := ih later
    exact ⟨y :: ys, .cons first related⟩

/-- A list that ends in `last` is taken apart at its end or before it. -/
theorem concat_eq_append_cons_iff {xs before after : List α} {last x : α} :
    xs ++ [last] = before ++ x :: after ↔
      (before = xs ∧ x = last ∧ after = []) ∨
        ∃ rest, after = rest ++ [last] ∧ xs = before ++ x :: rest := by
  constructor
  · intro split
    rcases List.eq_nil_or_concat' after with rfl | ⟨rest, final, rfl⟩
    · obtain ⟨rfl, same⟩ := List.append_inj' split rfl
      exact .inl ⟨rfl, (List.singleton_inj.mp same).symm, rfl⟩
    · have ends : xs ++ [last] = (before ++ x :: rest) ++ [final] := by simpa using split
      obtain ⟨rfl, same⟩ := List.append_inj' ends rfl
      obtain rfl := List.singleton_inj.mp same
      exact .inr ⟨rest, rfl, rfl⟩
  · rintro (⟨rfl, rfl, rfl⟩ | ⟨rest, rfl, rfl⟩)
    · rfl
    · simp

theorem find?_key_iff [DecidableEq β] {key : α → β} {xs : List α} {x : α} {wanted : β}
    (distinct : (xs.map key).Nodup) :
    xs.find? (key · = wanted) = some x ↔ x ∈ xs ∧ key x = wanted := by
  constructor
  · intro found
    exact ⟨List.mem_of_find?_eq_some found, by simpa using List.find?_some found⟩
  · rintro ⟨listed, rfl⟩
    cases found : xs.find? (key · = key x) with
    | none => simpa using List.find?_eq_none.mp found x listed
    | some y =>
      have same : key y = key x := by simpa using List.find?_some found
      rw [List.inj_on_of_nodup_map distinct (List.mem_of_find?_eq_some found) listed same]

theorem eraseDups_concat [BEq α] [LawfulBEq α] [DecidableEq α] (xs : List α) (x : α) :
    (xs ++ [x]).eraseDups = if x ∈ xs then xs.eraseDups else xs.eraseDups ++ [x] := by
  rw [List.eraseDups_append, List.removeAll]
  split
  next known => rw [List.filter_cons_of_neg (by simp [known])]; simp
  next fresh => rw [List.filter_cons_of_pos (by simp [fresh])]; rfl

/-- A walk over a list matters at its members alone. -/
theorem mapM_congr [Monad m] [LawfulMonad m] {f g : α → m β} {xs : List α}
    (same : ∀ x ∈ xs, f x = g x) : xs.mapM f = xs.mapM g := by
  induction xs with
  | nil => simp
  | cons x rest ih =>
    rw [List.mapM_cons, List.mapM_cons, same x (.head _), ih fun y later => same y (.tail _ later)]

end Typewright
