/-! Lists in ascending order that hold each of their members once. -/
namespace Typewright

def insertOnce [DecidableEq α] (before : α → α → Bool) (x : α) : List α → List α
  | [] => [x]
  | y :: rest =>
    if x = y then y :: rest
    else if before x y then x :: y :: rest
    else y :: insertOnce before x rest

def ascending [DecidableEq α] (before : α → α → Bool) (xs : List α) : List α :=
  xs.foldr (insertOnce before) []

@[simp] theorem mem_insertOnce [DecidableEq α] {before : α → α → Bool} {x z : α} {xs : List α} :
    z ∈ insertOnce before x xs ↔ z = x ∨ z ∈ xs := by
  induction xs with
  | nil => simp [insertOnce]
  | cons y rest ih =>
    simp only [insertOnce]
    split
    · simp_all
    · split <;> simp_all
      constructor <;> (rintro (h | h | h) <;> simp [h])

@[simp] theorem mem_ascending [DecidableEq α] {before : α → α → Bool} {z : α} {xs : List α} :
    z ∈ ascending before xs ↔ z ∈ xs := by
  induction xs with
  | nil => simp [ascending]
  | cons x rest ih =>
    rw [ascending, List.foldr_cons, mem_insertOnce, List.mem_cons]
    exact or_congr_right ih

end Typewright
