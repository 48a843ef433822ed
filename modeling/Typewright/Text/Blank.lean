import Typewright.Text.Cut

/-! White space and trimming. -/
namespace Typewright.Text

/-- Characters with the property White_Space. -/
def isBlank (c : Char) : Bool :=
  let n := c.toNat
  (0x9 ≤ n && n ≤ 0xd) || n == 0x20 || n == 0x85 || n == 0xa0 || n == 0x1680 ||
    (0x2000 ≤ n && n ≤ 0x200a) || n == 0x2028 || n == 0x2029 || n == 0x202f || n == 0x205f ||
    n == 0x3000

def trimStart (cs : List Char) : List Char := cs.dropWhile isBlank

def trimEnd (cs : List Char) : List Char := (cs.reverse.dropWhile isBlank).reverse

def trim (s : String) : String := String.ofList (trimEnd (trimStart s.toList))

section Trim

variable {cs before after front back : List Char} {sep : Char}

theorem trimStart_padded (blank : ∀ c ∈ front, isBlank c = true) :
    trimStart (front ++ cs) = trimStart cs :=
  List.dropWhile_append_of_pos blank

theorem trimEnd_padded (blank : ∀ c ∈ back, isBlank c = true) :
    trimEnd (cs ++ back) = trimEnd cs := by
  rw [trimEnd, List.reverse_append,
    List.dropWhile_append_of_pos fun c among => blank c (List.mem_reverse.mp among)]
  rfl

theorem trimStart_eq_nil_iff : trimStart cs = [] ↔ ∀ c ∈ cs, isBlank c = true := by
  constructor
  · intro none
    have parts := List.takeWhile_append_dropWhile (p := isBlank) (l := cs)
    rw [show cs.dropWhile isBlank = [] from none, List.append_nil] at parts
    exact List.all_eq_true.mp (parts ▸ List.all_takeWhile)
  · intro blank
    simpa [trimStart] using @trimStart_padded [] cs blank

theorem trimStart_append (before : List Char) (stays : isBlank sep = false) :
    trimStart (before ++ sep :: after) = trimStart before ++ sep :: after := by
  rw [trimStart, List.dropWhile_append]
  split
  next blank =>
    rw [trimStart, List.isEmpty_iff.mp blank, List.dropWhile_cons_of_neg (by simp [stays])]
    rfl
  next => rfl

theorem trimEnd_append (stays : isBlank sep = false) :
    trimEnd (before ++ sep :: after) = before ++ sep :: trimEnd after := by
  have reversed : (before ++ sep :: after).reverse = after.reverse ++ sep :: before.reverse := by
    simp
  rw [trimEnd, reversed]
  simpa [trimStart, trimEnd] using
    congrArg List.reverse (trimStart_append after.reverse stays)

theorem trim_padded (cs : List Char) (first : ∀ c ∈ front, isBlank c = true)
    (last : ∀ c ∈ back, isBlank c = true) :
    trim (String.ofList (front ++ cs ++ back)) = trim (String.ofList cs) := by
  simp only [trim, String.toList_ofList]
  rw [List.append_assoc, trimStart_padded first]
  by_cases blank : ∀ c ∈ cs, isBlank c = true
  · rw [trimStart_padded blank, trimStart_eq_nil_iff.mpr blank, trimStart_eq_nil_iff.mpr last]
  · -- Trimming the start stops within the text.
    have stops : (cs.dropWhile isBlank).isEmpty = false :=
      List.isEmpty_eq_false_iff.mpr fun none => blank (trimStart_eq_nil_iff.mp none)
    rw [trimStart, List.dropWhile_append, stops, if_neg (by simp), trimEnd_padded last]
    rfl

theorem trim_append {front s back : String} (first : ∀ c ∈ front.toList, isBlank c = true)
    (last : ∀ c ∈ back.toList, isBlank c = true) : trim (front ++ s ++ back) = trim s := by
  have padded := trim_padded s.toList first last
  rwa [← String.toList_append, ← String.toList_append, String.ofList_toList,
    String.ofList_toList] at padded

theorem trim_trimStart (cs : List Char) :
    trim (String.ofList (trimStart cs)) = trim (String.ofList cs) := by
  have blank : ∀ c ∈ cs.takeWhile isBlank, isBlank c = true :=
    List.all_eq_true.mp List.all_takeWhile
  have padded := trim_padded (trimStart cs) blank (List.forall_mem_nil _)
  rw [List.append_nil, trimStart, List.takeWhile_append_dropWhile] at padded
  exact padded.symm

theorem trim_trimEnd (cs : List Char) :
    trim (String.ofList (trimEnd cs)) = trim (String.ofList cs) := by
  have blank : ∀ c ∈ (cs.reverse.takeWhile isBlank).reverse, isBlank c = true :=
    fun c among => List.all_eq_true.mp List.all_takeWhile c (List.mem_reverse.mp among)
  have padded := trim_padded (trimEnd cs) (List.forall_mem_nil _) blank
  rw [List.nil_append, trimEnd, ← List.reverse_append, List.takeWhile_append_dropWhile,
    List.reverse_reverse] at padded
  exact padded.symm

@[simp] theorem trim_trim (s : String) : trim (trim s) = trim s :=
  calc trim (trim s)
    _ = trim (String.ofList (trimStart s.toList)) := trim_trimEnd _
    _ = trim (String.ofList s.toList) := trim_trimStart _
    _ = trim s := by rw [String.ofList_toList]

theorem mem_of_mem_trim {c : Char} {s : String} (among : c ∈ (trim s).toList) : c ∈ s.toList := by
  rw [trim, String.toList_ofList, trimEnd, List.mem_reverse] at among
  have inside := List.mem_reverse.mp ((List.dropWhile_sublist _).mem among)
  exact (List.dropWhile_sublist _).mem inside

/-- Trimming a pair trims its key at the start and its value at the end. -/
theorem splitOnce_trim {s key value : String} (stays : isBlank sep = false)
    (split : splitOnce sep s = some (key, value)) :
    splitOnce sep (trim s) =
      some (String.ofList (trimStart key.toList), String.ofList (trimEnd value.toList)) := by
  obtain ⟨joined, absent⟩ := splitOnce_eq_some_iff.mp split
  refine splitOnce_eq_some_iff.mpr ⟨?_, ?_⟩
  · simp [trim, joined, trimStart_append _ stays, trimEnd_append stays]
  · rw [String.toList_ofList]
    exact fun among => absent ((List.dropWhile_sublist _).mem among)

end Trim

end Typewright.Text
