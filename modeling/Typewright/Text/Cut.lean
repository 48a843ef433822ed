/-! Cutting a text at a separating character. The separator itself is never kept. -/
namespace Typewright.Text

/-- What stands before and after the first `sep`, if there is one. -/
def cutAt (sep : Char) : List Char → Option (List Char × List Char)
  | [] => none
  | c :: rest =>
    if c = sep then some ([], rest) else (cutAt sep rest).map fun (before, after) => (c :: before, after)

section CutAt

variable {sep : Char} {cs before after : List Char}

theorem cutAt_append (absent : sep ∉ before) :
    cutAt sep (before ++ sep :: after) = some (before, after) := by
  induction before with
  | nil => simp [cutAt]
  | cons c rest ih =>
    rw [List.mem_cons, not_or] at absent
    simp [cutAt, Ne.symm absent.1, ih absent.2]

theorem eq_append_of_cutAt (cut : cutAt sep cs = some (before, after)) :
    cs = before ++ sep :: after ∧ sep ∉ before := by
  induction cs generalizing before with
  | nil => contradiction
  | cons c rest ih =>
    rw [cutAt] at cut
    split at cut
    next here =>
      obtain ⟨rfl, rfl⟩ := Prod.mk.inj (Option.some.inj cut)
      exact ⟨here ▸ rfl, by simp⟩
    next other =>
      obtain ⟨⟨first, last⟩, found, same⟩ := Option.map_eq_some_iff.mp cut
      obtain ⟨rfl, rfl⟩ := Prod.mk.inj same
      obtain ⟨rfl, absent⟩ := ih found
      exact ⟨rfl, by simpa [Ne.symm other] using absent⟩

theorem cutAt_eq_none (absent : sep ∉ cs) : cutAt sep cs = none := by
  cases cut : cutAt sep cs with
  | none => rfl
  | some halves =>
    obtain ⟨rfl, _⟩ := eq_append_of_cutAt cut
    simp at absent

end CutAt

/-- The pieces between the characters that `keep` refuses: one more than there are of those. -/
def pieces (keep : Char → Bool) : List Char → List (List Char)
  | [] => [[]]
  | c :: rest =>
    if keep c then
      match pieces keep rest with
      | [] => [[c]]
      | piece :: later => (c :: piece) :: later
    else [] :: pieces keep rest

section Pieces

variable {keep : Char → Bool} {sep : Char} {cs : List Char}

theorem pieces_ne_nil (keep : Char → Bool) (cs : List Char) : pieces keep cs ≠ [] := by
  cases cs with
  | nil => simp [pieces]
  | cons c rest =>
    rw [pieces]
    split
    · split <;> simp
    · simp

theorem pieces_of_kept (kept : ∀ c ∈ cs, keep c = true) : pieces keep cs = [cs] := by
  induction cs with
  | nil => rfl
  | cons c rest ih =>
    rw [List.forall_mem_cons] at kept
    rw [pieces, if_pos kept.1, ih kept.2]

theorem pieces_append (refused : keep sep = false) (before after : List Char) :
    pieces keep (before ++ sep :: after) = pieces keep before ++ pieces keep after := by
  induction before with
  | nil => simp [pieces, refused]
  | cons c rest ih =>
    rw [List.cons_append, pieces, pieces, ih]
    split
    · cases split : pieces keep rest with
      | nil => exact absurd split (pieces_ne_nil keep rest)
      | cons piece later => simp
    · rfl

theorem intercalate_pieces (sep : Char) (cs : List Char) :
    [sep].intercalate (pieces (· != sep) cs) = cs := by
  induction cs with
  | nil => rfl
  | cons c rest ih =>
    rw [pieces]
    cases split : pieces (· != sep) rest with
    | nil => exact absurd split (pieces_ne_nil _ rest)
    | cons piece later =>
      rw [split] at ih
      split
      next => cases later <;> simp_all [List.intercalate_cons_cons]
      next stop =>
        obtain rfl : c = sep := by simpa using stop
        rw [List.intercalate_cons_cons, ih]
        rfl

theorem pieces_intercalate {words : List (List Char)} (some : words ≠ [])
    (whole : ∀ word ∈ words, sep ∉ word) :
    pieces (· != sep) ([sep].intercalate words) = words := by
  induction words with
  | nil => contradiction
  | cons word rest ih =>
    rw [List.forall_mem_cons] at whole
    have kept : pieces (· != sep) word = [word] :=
      pieces_of_kept fun c among => bne_iff_ne.mpr fun same => whole.1 (same ▸ among)
    cases rest with
    | nil => simpa using kept
    | cons next rest =>
      rw [List.intercalate_cons_cons, List.append_assoc, List.singleton_append,
        pieces_append (by simp), kept, ih (by simp) whole.2]
      rfl

theorem flatten_pieces (keep : Char → Bool) (cs : List Char) :
    (pieces keep cs).flatten = cs.filter keep := by
  induction cs with
  | nil => rfl
  | cons c rest ih =>
    by_cases kept : keep c
    · rw [pieces, if_pos kept, List.filter_cons_of_pos kept, ← ih]
      split
      next none => simp [none]
      next some => simp [some]
    · rw [pieces, if_neg kept, List.filter_cons_of_neg kept, ← ih]
      rfl

theorem keep_of_mem_pieces {piece : List Char} {c : Char} (listed : piece ∈ pieces keep cs)
    (among : c ∈ piece) : keep c = true := by
  have member : c ∈ (pieces keep cs).flatten := List.mem_flatten.mpr ⟨piece, listed, among⟩
  rw [flatten_pieces] at member
  exact (List.mem_filter.mp member).2

end Pieces

def splitAt (sep : Char) (s : String) : List String :=
  (pieces (· != sep) s.toList).map String.ofList

section SplitAt

variable {sep : Char} {s before after : String}

theorem intercalate_splitAt (sep : Char) (s : String) :
    String.intercalate (String.singleton sep) (splitAt sep s) = s := by
  rw [← String.toList_inj, String.toList_intercalate, splitAt, List.map_map]
  have whole : String.toList ∘ String.ofList = id := by
    funext cs
    simp
  rw [whole, List.map_id, String.toList_singleton, intercalate_pieces]

theorem splitAt_ne_nil (sep : Char) (s : String) : splitAt sep s ≠ [] :=
  fun none => pieces_ne_nil _ _ (List.map_eq_nil_iff.mp none)

theorem splitAt_of_whole (whole : sep ∉ s.toList) : splitAt sep s = [s] := by
  have kept : ∀ c ∈ s.toList, (c != sep) = true := fun c among =>
    bne_iff_ne.mpr fun same => whole (same ▸ among)
  rw [splitAt, pieces_of_kept kept]
  simp

theorem not_mem_of_mem_splitAt {piece : String} (listed : piece ∈ splitAt sep s) :
    sep ∉ piece.toList := by
  obtain ⟨cs, inside, rfl⟩ := List.mem_map.mp listed
  intro among
  have kept := keep_of_mem_pieces inside (by simpa using among)
  simp at kept

theorem splitAt_join (joined : s.toList = before.toList ++ sep :: after.toList) :
    splitAt sep s = splitAt sep before ++ splitAt sep after := by
  rw [splitAt, joined, pieces_append (by simp), List.map_append]
  rfl

theorem splitAt_append (joined : s.toList = before.toList ++ sep :: after.toList)
    (whole : sep ∉ after.toList) : splitAt sep s = splitAt sep before ++ [after] := by
  rw [splitAt_join joined, splitAt_of_whole whole]

theorem splitAt_intercalate {steps : List String} (some : steps ≠ []) :
    splitAt sep ((String.singleton sep).intercalate steps) = steps.flatMap (splitAt sep) := by
  induction steps with
  | nil => contradiction
  | cons step rest ih =>
    cases rest with
    | nil => simp
    | cons next rest =>
      have joined : ((String.singleton sep).intercalate (step :: next :: rest)).toList =
          step.toList ++ sep :: ((String.singleton sep).intercalate (next :: rest)).toList := by
        simp [String.intercalate_cons_cons]
      rw [splitAt_join joined, ih (by simp)]
      rfl

theorem flatMap_splitAt_of_whole {steps : List String}
    (whole : ∀ step ∈ steps, sep ∉ step.toList) : steps.flatMap (splitAt sep) = steps := by
  induction steps with
  | nil => rfl
  | cons step rest ih =>
    rw [List.forall_mem_cons] at whole
    rw [List.flatMap_cons, splitAt_of_whole whole.1, ih whole.2]
    rfl

end SplitAt

def splitOnce (sep : Char) (s : String) : Option (String × String) :=
  (cutAt sep s.toList).map fun (before, after) => (String.ofList before, String.ofList after)

theorem splitOnce_eq_some_iff {sep : Char} {s key value : String} :
    splitOnce sep s = some (key, value) ↔
      s.toList = key.toList ++ sep :: value.toList ∧ sep ∉ key.toList := by
  rw [splitOnce, Option.map_eq_some_iff]
  constructor
  · rintro ⟨⟨before, after⟩, cut, same⟩
    obtain ⟨rfl, rfl⟩ := Prod.mk.inj same
    simpa using eq_append_of_cutAt cut
  · rintro ⟨joined, absent⟩
    exact ⟨(key.toList, value.toList), joined ▸ cutAt_append absent, by simp⟩

def splitLast (sep : Char) (s : String) : Option (String × String) :=
  (cutAt sep s.toList.reverse).map fun (after, before) =>
    (String.ofList before.reverse, String.ofList after.reverse)

theorem splitLast_eq_some_iff {sep : Char} {s before after : String} :
    splitLast sep s = some (before, after) ↔
      s.toList = before.toList ++ sep :: after.toList ∧ sep ∉ after.toList := by
  rw [splitLast, Option.map_eq_some_iff]
  constructor
  · rintro ⟨⟨last, first⟩, cut, same⟩
    obtain ⟨rfl, rfl⟩ := Prod.mk.inj same
    obtain ⟨joined, absent⟩ := eq_append_of_cutAt cut
    have turned := congrArg List.reverse joined
    rw [List.reverse_reverse] at turned
    simpa [turned] using absent
  · rintro ⟨joined, absent⟩
    refine ⟨(after.toList.reverse, before.toList.reverse), ?_, by simp⟩
    have turned : s.toList.reverse = after.toList.reverse ++ sep :: before.toList.reverse := by
      simp [joined]
    rw [turned, cutAt_append (by simpa using absent)]

theorem length_lt_of_splitLast {sep : Char} {s before after : String}
    (split : splitLast sep s = some (before, after)) : before.length < s.length := by
  have joined := congrArg List.length (splitLast_eq_some_iff.mp split).1
  rw [List.length_append, List.length_cons] at joined
  rw [← String.length_toList, ← String.length_toList]
  omega

theorem splitLast_eq_none {sep : Char} {s : String} (absent : sep ∉ s.toList) :
    splitLast sep s = none := by
  rw [splitLast, cutAt_eq_none (by simpa using absent), Option.map_none]

end Typewright.Text
