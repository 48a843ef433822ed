import Mathlib.Data.List.Basic
import Typewright.Text.Word

/-! The words of texts, and what the spellings made of them cannot hold: marks that are no letters or
digits, and that no letter or digit becomes as its case changes. -/
namespace Typewright.Text

theorem flatten_humps (mode : Mode) (word cs : List Char) :
    (humps mode word cs).flatten = word ++ cs := by
  fun_induction humps mode word cs <;> simp_all

theorem flatten_wordsOf (cs : List Char) : (wordsOf cs).flatten = cs.filter isAlphanumeric := by
  have whole (piece : List Char) : (humps .fresh [] piece).flatten = piece := flatten_humps ..
  have joined (pieces : List (List Char)) :
      (pieces.flatMap (humps .fresh [])).flatten = pieces.flatten := by
    induction pieces with
    | nil => rfl
    | cons piece rest ih => simp [whole, ih]
  rw [wordsOf, joined, List.flatten_filter_ne_nil, flatten_pieces]

theorem isAlphanumeric_of_word {cs word : List Char} {c : Char} (listed : word ∈ wordsOf cs)
    (among : c ∈ word) : isAlphanumeric c = true := by
  have member : c ∈ (wordsOf cs).flatten := List.mem_flatten.mpr ⟨word, listed, among⟩
  rw [flatten_wordsOf] at member
  exact (List.mem_filter.mp member).2

def CaseRun.Avoids (run : CaseRun) (mark : Char) : Prop :=
  mark.toNat < run.target ∨ run.target + (run.last - run.first) < mark.toNat

instance (run : CaseRun) (mark : Char) : Decidable (run.Avoids mark) :=
  inferInstanceAs (Decidable (_ ∨ _))

/-- A mark that is no letter or digit, and that no letter or digit becomes as its case changes. The
words of a spelling are free of it. -/
def IsForeign (mark : Char) : Prop :=
  isAlphanumeric mark = false ∧ mark.toNat ≠ 0 ∧
    (∀ run ∈ lowerRuns ++ upperRuns, run.Avoids mark) ∧
    ∀ entry ∈ lowerExpansions ++ upperExpansions, mark.toNat ∉ entry.2

instance : DecidablePred IsForeign := fun _ => inferInstanceAs (Decidable (_ ∧ _))

theorem foreign_underscore : IsForeign '_' := by
  decide +kernel

theorem foreign_slash : IsForeign '/' := by
  decide +kernel

section Foreign

variable {mark : Char}

theorem IsForeign.ne_of_alphanumeric (foreign : IsForeign mark) {c : Char}
    (kept : isAlphanumeric c = true) : c ≠ mark := by
  rintro rfl
  simp [foreign.1] at kept

theorem IsForeign.ofNat_ne (foreign : IsForeign mark) {n : Nat} (apart : n ≠ mark.toNat) :
    Char.ofNat n ≠ mark := by
  intro same
  have value := congrArg Char.toNat same
  rw [Char.ofNat] at value
  by_cases valid : n.isValidChar
  · rw [dif_pos valid] at value
    exact apart value
  · rw [dif_neg valid] at value
    exact foreign.2.1 value.symm

theorem IsForeign.not_mem_mapWide (foreign : IsForeign mark) {runs : List CaseRun}
    {expansions : List (Nat × List Nat)} (ofRuns : runs ⊆ lowerRuns ++ upperRuns)
    (ofExpansions : expansions ⊆ lowerExpansions ++ upperExpansions) {c : Char} (other : c ≠ mark) :
    mark ∉ mapWide runs expansions c := by
  rw [mapWide]
  split
  next image found =>
    intro among
    obtain ⟨n, listed, same⟩ := List.mem_map.mp among
    obtain ⟨before, after, rfl, _⟩ := List.lookup_eq_some_iff.mp found
    have entered : (c.toNat, image) ∈ lowerExpansions ++ upperExpansions := ofExpansions (by simp)
    have apart : n ≠ mark.toNat := fun equal => foreign.2.2.2 _ entered (equal ▸ listed)
    exact foreign.ofNat_ne apart same
  · split
    next n found =>
      obtain ⟨run, listed, mapped⟩ := List.exists_of_findSome?_eq_some found
      rw [CaseRun.imageOf?] at mapped
      split at mapped
      next within =>
        obtain rfl := Option.some.inj mapped
        have avoids : run.Avoids mark := foreign.2.2.1 run (ofRuns listed)
        rw [CaseRun.Avoids] at avoids
        rw [List.mem_singleton]
        exact (foreign.ofNat_ne (by omega)).symm
      · contradiction
    · simpa using other.symm

/-- An ASCII letter or digit stays one as its case changes. -/
theorem isAlphanumeric_ascii {change : Char → Char} {c : Char} (ascii : isAscii c = true)
    (kept : isAlphanumeric c = true)
    (each : ∀ n : Fin 0x80, (Char.ofNat n).isAlphanum = true →
      isAlphanumeric (change (Char.ofNat n)) = true) : isAlphanumeric (change c) = true := by
  have small : c.toNat < 0x80 := by simpa [isAscii] using ascii
  have same : Char.ofNat c.toNat = c := Char.ofNat_toNat c
  have known := each ⟨c.toNat, small⟩
  rw [same] at known
  rw [isAlphanumeric, if_pos ascii] at kept
  exact known kept

theorem IsForeign.not_mem_lowerOf (foreign : IsForeign mark) {c : Char}
    (kept : isAlphanumeric c = true) : mark ∉ lowerOf c := by
  rw [lowerOf]
  split
  next ascii =>
    rw [List.mem_singleton]
    exact (foreign.ne_of_alphanumeric (isAlphanumeric_ascii ascii kept (by decide))).symm
  next =>
    exact foreign.not_mem_mapWide (List.subset_append_left ..) (List.subset_append_left ..)
      (foreign.ne_of_alphanumeric kept)

theorem IsForeign.not_mem_upperOf (foreign : IsForeign mark) {c : Char}
    (kept : isAlphanumeric c = true) : mark ∉ upperOf c := by
  rw [upperOf]
  split
  next ascii =>
    rw [List.mem_singleton]
    exact (foreign.ne_of_alphanumeric (isAlphanumeric_ascii ascii kept (by decide))).symm
  next =>
    exact foreign.not_mem_mapWide (List.subset_append_right ..) (List.subset_append_right ..)
      (foreign.ne_of_alphanumeric kept)

theorem IsForeign.not_mem_lowered (foreign : IsForeign mark) {word : List Char}
    (kept : ∀ c ∈ word, isAlphanumeric c = true) : mark ∉ lowered word := by
  fun_induction lowered word with
  | case1 => simp
  | case2 =>
    have apart : 'ς' ≠ mark := foreign.ne_of_alphanumeric (by decide +kernel)
    simpa using apart.symm
  | case3 c rest _ ih =>
    rw [List.forall_mem_cons] at kept
    rw [List.mem_append, not_or]
    exact ⟨foreign.not_mem_lowerOf kept.1, ih kept.2⟩

theorem IsForeign.not_mem_upperCamel (foreign : IsForeign mark) (s : String) :
    mark ∉ (upperCamel s).toList := by
  rw [upperCamel, String.toList_ofList, List.mem_flatMap]
  rintro ⟨word, listed, among⟩
  have kept : ∀ c ∈ word, isAlphanumeric c = true := fun c => isAlphanumeric_of_word listed
  cases word with
  | nil => simp [capitalized] at among
  | cons c rest =>
    rw [List.forall_mem_cons] at kept
    rcases List.mem_append.mp among with first | later
    · exact foreign.not_mem_upperOf kept.1 first
    · exact foreign.not_mem_lowered kept.2 later

theorem not_mem_intercalate {mark sep : Char} (apart : mark ≠ sep) {words : List (List Char)}
    (plain : ∀ word ∈ words, mark ∉ word) : mark ∉ [sep].intercalate words := by
  induction words with
  | nil => simp
  | cons word rest ih =>
    rw [List.forall_mem_cons] at plain
    cases rest with
    | nil => simpa using plain.1
    | cons next rest =>
      rw [List.intercalate_cons_cons, List.mem_append, List.mem_append, not_or, not_or]
      exact ⟨⟨plain.1, by simpa using apart⟩, ih plain.2⟩

theorem IsForeign.not_mem_snakeCase (foreign : IsForeign mark) (apart : mark ≠ '_') (s : String) :
    mark ∉ (snakeCase s).toList := by
  rw [snakeCase, String.toList_ofList]
  refine not_mem_intercalate apart fun _ listed => ?_
  obtain ⟨word, inside, rfl⟩ := List.mem_map.mp listed
  exact foreign.not_mem_lowered fun c => isAlphanumeric_of_word inside

end Foreign

theorem underscore_not_mem_upperCamel (s : String) : '_' ∉ (upperCamel s).toList :=
  foreign_underscore.not_mem_upperCamel s

theorem slash_not_mem_snakeCase (s : String) : '/' ∉ (snakeCase s).toList :=
  foreign_slash.not_mem_snakeCase (by decide) s

/-- Cutting at case changes leaves no word empty. -/
theorem nil_not_mem_humps {mode : Mode} {word cs : List Char}
    (begun : word = [] → mode = .fresh ∧ cs ≠ []) : [] ∉ humps mode word cs := by
  fun_induction humps mode word cs with
  | case1 mode word =>
    have some : word ≠ [] := fun none => (begun none).2 rfl
    simpa using some.symm
  | case2 mode word c => simp
  | case3 mode word c next rest split ih =>
    rw [List.mem_cons, not_or]
    exact ⟨by simp, ih (by simp)⟩
  | case4 mode word c next rest noSplit split ih =>
    have some : word ≠ [] := by
      intro none
      have fresh := (begun none).1
      simp [fresh] at split
    rw [List.mem_cons, not_or]
    exact ⟨some.symm, ih (by simp)⟩
  | case5 mode word c next rest noSplit noCut ih => exact ih (by simp)

theorem nil_not_mem_wordsOf (cs : List Char) : [] ∉ wordsOf cs := by
  rw [wordsOf, List.mem_flatMap]
  rintro ⟨piece, listed, among⟩
  have some : piece ≠ [] := by simpa using (List.mem_filter.mp listed).2
  exact nil_not_mem_humps (by simpa using some) among

theorem mapWide_lower_ne_nil (c : Char) : mapWide lowerRuns lowerExpansions c ≠ [] := by
  have images : ∀ entry ∈ lowerExpansions, entry.2 ≠ [] := by decide
  rw [mapWide]
  split
  next image found =>
    obtain ⟨before, after, listed, _⟩ := List.lookup_eq_some_iff.mp found
    have filled : image ≠ [] := images (c.toNat, image) (by simp [listed])
    simpa using filled
  · split <;> simp

theorem lowered_ne_nil {word : List Char} (some : word ≠ []) : lowered word ≠ [] := by
  fun_cases lowered word with
  | case1 => contradiction
  | case2 => simp
  | case3 c rest _ =>
    have first : lowerOf c ≠ [] := by
      rw [lowerOf]
      split
      · simp
      · exact mapWide_lower_ne_nil c
    simp [first]

theorem getLast?_intercalate {mark : Char} {sep : List Char} {words : List (List Char)}
    (filled : [] ∉ words) (plain : ∀ word ∈ words, mark ∉ word) :
    (sep.intercalate words).getLast? ≠ some mark := by
  induction words with
  | nil => simp
  | cons word rest ih =>
    rw [List.mem_cons, not_or] at filled
    rw [List.forall_mem_cons] at plain
    cases rest with
    | nil =>
      intro last
      exact plain.1 (List.mem_of_getLast? (by simpa using last))
    | cons next rest =>
      have later := ih filled.2 plain.2
      have some : sep.intercalate (next :: rest) ≠ [] := by
        cases rest with
        | nil => simpa using Ne.symm (List.ne_of_not_mem_cons filled.2)
        | cons _ _ =>
          rw [List.intercalate_cons_cons]
          simp [Ne.symm (List.ne_of_not_mem_cons filled.2)]
      rw [List.intercalate_cons_cons, List.getLast?_append_of_ne_nil _ some]
      exact later

theorem getLast?_snakeCase (s : String) : (snakeCase s).toList.getLast? ≠ some '_' := by
  rw [snakeCase, String.toList_ofList]
  refine getLast?_intercalate ?_ fun _ listed => ?_
  · rw [List.mem_map]
    rintro ⟨word, inside, none⟩
    have some : word ≠ [] := fun same => nil_not_mem_wordsOf _ (same ▸ inside)
    exact lowered_ne_nil some none
  · obtain ⟨word, inside, rfl⟩ := List.mem_map.mp listed
    exact foreign_underscore.not_mem_lowered fun c => isAlphanumeric_of_word inside

/-- A lower case letter stays, and others may become it. -/
theorem count_le_count_lowered {letter : Char} (small : lowerOf letter = [letter])
    (word : List Char) : word.count letter ≤ (lowered word).count letter := by
  fun_induction lowered word with
  | case1 => simp
  | case2 =>
    have apart : 'Σ' ≠ letter := by
      rintro rfl
      exact absurd small (by decide)
    simp [List.count_singleton, apart]
  | case3 c rest _ ih =>
    rw [List.count_append, List.count_cons]
    split
    next same =>
      obtain rfl : c = letter := by simpa using same
      rw [small, List.count_singleton_self]
      omega
    next => omega

theorem count_flatten_le_lowered {letter : Char} (small : lowerOf letter = [letter])
    (words : List (List Char)) :
    words.flatten.count letter ≤ (words.map lowered).flatten.count letter := by
  induction words with
  | nil => simp
  | cons word rest ih =>
    have first := count_le_count_lowered small word
    rw [List.map_cons, List.flatten_cons, List.flatten_cons, List.count_append, List.count_append]
    omega

theorem count_flatten_le_intercalate (letter : Char) (sep : List Char) (words : List (List Char)) :
    words.flatten.count letter ≤ (sep.intercalate words).count letter := by
  induction words with
  | nil => simp
  | cons word rest ih =>
    cases rest with
    | nil => simp
    | cons next rest =>
      rw [List.intercalate_cons_cons, List.flatten_cons, List.count_append, List.count_append,
        List.count_append]
      omega

theorem count_le_count_snakeCase {letter : Char} (small : lowerOf letter = [letter])
    (kept : isAlphanumeric letter = true) (s : String) :
    s.toList.count letter ≤ (snakeCase s).toList.count letter := by
  rw [snakeCase, String.toList_ofList]
  calc s.toList.count letter = (wordsOf s.toList).flatten.count letter := by
        rw [flatten_wordsOf, List.count_filter kept]
    _ ≤ ((wordsOf s.toList).map lowered).flatten.count letter := count_flatten_le_lowered small _
    _ ≤ _ := count_flatten_le_intercalate letter ['_'] _

/-- A text without underscores, led by anything, is not a call of some verb, led by a spelling that
keeps a letter of the verb. The text would end after the last underscore, so that its lead would
hold the spelling and the verb. -/
theorem lead_append_ne {lead bare spelt verb rest : List Char} {letter : Char} (plain : '_' ∉ bare)
    (mentions : letter ∈ verb) (keeps : lead.count letter ≤ spelt.count letter) :
    lead ++ bare ≠ spelt ++ '_' :: (verb ++ '_' :: rest) := by
  intro same
  have within : ∃ more, lead = (spelt ++ '_' :: verb ++ ['_']) ++ more := by
    have split : lead ++ bare = (spelt ++ '_' :: verb ++ ['_']) ++ rest := by simp [same]
    rcases List.append_eq_append_iff.mp split with ⟨tail, call, rfl⟩ | ⟨more, longer, _⟩
    · rcases List.eq_nil_or_concat tail with rfl | ⟨init, last, rfl⟩
      · exact ⟨[], by simpa using call.symm⟩
      · have ends : last = '_' := by
          have lasts := congrArg List.getLast? call
          simpa [← List.append_assoc, eq_comm] using lasts
        simp [ends] at plain
    · exact ⟨more, longer⟩
  obtain ⟨more, rfl⟩ := within
  have once : 0 < verb.count letter := List.count_pos_iff.mpr mentions
  simp only [List.count_append, List.count_cons] at keeps
  omega

end Typewright.Text
