import Typewright.Proofs.Results
import Typewright.Proofs.Words
import Typewright.Source.Ident

/-! How names are read as identifiers. A text of plain characters is read as one word only if it is
that word, so no two spellings make one identifier unless the escape of a reserved word makes it. -/
namespace Typewright.Source

/-- A character that belongs to the word around it: it neither parts words nor starts a comment, and
is no part of an escape. -/
def IsPlainChar (c : Char) : Prop := isGap c = false ∧ c ≠ '/' ∧ c ≠ '\ufeff' ∧ c ≠ '#'

def IsPlainText (text : String) : Prop := ∀ c ∈ text.toList, IsPlainChar c

/-- Beyond ASCII, code points without letters and digits, and to which no change of case leads. -/
def IsForeignRange (first last : Nat) : Prop :=
  0x80 ≤ first ∧ (∀ flip ∈ Text.wideAlphanumeric.flips, flip ≤ first ∨ last < flip) ∧
    Text.wideAlphanumeric.flips.countP (· ≤ first) % 2 = 0 ∧
    (∀ run ∈ Text.lowerRuns ++ Text.upperRuns,
      last < run.target ∨ run.target + (run.last - run.first) < first) ∧
    ∀ entry ∈ Text.lowerExpansions ++ Text.upperExpansions, ∀ n ∈ entry.2, n < first ∨ last < n

instance (first last : Nat) : Decidable (IsForeignRange first last) :=
  inferInstanceAs (Decidable (_ ∧ _))

theorem IsForeignRange.foreign {first last : Nat} (range : IsForeignRange first last) {c : Char}
    (above : first ≤ c.toNat) (below : c.toNat ≤ last) : Text.IsForeign c := by
  obtain ⟨wide, noFlip, even, noRun, noExpansion⟩ := range
  have apart : Text.isAscii c = false := by
    simp only [Text.isAscii, decide_eq_false_iff_not]
    omega
  have passed : Text.wideAlphanumeric.flips.countP (· ≤ c.toNat) =
      Text.wideAlphanumeric.flips.countP (· ≤ first) := by
    refine List.countP_congr fun flip listed => ?_
    have side := noFlip flip listed
    simp only [decide_eq_true_eq]
    omega
  have refused : Text.isAlphanumeric c = false := by
    simp [Text.isAlphanumeric, apart, Text.CharSet.contains, passed, even]
  refine ⟨refused, by omega, fun run listed => ?_, fun entry listed among => ?_⟩
  · have side := noRun run listed
    simp only [Text.CaseRun.Avoids]
    omega
  · have side := noExpansion entry listed _ among
    omega

theorem foreign_gap {c : Char} (gap : isGap c = true) : Text.IsForeign c := by
  have ascii : ∀ n ∈ [0x9, 0xa, 0xb, 0xc, 0xd, 0x20], Text.IsForeign (Char.ofNat n) := by
    decide +kernel
  have latin : IsForeignRange 0x85 0xa0 := by decide +kernel
  have ogham : IsForeignRange 0x1680 0x1680 := by decide +kernel
  have general : IsForeignRange 0x2000 0x205f := by decide +kernel
  have ideographic : IsForeignRange 0x3000 0x3000 := by decide +kernel
  have left : '\u200e'.toNat = 0x200e := rfl
  have right : '\u200f'.toNat = 0x200f := rfl
  simp only [isGap, Text.isBlank, Bool.or_eq_true, Bool.and_eq_true, decide_eq_true_eq,
    beq_iff_eq, ← Char.toNat_inj, left, right] at gap
  have place : c.toNat ∈ [0x9, 0xa, 0xb, 0xc, 0xd, 0x20] ∨ (0x85 ≤ c.toNat ∧ c.toNat ≤ 0xa0) ∨
      c.toNat = 0x1680 ∨ (0x2000 ≤ c.toNat ∧ c.toNat ≤ 0x205f) ∨ c.toNat = 0x3000 := by
    simp only [List.mem_cons, List.not_mem_nil, or_false]
    omega
  rcases place with low | ⟨above, below⟩ | same | ⟨above, below⟩ | same
  · exact Char.ofNat_toNat c ▸ ascii _ low
  · exact latin.foreign above below
  · exact ogham.foreign (by omega) (by omega)
  · exact general.foreign above below
  · exact ideographic.foreign (by omega) (by omega)

/-- A text without foreign marks is plain. -/
theorem plainText_of_foreign {text : String}
    (apart : ∀ mark, Text.IsForeign mark → mark ≠ '_' → mark ∉ text.toList) : IsPlainText text := by
  intro c among
  have never {mark : Char} (foreign : Text.IsForeign mark) (other : mark ≠ '_') : c ≠ mark := by
    rintro rfl
    exact apart c foreign other among
  refine ⟨?_, never Text.foreign_slash (by decide), never (by decide +kernel) (by decide),
    never (by decide +kernel) (by decide)⟩
  by_contra gap
  have foreign := foreign_gap ((Bool.not_eq_false _).mp gap)
  have other : c ≠ '_' := by
    rintro rfl
    exact gap rfl
  exact never foreign other rfl

theorem plainText_upperCamel (s : String) : IsPlainText (Text.upperCamel s) :=
  plainText_of_foreign fun _ foreign _ => foreign.not_mem_upperCamel s

theorem plainText_snakeCase (s : String) : IsPlainText (Text.snakeCase s) :=
  plainText_of_foreign fun _ foreign other => foreign.not_mem_snakeCase other s

section Lexer

variable {c : Char} {rest cs : List Char} {given : List Lexeme} {text word : String} {width : Nat}

theorem lexemesFrom_eq_drop (width : Nat) (cs : List Char) :
    lexemesFrom width cs = lexemesFrom 0 (cs.drop width) := by
  induction cs generalizing width with
  | nil => cases width <;> rfl
  | cons c rest ih =>
    cases width with
    | zero => rfl
    | succ width => exact ih width

theorem commentAt_eq_none (plain : c ≠ '/') : commentAt (c :: rest) = none := by
  unfold commentAt
  split <;> simp_all

theorem exists_lexeme (plain : IsPlainChar c) (read : lexemesFrom 0 (c :: rest) = some given) :
    ∃ lexeme width later, lexemeAt c rest = some (lexeme, width) ∧
      lexemesFrom (width - 1) rest = some later ∧ given = lexeme :: later := by
  obtain ⟨apart, slash, _, _⟩ := plain
  rw [lexemesFrom, if_neg (by simp [apart]), commentAt_eq_none slash] at read
  obtain ⟨⟨lexeme, width⟩, first, read⟩ := Option.bind_eq_some_iff.mp read
  obtain ⟨later, rest, read⟩ := Option.bind_eq_some_iff.mp read
  exact ⟨lexeme, width, later, first, rest, (Option.some.inj read).symm⟩

theorem eq_nil_of_lexemesFrom (plain : ∀ c ∈ cs, IsPlainChar c)
    (read : lexemesFrom 0 cs = some []) : cs = [] := by
  cases cs with
  | nil => rfl
  | cons c rest =>
    obtain ⟨_, _, _, _, _, same⟩ := exists_lexeme (plain c (.head _)) read
    contradiction

theorem quotedAt_ne_word : quotedAt cs ≠ some (.word word, width) := by
  intro read
  simp only [quotedAt] at read
  split at read
  all_goals
    obtain ⟨_, _, same⟩ := Option.bind_eq_some_iff.mp read
    simp [pure] at same

theorem wordWidth_pos (read : wordWidth cs = some width) : 0 < width := by
  rw [wordWidth.eq_def] at read
  split at read
  · simp only at read
    split at read
    · contradiction
    · have := Option.some.inj read
      omega
  · split at read
    · contradiction
    next some =>
      have := Option.some.inj read
      omega

theorem bracketAt_ne_word : bracketAt c ≠ some (.word word) := by
  intro read
  rw [bracketAt.eq_def] at read
  split at read <;> simp at read

/-- A word is made up of the first characters of the text. -/
theorem word_of_lexemeAt (read : lexemeAt c rest = some (.word word, width)) :
    0 < width ∧ word = String.ofList ((c :: rest).take width) := by
  have mapped {read : Option Nat} {build : Nat → Lexeme × Nat}
      (same : read.map build = some (.word word, width)) :
      ∃ n, read = some n ∧ build n = (.word word, width) := Option.map_eq_some_iff.mp same
  rw [lexemeAt] at read
  split at read
  next bracket _ found =>
    obtain ⟨rfl, _⟩ := Prod.mk.inj (Option.some.inj read)
    exact absurd found bracketAt_ne_word
  next quoted found => exact absurd (found.trans read) quotedAt_ne_word
  next =>
    split at read
    · obtain ⟨_, _, same⟩ := mapped read
      simp at same
    · split at read
      · obtain ⟨_, _, same⟩ := mapped read
        simp at same
      · split at read
        · simp at read
        · split at read
          · contradiction
          · obtain ⟨n, found, same⟩ := mapped read
            obtain ⟨spelt, rfl⟩ : _ ∧ n = width := by simpa using same
            exact ⟨wordWidth_pos found, spelt.symm⟩

/-- The words of a text without comments are parts of the text. -/
theorem mem_of_lexemesFrom {cs : List Char} {width : Nat} {given : List Lexeme} {word : String}
    (whole : '/' ∉ cs) (read : lexemesFrom width cs = some given) (listed : .word word ∈ given) :
    ∀ c ∈ word.toList, c ∈ cs := by
  induction cs generalizing width given with
  | nil =>
    have none : given = [] := by
      cases width <;> simpa [lexemesFrom, eq_comm] using read
    simp [none] at listed
  | cons d rest ih =>
    rw [List.mem_cons, not_or] at whole
    have later {width : Nat} {given : List Lexeme} (read : lexemesFrom width rest = some given)
        (listed : .word word ∈ given) : ∀ c ∈ word.toList, c ∈ d :: rest :=
      fun c among => .tail _ (ih whole.2 read listed c among)
    cases width with
    | succ width => exact later read listed
    | zero =>
      rw [lexemesFrom] at read
      split at read
      · exact later read listed
      · rw [commentAt_eq_none (Ne.symm whole.1)] at read
        obtain ⟨⟨lexeme, width⟩, first, read⟩ := Option.bind_eq_some_iff.mp read
        obtain ⟨following, rest, same⟩ := Option.bind_eq_some_iff.mp read
        obtain rfl := Option.some.inj same
        rcases List.mem_cons.mp listed with rfl | listed
        · obtain ⟨_, rfl⟩ := word_of_lexemeAt first
          intro c among
          exact List.mem_of_mem_take (by simpa using among)
        · exact later rest listed

theorem eq_of_lexemes (plain : IsPlainText text) (read : lexemes text = some [.word word]) :
    word = text := by
  obtain ⟨given, read, checked⟩ := Option.bind_eq_some_iff.mp read
  obtain rfl : given = [.word word] := by
    split at checked
    · exact Option.some.inj checked
    · contradiction
  cases chars : text.toList with
  | nil => simp [chars, lexemesFrom] at read
  | cons c rest =>
    have all : ∀ d ∈ c :: rest, IsPlainChar d := chars ▸ plain
    rw [List.forall_mem_cons] at all
    have noMark : c ≠ '\ufeff' := all.1.2.2.1
    rw [chars, if_neg (by simpa using noMark)] at read
    obtain ⟨lexeme, width, later, first, rest, same⟩ := exists_lexeme all.1 read
    obtain ⟨rfl, rfl⟩ : Lexeme.word word = lexeme ∧ [] = later := by simpa using same
    obtain ⟨some, rfl⟩ := word_of_lexemeAt first
    rw [lexemesFrom_eq_drop] at rest
    have whole := eq_nil_of_lexemesFrom (fun d among => all.2 d (List.mem_of_mem_drop among)) rest
    rw [List.drop_eq_nil_iff] at whole
    rw [List.take_of_length_le (by simp; omega), ← chars, String.ofList_toList]

end Lexer

namespace Ident

variable {name other : String} {ident : Ident}

theorem ofName_cases (spelt : ofName name = .ok ident) :
    (name ∈ pathWords ∧ ident.text = name ++ "_") ∨
    (name ∈ reservedWords ∧ ident.text = "r#" ++ name) ∨
    (name ∉ pathWords ∧ name ∉ reservedWords ∧ lexemes name = some [.word ident.text] ∧
      isIdentWord ident.text = true) := by
  rw [ofName] at spelt
  split at spelt
  next own =>
    obtain rfl := Except.ok.inj spelt
    exact .inl ⟨own, rfl⟩
  next noPath =>
    split at spelt
    next reserved =>
      obtain rfl := Except.ok.inj spelt
      exact .inr (.inl ⟨reserved, rfl⟩)
    next unreserved =>
      split at spelt
      next word read =>
        split at spelt
        next fits =>
          obtain rfl := Except.ok.inj spelt
          exact .inr (.inr ⟨noPath, unreserved, read, fits⟩)
        next => contradiction
      next => contradiction

/-- A plain name that is neither a path word nor reserved is its own identifier. -/
theorem text_of_plain (plain : IsPlainText name) (spelt : ofName name = .ok ident) :
    ident.text = if name ∈ pathWords then name ++ "_" else
      if name ∈ reservedWords then "r#" ++ name else name := by
  rcases ofName_cases spelt with ⟨own, text⟩ | ⟨reserved, text⟩ | ⟨noPath, unreserved, read, _⟩
  · rw [if_pos own, text]
  · have apart : ∀ word ∈ reservedWords, word ∉ pathWords := by decide
    rw [if_neg (apart name reserved), if_pos reserved, text]
  · rw [if_neg noPath, if_neg unreserved, eq_of_lexemes plain read]

/-- The marks of an escape tell which words it stands for. -/
theorem escaped_iff (plain : IsPlainText name) (bare : '_' ∉ name.toList)
    (spelt : ofName name = .ok ident) :
    ('_' ∈ ident.text.toList ↔ name ∈ pathWords) ∧ ('#' ∈ ident.text.toList ↔ name ∈ reservedWords) := by
  have noHash : '#' ∉ name.toList := fun among => (plain _ among).2.2.2 rfl
  have apart : ∀ word ∈ pathWords, word ∉ reservedWords := by decide
  rw [text_of_plain plain spelt]
  split
  next path => simp [path, apart name path, noHash]
  next noPath =>
    split
    next reserved => simp [noPath, reserved, bare]
    next unreserved => simp [noPath, unreserved, bare, noHash]

/-- Names without underscores are told apart by their identifiers. -/
theorem eq_of_ofName (plain : IsPlainText name) (plainToo : IsPlainText other)
    (bare : '_' ∉ name.toList) (bareToo : '_' ∉ other.toList) (spelt : ofName name = .ok ident)
    (also : ofName other = .ok ident) : name = other := by
  obtain ⟨path, reserved⟩ := escaped_iff plain bare spelt
  obtain ⟨pathToo, reservedToo⟩ := escaped_iff plainToo bareToo also
  have same := (text_of_plain plain spelt).symm.trans (text_of_plain plainToo also)
  simp only [← path, ← pathToo, ← reserved, ← reservedToo] at same
  split at same
  · exact String.append_left_inj _ |>.mp same
  · split at same
    · exact String.append_right_inj _ |>.mp same
    · exact same

end Ident

end Typewright.Source
