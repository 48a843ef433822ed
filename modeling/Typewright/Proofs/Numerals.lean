import Mathlib.Algebra.Field.Rat
import Mathlib.Data.List.TakeWhile
import Mathlib.Data.Nat.Digits.Defs
import Typewright.Proofs.Conversion

/-! Decimal numerals, part by part. The texts that the numeric shape takes are those that a numeral
spells and, beyond these, the words for the infinities and for no number. -/
namespace Typewright

namespace Text

inductive Sign where
  | plus
  | minus
deriving DecidableEq

def Sign.spell : Option Sign → List Char
  | none => []
  | some plus => ['+']
  | some minus => ['-']

@[ext]
structure Exponent where
  mark : Char
  sign : Option Sign
  digits : List Char
  marked : mark = 'e' ∨ mark = 'E'
  each : ∀ c ∈ digits, c.isDigit = true
  given : digits ≠ []

/-- Digits with at most one point among them, and one digit at least. -/
@[ext]
structure Numeral where
  sign : Option Sign
  whole : List Char
  /-- What stands after the point, if there is one. -/
  fraction : Option (List Char)
  exponent : Option Exponent
  each : ∀ c ∈ whole ++ fraction.getD [], c.isDigit = true
  given : whole ++ fraction.getD [] ≠ []

def Exponent.spell (exponent : Exponent) : List Char :=
  exponent.mark :: (Sign.spell exponent.sign ++ exponent.digits)

namespace Numeral

def tail (numeral : Numeral) : List Char := numeral.exponent.elim [] Exponent.spell

def body (numeral : Numeral) : List Char :=
  numeral.whole ++ numeral.fraction.elim [] ('.' :: ·) ++ numeral.tail

def spell (numeral : Numeral) : List Char := Sign.spell numeral.sign ++ numeral.body

end Numeral

def digitsValue (digits : List Char) : Nat :=
  Nat.ofDigits 10 (digits.reverse.map fun c => c.toNat - '0'.toNat)

def Sign.factor : Option Sign → Int
  | some minus => -1
  | _ => 1

def Exponent.value (exponent : Exponent) : Int :=
  Sign.factor exponent.sign * digitsValue exponent.digits

/-- Every digit after the point counts a tenth of the one before it. -/
def Numeral.value (numeral : Numeral) : Rat :=
  Sign.factor numeral.sign * digitsValue (numeral.whole ++ numeral.fraction.getD []) *
    10 ^ (numeral.exponent.elim 0 Exponent.value - (numeral.fraction.getD []).length)

def Denotes (cs : List Char) (value : Rat) : Prop :=
  ∃ numeral : Numeral, numeral.spell = cs ∧ numeral.value = value

/-- A word for an infinity or for no number, in any case and perhaps under a sign. -/
def NamesNoNumber (cs : List Char) : Prop :=
  ∃ sign word letters, word ∈ ["inf", "infinity", "nan"] ∧ letters.map Char.toLower = word.toList ∧
    cs = Sign.spell sign ++ letters

def Stops (cs : List Char) : Prop := ∀ c ∈ cs.head?, c.isDigit = false

def Unsigned (cs : List Char) : Prop := ∀ c ∈ cs.head?, c ≠ '+' ∧ c ≠ '-'

variable {cs digits others rest more : List Char} {c : Char}

theorem takeWhile_digits (each : ∀ c ∈ digits, c.isDigit = true) (stops : Stops rest) :
    (digits ++ rest).takeWhile Char.isDigit = digits := by
  rw [List.takeWhile_append_of_pos each]
  cases rest with
  | nil => simp
  | cons c _ => simp [stops c rfl]

theorem dropWhile_digits (each : ∀ c ∈ digits, c.isDigit = true) (stops : Stops rest) :
    (digits ++ rest).dropWhile Char.isDigit = rest := by
  rw [List.dropWhile_append_of_pos each]
  cases rest with
  | nil => simp
  | cons c _ => simp [stops c rfl]

theorem isDigit_of_mem_takeWhile (cs : List Char) :
    ∀ c ∈ cs.takeWhile Char.isDigit, c.isDigit = true :=
  fun _ among => List.mem_takeWhile_imp among

theorem unsigned_of_digits (each : ∀ c ∈ digits, c.isDigit = true) : Unsigned digits := by
  intro c first
  have digit := each c (List.mem_of_mem_head? first)
  constructor <;> (rintro rfl; contradiction)

theorem dropSign_of_unsigned (bare : Unsigned cs) : dropSign cs = cs := by
  rw [dropSign.eq_def]
  split
  · exact absurd rfl (bare _ rfl).1
  · exact absurd rfl (bare _ rfl).2
  · rfl

theorem dropSign_spell (sign : Option Sign) (bare : Unsigned cs) :
    dropSign (Sign.spell sign ++ cs) = cs := by
  obtain _ | _ | _ := sign
  · exact dropSign_of_unsigned bare
  · rfl
  · rfl

theorem exists_sign (cs : List Char) : ∃ sign, cs = Sign.spell sign ++ dropSign cs := by
  rw [dropSign.eq_def]
  split
  · exact ⟨some .plus, rfl⟩
  · exact ⟨some .minus, rfl⟩
  · exact ⟨none, rfl⟩

theorem isExponent_iff :
    isExponent cs = true ↔ ∃ exponent : Option Exponent, exponent.elim [] Exponent.spell = cs := by
  constructor
  · intro accepted
    cases cs with
    | nil => exact ⟨none, rfl⟩
    | cons c rest =>
      simp only [isExponent, Bool.and_eq_true, Bool.or_eq_true, beq_iff_eq, bne_iff_ne,
        List.all_eq_true] at accepted
      obtain ⟨⟨marked, given⟩, each⟩ := accepted
      obtain ⟨sign, same⟩ := exists_sign rest
      exact ⟨some ⟨c, sign, dropSign rest, marked, each, given⟩, congrArg (c :: ·) same.symm⟩
  · rintro ⟨_ | ⟨mark, sign, digits, marked, each, given⟩, rfl⟩
    · rfl
    · simp only [Option.elim_some, Exponent.spell, isExponent,
        dropSign_spell sign (unsigned_of_digits each)]
      simpa [marked, given] using each

namespace Numeral

variable (numeral : Numeral)

theorem tail_stops : Stops numeral.tail := by
  intro c first
  rw [tail] at first
  cases given : numeral.exponent with
  | none => simp [given] at first
  | some exponent =>
    simp only [given, Option.elim_some, Exponent.spell, List.head?_cons,
      Option.mem_some_iff] at first
    subst first
    rcases exponent.marked with marked | marked <;> rw [marked] <;> decide

theorem tail_ne_point : numeral.tail ≠ '.' :: rest := by
  rw [tail]
  cases numeral.exponent with
  | none => nofun
  | some exponent =>
    rintro same
    obtain ⟨pointed, _⟩ := List.cons.inj same
    rcases exponent.marked with marked | marked <;> (rw [marked] at pointed; contradiction)

theorem each_whole : ∀ c ∈ numeral.whole, c.isDigit = true :=
  fun c among => numeral.each c (List.mem_append_left _ among)

theorem point_stops : Stops (numeral.fraction.elim [] ('.' :: ·) ++ numeral.tail) := by
  cases given : numeral.fraction with
  | none => exact numeral.tail_stops
  | some _ =>
    rintro c ⟨⟩
    rfl

theorem head_body : ∃ c rest, numeral.body = c :: rest ∧ (c.isDigit = true ∨ c = '.') := by
  have each := numeral.each_whole
  have given := numeral.given
  rw [body]
  cases whole : numeral.whole with
  | cons c rest => exact ⟨c, _, rfl, .inl (each c (whole ▸ .head _))⟩
  | nil =>
    cases fraction : numeral.fraction with
    | some digits => exact ⟨'.', _, rfl, .inr rfl⟩
    | none => simp [whole, fraction] at given

theorem unsigned_body : Unsigned numeral.body := by
  obtain ⟨c, rest, same, begins⟩ := numeral.head_body
  rw [same]
  rintro _ ⟨⟩
  constructor <;> (rintro rfl; revert begins; decide)

theorem takeWhile_body : numeral.body.takeWhile Char.isDigit = numeral.whole := by
  rw [body, List.append_assoc, takeWhile_digits numeral.each_whole numeral.point_stops]

theorem dropWhile_body : numeral.body.dropWhile Char.isDigit =
    numeral.fraction.elim [] ('.' :: ·) ++ numeral.tail := by
  rw [body, List.append_assoc, dropWhile_digits numeral.each_whole numeral.point_stops]

theorem isExponent_tail : isExponent numeral.tail = true :=
  isExponent_iff.mpr ⟨numeral.exponent, rfl⟩

theorem isDecimal_body : isDecimal numeral.body = true := by
  have given := numeral.given
  have each := numeral.each
  rw [isDecimal, takeWhile_body, dropWhile_body]
  cases fraction : numeral.fraction with
  | some digits =>
    rw [fraction] at given each
    have inside : ∀ c ∈ digits, c.isDigit = true := fun c among =>
      each c (List.mem_append_right _ among)
    simp only [Option.elim_some, List.cons_append, takeWhile_digits inside numeral.tail_stops,
      dropWhile_digits inside numeral.tail_stops, isExponent_tail]
    simpa [or_iff_not_imp_left] using given
  | none =>
    rw [fraction] at given
    simp only [Option.elim_none, List.nil_append]
    split
    next rest pointed => exact absurd pointed numeral.tail_ne_point
    next => simpa [isExponent_tail] using given

end Numeral

/-- The recognizer accepts what some numeral spells, its sign apart. -/
theorem isDecimal_iff : isDecimal cs = true ↔ ∃ numeral : Numeral, numeral.body = cs := by
  constructor
  · intro accepted
    rw [isDecimal] at accepted
    split at accepted
    next rest pointed =>
      rw [Bool.and_eq_true, isExponent_iff] at accepted
      obtain ⟨given, exponent, ends⟩ := accepted
      refine ⟨⟨none, cs.takeWhile Char.isDigit, some (rest.takeWhile Char.isDigit), exponent,
        ?_, ?_⟩, ?_⟩
      · intro c among
        exact (List.mem_append.mp among).elim (isDigit_of_mem_takeWhile _ c)
          (isDigit_of_mem_takeWhile _ c)
      · simpa [or_iff_not_imp_left] using given
      · rw [Numeral.body, Numeral.tail, ends, Option.elim_some, List.append_assoc,
          List.cons_append, List.takeWhile_append_dropWhile, ← pointed,
          List.takeWhile_append_dropWhile]
    next rest apart =>
      rw [Bool.and_eq_true, isExponent_iff] at accepted
      obtain ⟨given, exponent, ends⟩ := accepted
      refine ⟨⟨none, cs.takeWhile Char.isDigit, none, exponent, ?_, ?_⟩, ?_⟩
      · simpa using isDigit_of_mem_takeWhile cs
      · simpa using given
      · rw [Numeral.body, Numeral.tail, ends, Option.elim_none, List.append_nil,
          List.takeWhile_append_dropWhile]
  · rintro ⟨numeral, rfl⟩
    exact numeral.isDecimal_body

theorem exists_spell_iff :
    (∃ numeral : Numeral, numeral.spell = cs) ↔ isDecimal (dropSign cs) = true := by
  rw [isDecimal_iff]
  constructor
  · rintro ⟨numeral, rfl⟩
    exact ⟨numeral, (dropSign_spell _ numeral.unsigned_body).symm⟩
  · rintro ⟨numeral, same⟩
    obtain ⟨sign, signed⟩ := exists_sign cs
    refine ⟨{ numeral with sign }, ?_⟩
    rw [signed, ← same]
    rfl

theorem Sign.spell_injective : Function.Injective Sign.spell := by
  rintro (_ | _ | _) (_ | _ | _) same
  all_goals first | rfl | simp [Sign.spell] at same

theorem Exponent.spell_injective : Function.Injective Exponent.spell := by
  intro one two same
  obtain ⟨mark, same⟩ := List.cons.inj same
  have digits : one.digits = two.digits := by
    rw [← dropSign_spell one.sign (unsigned_of_digits one.each), same,
      dropSign_spell two.sign (unsigned_of_digits two.each)]
  rw [digits] at same
  exact Exponent.ext mark (Sign.spell_injective (List.append_cancel_right same)) digits

namespace Numeral

variable {one two : Numeral}

theorem exponent_inj (same : one.tail = two.tail) : one.exponent = two.exponent := by
  rw [tail, tail] at same
  cases first : one.exponent with
  | none => cases second : two.exponent <;> simp_all [Exponent.spell]
  | some exponent =>
    cases second : two.exponent with
    | none => simp [first, second, Exponent.spell] at same
    | some other =>
      rw [first, second] at same
      rw [Exponent.spell_injective same]

theorem each_fraction (numeral : Numeral) {digits : List Char}
    (given : numeral.fraction = some digits) : ∀ c ∈ digits, c.isDigit = true :=
  fun c among => numeral.each c (List.mem_append_right _ (by simpa [given] using among))

/-- What follows the digits in front tells the fraction from the exponent. -/
theorem fraction_inj (same : one.fraction.elim [] ('.' :: ·) ++ one.tail =
    two.fraction.elim [] ('.' :: ·) ++ two.tail) :
    one.fraction = two.fraction ∧ one.exponent = two.exponent := by
  cases first : one.fraction with
  | none =>
    cases second : two.fraction with
    | none => exact ⟨rfl, exponent_inj (by simpa [first, second] using same)⟩
    | some digits =>
      rw [first, second] at same
      exact absurd same one.tail_ne_point
  | some digits =>
    cases second : two.fraction with
    | none =>
      rw [first, second] at same
      exact absurd same.symm two.tail_ne_point
    | some others =>
      rw [first, second] at same
      have after : digits ++ one.tail = others ++ two.tail := (List.cons.inj same).2
      have cut : digits = others := by
        rw [← takeWhile_digits (one.each_fraction first) one.tail_stops, after,
          takeWhile_digits (two.each_fraction second) two.tail_stops]
      rw [cut] at after
      exact ⟨congrArg some cut, exponent_inj (List.append_cancel_left after)⟩

theorem spell_injective : Function.Injective spell := by
  intro one two same
  have body : one.body = two.body := by
    rw [← dropSign_spell one.sign one.unsigned_body, ← dropSign_spell two.sign two.unsigned_body]
    exact congrArg dropSign same
  rw [spell, spell, body] at same
  have sign := Sign.spell_injective (List.append_cancel_right same)
  have whole : one.whole = two.whole := by rw [← takeWhile_body, body, takeWhile_body]
  have after : one.fraction.elim [] ('.' :: ·) ++ one.tail =
      two.fraction.elim [] ('.' :: ·) ++ two.tail := by
    rw [← dropWhile_body, body, dropWhile_body]
  obtain ⟨fraction, exponent⟩ := fraction_inj after
  exact Numeral.ext sign whole fraction exponent

end Numeral

theorem denotes_unique (spelt : ∃ numeral : Numeral, numeral.spell = cs) :
    ∃! value, Denotes cs value := by
  obtain ⟨numeral, rfl⟩ := spelt
  refine ⟨numeral.value, ⟨numeral, rfl, rfl⟩, ?_⟩
  rintro _ ⟨other, same, rfl⟩
  rw [Numeral.spell_injective same]

theorem denotes_iff :
    (∃ numeral : Numeral, numeral.spell = cs) ↔ ∃! value, Denotes cs value := by
  refine ⟨denotes_unique, ?_⟩
  rintro ⟨_, ⟨numeral, spelt, _⟩, _⟩
  exact ⟨numeral, spelt⟩

theorem toLower_of_isDigit (digit : c.isDigit = true) : c.toLower = c := by
  have most : c.val ≤ '9'.val := of_decide_eq_true (Bool.and_eq_true_iff.mp digit).2
  exact dif_neg fun upper => absurd (UInt32.le_trans upper.1 most) (by decide)

theorem head_of_word {word : String} {letters : List Char}
    (among : word ∈ ["inf", "infinity", "nan"]) (same : letters.map Char.toLower = word.toList) :
    ∃ c rest, letters = c :: rest ∧ c.isDigit = false ∧ c ≠ '.' ∧ c ≠ '+' ∧ c ≠ '-' := by
  have begins : letters.head?.map Char.toLower = word.toList.head? := by rw [← same, List.head?_map]
  have small : word.toList.head? = some 'i' ∨ word.toList.head? = some 'n' := by
    clear same begins
    revert word
    decide
  cases letters with
  | nil => rcases small with small | small <;> simp [small] at begins
  | cons c rest =>
    have letter : c.toLower = 'i' ∨ c.toLower = 'n' := by
      rcases small with small | small <;> simp_all
    refine ⟨c, rest, rfl, ?_, ?_, ?_, ?_⟩
    · refine Bool.eq_false_iff.mpr fun digit => ?_
      rw [toLower_of_isDigit digit] at letter
      rcases letter with rfl | rfl <;> contradiction
    all_goals
      rintro rfl
      revert letter
      decide

theorem unsigned_of_word {word : String} {letters : List Char}
    (among : word ∈ ["inf", "infinity", "nan"]) (same : letters.map Char.toLower = word.toList) :
    Unsigned letters := by
  obtain ⟨c, rest, rfl, -, -, plus, minus⟩ := head_of_word among same
  rintro _ ⟨⟩
  exact ⟨plus, minus⟩

theorem isNonFinite_iff : isNonFinite (dropSign cs) = true ↔ NamesNoNumber cs := by
  simp only [isNonFinite, List.any_eq_true, beq_iff_eq]
  constructor
  · rintro ⟨word, among, same⟩
    obtain ⟨sign, signed⟩ := exists_sign cs
    exact ⟨sign, word, dropSign cs, among, same.symm, signed⟩
  · rintro ⟨sign, word, letters, among, same, rfl⟩
    exact ⟨word, among, by rw [dropSign_spell sign (unsigned_of_word among same), same]⟩

/-- No word is a numeral as well. -/
theorem isDecimal_of_namesNoNumber (named : NamesNoNumber cs) :
    isDecimal (dropSign cs) = false := by
  obtain ⟨sign, word, letters, among, same, rfl⟩ := named
  rw [dropSign_spell sign (unsigned_of_word among same)]
  refine Bool.eq_false_iff.mpr fun accepted => ?_
  obtain ⟨numeral, spelt⟩ := isDecimal_iff.mp accepted
  obtain ⟨c, rest, rfl, apart, pointless, -⟩ := head_of_word among same
  obtain ⟨d, more, begun, begins⟩ := numeral.head_body
  obtain ⟨rfl, rfl⟩ := List.cons.inj (spelt.symm.trans begun)
  rcases begins with digit | pointed
  · rw [apart] at digit
    contradiction
  · exact pointless pointed

end Text

open Text

/-- The numeric shape takes a text if, white space around it apart, some numeral spells it, and then
it denotes one finite number. It takes the words for the infinities and for no number as well, which
no numeral spells. A cast to a decimal or to a big integer goes by that shape. -/
theorem Shape.numeric_accepts_iff (text : String) :
    (Shape.numeric.accepts (.string text) = true ↔
      (∃ numeral : Numeral, numeral.spell = (trim text).toList) ∨
        NamesNoNumber (trim text).toList) ∧
    ((∃ numeral : Numeral, numeral.spell = (trim text).toList) ↔
      ∃! value, Denotes (trim text).toList value) ∧
    ¬ ((∃ numeral : Numeral, numeral.spell = (trim text).toList) ∧
      NamesNoNumber (trim text).toList) ∧
    ∀ (registry : Registry) path target nullable,
      (registry.convert (.string text) path [.cast target (.ofScalar "Decimal") nullable]).isOk =
        Shape.numeric.accepts (.string text) ∧
      (registry.convert (.string text) path [.cast target (.ofScalar "BigInt") nullable]).isOk =
        Shape.numeric.accepts (.string text) := by
  have cast : ∀ path nullable, (castValue path .numeric nullable (.string text)).isOk =
      Shape.numeric.accepts (.string text) := by
    intro path nullable
    rw [castValue, if_neg (by simp [Value.isNull])]
    split
    next accepted => exact accepted.symm
    next refused => exact (Bool.eq_false_iff.mpr refused).symm
  refine ⟨?_, denotes_iff, ?_, fun registry path target nullable => ?_⟩
  · rw [exists_spell_iff, ← isNonFinite_iff, Shape.accepts, isNumeral, Bool.or_eq_true]
  · rintro ⟨spelt, named⟩
    rw [exists_spell_iff, isDecimal_of_namesNoNumber named] at spelt
    contradiction
  · rw [Registry.convert_cast, Registry.convert_cast]
    exact ⟨cast path nullable, cast path nullable⟩

example : Denotes "-1.5e2".toList (-150) :=
  ⟨⟨some .minus, ['1'], some ['5'],
    some ⟨'e', none, ['2'], .inl rfl, List.all_eq_true.mp rfl, nofun⟩,
    List.all_eq_true.mp rfl, nofun⟩, by decide, by decide +kernel⟩

/-- No numeral spells `nan`, and the shape takes it all the same. -/
theorem Shape.numeric_accepts_nan :
    Shape.numeric.accepts (.string "nan") = true ∧
    ¬ ∃ numeral : Numeral, numeral.spell = (trim "nan").toList := by
  rw [exists_spell_iff]
  decide +kernel

end Typewright
