import Typewright.Proofs.Files

/-! Names of items that belong to one field. Where the container and the field are single words, the
name tells both words and the role, so none of these names is ever refused. -/
namespace Typewright

namespace Text

variable {c d : Char} {cs rest word other w x v y : List Char} {s t : String}

/-- A capital letter of ASCII, and small ones after it. -/
def isSingleWord : List Char → Bool
  | [] => false
  | c :: rest => c.isUpper && rest.all Char.isLower

theorem exists_of_singleWord (single : isSingleWord word = true) :
    ∃ c rest, word = c :: rest ∧ c.isUpper = true ∧ ∀ d ∈ rest, d.isLower = true := by
  cases word with
  | nil => contradiction
  | cons c rest => exact ⟨c, rest, rfl, by simpa [isSingleWord] using single⟩

/-- What holds of every ASCII character holds of the letters of single words. -/
theorem ascii_induction (holds : Char → Prop) (each : ∀ n : Fin 0x80, holds (Char.ofNat n))
    (letter : c.isUpper = true ∨ c.isLower = true) : holds c := by
  have small : c.toNat < 0x80 := by
    rcases letter with upper | lower
    · have most : c.val ≤ 'Z'.val := (of_decide_eq_true upper).2
      exact Nat.lt_of_le_of_lt (UInt32.le_iff_toNat_le.mp most) (by decide)
    · have most : c.val ≤ 'z'.val := of_decide_eq_true (Bool.and_eq_true_iff.mp lower).2
      exact Nat.lt_of_le_of_lt (UInt32.le_iff_toNat_le.mp most) (by decide)
  exact Char.ofNat_toNat c ▸ each ⟨c.toNat, small⟩

theorem isUpper_classes (upper : c.isUpper = true) :
    isUppercase c = true ∧ isLowercase c = false ∧ isAlphanumeric c = true ∧
      lowerOf c = [c.toLower] ∧ upperOf c = [c] ∧ c.toLower.toUpper = c ∧ c.isLower = false :=
  ascii_induction (fun c => c.isUpper = true → isUppercase c = true ∧
    isLowercase c = false ∧ isAlphanumeric c = true ∧ lowerOf c = [c.toLower] ∧ upperOf c = [c] ∧
    c.toLower.toUpper = c ∧ c.isLower = false) (by decide) (.inl upper) upper

theorem isLower_classes (lower : c.isLower = true) :
    isUppercase c = false ∧ isLowercase c = true ∧ isAlphanumeric c = true ∧ lowerOf c = [c] :=
  ascii_induction (fun c => c.isLower = true → isUppercase c = false ∧
    isLowercase c = true ∧ isAlphanumeric c = true ∧ lowerOf c = [c]) (by decide) (.inr lower) lower

theorem alphanumeric_of_singleWord (single : isSingleWord word = true) :
    ∀ d ∈ word, isAlphanumeric d = true := by
  obtain ⟨c, rest, rfl, upper, lower⟩ := exists_of_singleWord single
  rw [List.forall_mem_cons]
  exact ⟨(isUpper_classes upper).2.2.1, fun d among => (isLower_classes (lower d among)).2.2.1⟩

/-- Small letters go on with the word under way. -/
theorem humps_of_lower {mode : Mode} (lower : ∀ d ∈ rest, d.isLower = true) :
    humps mode word rest = [word ++ rest] := by
  fun_induction humps mode word rest with
  | case1 => simp
  | case2 => rfl
  | case3 mode word c next rest split _ =>
    simp [isLower_classes (lower next (by simp))] at split
  | case4 mode word c next rest _ split _ =>
    simp [isLower_classes (lower c (by simp))] at split
  | case5 mode word c next rest _ _ ih =>
    rw [ih fun d among => lower d (.tail _ among)]
    simp

theorem humps_append {mode : Mode} (some : rest ≠ []) (lower : ∀ d ∈ rest, d.isLower = true)
    (upper : c.isUpper = true) (more : List Char) :
    humps mode word (rest ++ c :: more) = (word ++ rest) :: humps .fresh [] (c :: more) := by
  induction rest generalizing mode word with
  | nil => contradiction
  | cons d rest ih =>
    rw [List.forall_mem_cons] at lower
    have after : mode.after d = .lower := by simp [Mode.after, isLower_classes lower.1]
    cases rest with
    | nil => simp [humps, after, isUpper_classes upper]
    | cons next rest =>
      have small := isLower_classes (lower.2 next (.head _))
      have noCapital := (isLower_classes lower.1).1
      rw [List.cons_append, List.cons_append, humps, if_neg (by simp [small]),
        if_neg (by simp [noCapital]), ← List.cons_append, ih (by simp) lower.2]
      simp

theorem humps_of_singleWord (single : isSingleWord word = true) :
    humps .fresh [] word = [word] := by
  obtain ⟨c, rest, rfl, upper, lower⟩ := exists_of_singleWord single
  cases rest with
  | nil => rfl
  | cons next rest =>
    have small := isLower_classes (lower next (.head _))
    rw [humps, if_neg (by simp [small]), if_neg (by simp), humps_of_lower lower]
    rfl

/-- Two single words on end stay apart, unless each is a single letter. -/
theorem humps_pair (single : isSingleWord w = true) (also : isSingleWord x = true) :
    humps .fresh [] (w ++ x) = [w, x] ∨
      ∃ c d, w = [c] ∧ x = [d] ∧ humps .fresh [] (w ++ x) = [[c, d]] := by
  obtain ⟨c, rest, rfl, upper, lower⟩ := exists_of_singleWord single
  obtain ⟨d, more, rfl, upperToo, lowerToo⟩ := exists_of_singleWord also
  have capital := isUpper_classes upper
  have capitalToo := isUpper_classes upperToo
  have first : Mode.fresh.after c = .upper := by simp [Mode.after, capital]
  cases rest with
  | nil =>
    cases more with
    | nil => exact .inr ⟨c, d, rfl, rfl, by simp [humps, first]⟩
    | cons next more =>
      have small := isLower_classes (lowerToo next (.head _))
      have second : Mode.upper.after d = .upper := by simp [Mode.after, capitalToo]
      refine .inl ?_
      simp only [List.cons_append, List.nil_append, humps, first, second, capitalToo, small]
      simp [humps_of_lower lowerToo]
  | cons next rest =>
    have small := isLower_classes (lower next (.head _))
    refine .inl ?_
    rw [List.cons_append, List.cons_append, humps, if_neg (by simp [small]), if_neg (by simp),
      ← List.cons_append, humps_append (by simp) lower upperToo, humps_of_singleWord also]
    rfl

theorem wordsOf_eq_humps (some : cs ≠ []) (kept : ∀ c ∈ cs, isAlphanumeric c = true) :
    wordsOf cs = humps .fresh [] cs := by
  rw [wordsOf, pieces_of_kept kept]
  simp [some]

theorem wordsOf_pair (single : isSingleWord w = true) (also : isSingleWord x = true) :
    wordsOf (w ++ x) = [w, x] ∨ ∃ c d, w = [c] ∧ x = [d] ∧ wordsOf (w ++ x) = [[c, d]] := by
  rw [wordsOf_eq_humps]
  · exact humps_pair single also
  · obtain ⟨c, rest, rfl, _⟩ := exists_of_singleWord single
    simp
  · rw [List.forall_mem_append]
    exact ⟨alphanumeric_of_singleWord single, alphanumeric_of_singleWord also⟩

theorem wordsOf_pair_ne_nil (single : isSingleWord w = true) (also : isSingleWord x = true) :
    wordsOf (w ++ x) ≠ [] := by
  rcases wordsOf_pair single also with cut | ⟨_, _, _, _, cut⟩ <;> simp [cut]

theorem lowered_of_lower (lower : ∀ d ∈ rest, d.isLower = true) : lowered rest = rest := by
  fun_induction lowered rest with
  | case1 => rfl
  | case2 => exact absurd (lower 'Σ' (.head _)) (by decide)
  | case3 c rest _ ih =>
    rw [List.forall_mem_cons] at lower
    rw [(isLower_classes lower.1).2.2.2, ih lower.2]
    rfl

theorem lowered_cons_of_upper (upper : c.isUpper = true) (rest : List Char) :
    lowered (c :: rest) = c.toLower :: lowered rest := by
  have apart : c ≠ 'Σ' := by
    rintro rfl
    exact absurd upper (by decide)
  rw [lowered.eq_def]
  split
  next => contradiction
  next same => exact absurd (List.cons.inj same).1 apart
  next same =>
    obtain ⟨rfl, rfl⟩ := List.cons.inj same
    rw [(isUpper_classes upper).2.2.2.1]
    rfl

theorem toLower_inj (upper : c.isUpper = true) (also : d.isUpper = true)
    (same : c.toLower = d.toLower) : c = d := by
  obtain ⟨_, _, _, _, _, back, _⟩ := isUpper_classes upper
  obtain ⟨_, _, _, _, _, backToo, _⟩ := isUpper_classes also
  rw [← back, ← backToo, same]

theorem lowered_inj (single : isSingleWord word = true) (also : isSingleWord other = true)
    (same : lowered word = lowered other) : word = other := by
  obtain ⟨c, rest, rfl, upper, lower⟩ := exists_of_singleWord single
  obtain ⟨d, more, rfl, upperToo, lowerToo⟩ := exists_of_singleWord also
  rw [lowered_cons_of_upper upper, lowered_cons_of_upper upperToo, lowered_of_lower lower,
    lowered_of_lower lowerToo] at same
  obtain ⟨first, later⟩ := List.cons.inj same
  rw [toLower_inj upper upperToo first, later]

theorem upperCamel_of_singleWord (single : isSingleWord s.toList = true) : upperCamel s = s := by
  have kept := alphanumeric_of_singleWord single
  obtain ⟨c, rest, spelt, upper, lower⟩ := exists_of_singleWord single
  rw [upperCamel, wordsOf_eq_humps (by simp [spelt]) kept, humps_of_singleWord single, spelt]
  simp only [List.flatMap_cons, List.flatMap_nil, capitalized, lowered_of_lower lower,
    (isUpper_classes upper).2.2.2.2.1]
  simp [← spelt]

/-- A capital ends the single word before it, so two words on end tell where they meet. -/
theorem append_inj_of_singleWord (single : isSingleWord w = true) (second : isSingleWord x = true)
    (singleToo : isSingleWord v = true) (secondToo : isSingleWord y = true)
    (same : w ++ x = v ++ y) : w = v ∧ x = y := by
  have small {rest tail : List Char} (lower : ∀ d ∈ rest, d.isLower = true)
      (opens : isSingleWord tail = true) : (rest ++ tail).takeWhile Char.isLower = rest := by
    obtain ⟨d, more, rfl, upper, _⟩ := exists_of_singleWord opens
    rw [List.takeWhile_append_of_pos lower, List.takeWhile_cons_of_neg]
    · simp
    · simp [isUpper_classes upper]
  obtain ⟨c, rest, rfl, _, lower⟩ := exists_of_singleWord single
  obtain ⟨d, more, rfl, _, lowerToo⟩ := exists_of_singleWord singleToo
  obtain ⟨rfl, later⟩ : c = d ∧ rest ++ x = more ++ y := by simpa using same
  have rests := congrArg (List.takeWhile Char.isLower) later
  rw [small lower second, small lowerToo secondToo] at rests
  subst rests
  exact ⟨rfl, List.append_cancel_left later⟩

theorem words_of_snakeCase (some : wordsOf s.toList ≠ []) (also : wordsOf t.toList ≠ [])
    (same : snakeCase s = snakeCase t) :
    (wordsOf s.toList).map lowered = (wordsOf t.toList).map lowered := by
  have read {text : String} (filled : wordsOf text.toList ≠ []) :
      pieces (· != '_') (snakeCase text).toList = (wordsOf text.toList).map lowered := by
    rw [snakeCase, String.toList_ofList]
    refine pieces_intercalate (by simpa using filled) fun _ listed => ?_
    obtain ⟨word, inside, rfl⟩ := List.mem_map.mp listed
    exact foreign_underscore.not_mem_lowered fun c => isAlphanumeric_of_word inside
  rw [← read some, ← read also, same]

/-- Snake case tells two single words on end from all others, though it makes one word of two
letters. -/
theorem snakeCase_inj_of_singleWord (spelt : s.toList = w ++ x) (speltToo : t.toList = v ++ y)
    (single : isSingleWord w = true) (second : isSingleWord x = true)
    (singleToo : isSingleWord v = true) (secondToo : isSingleWord y = true)
    (same : snakeCase s = snakeCase t) : w = v ∧ x = y := by
  have lower := words_of_snakeCase (spelt ▸ wordsOf_pair_ne_nil single second)
    (speltToo ▸ wordsOf_pair_ne_nil singleToo secondToo) same
  rw [spelt, speltToo] at lower
  rcases wordsOf_pair single second with cut | ⟨c, d, rfl, rfl, cut⟩
  · rcases wordsOf_pair singleToo secondToo with cutToo | ⟨e, f, rfl, rfl, cutToo⟩
    · rw [cut, cutToo] at lower
      simp only [List.map_cons, List.map_nil, List.cons.injEq, and_true] at lower
      exact ⟨lowered_inj single singleToo lower.1, lowered_inj second secondToo lower.2⟩
    · rw [cut, cutToo] at lower
      simp at lower
  · rcases wordsOf_pair singleToo secondToo with cutToo | ⟨e, f, rfl, rfl, cutToo⟩
    · rw [cut, cutToo] at lower
      simp at lower
    · have capital {letter : Char} (single : isSingleWord [letter] = true) :
          letter.isUpper = true := by simpa [isSingleWord] using single
      rw [cut, cutToo] at lower
      simp only [List.map_cons, List.map_nil, List.cons.injEq, and_true, lowered_cons_of_upper,
        capital single, capital second, capital singleToo, capital secondToo] at lower
      rw [toLower_inj (capital single) (capital singleToo) lower.1,
        toLower_inj (capital second) (capital secondToo) lower.2]
      exact ⟨rfl, rfl⟩

end Text

namespace Role

variable {role other : Role} {start begin : List Char}

def isFieldScoped : Role → Bool
  | fieldResolver | fieldArguments | argumentParser | page | edge | connection
  | connectionBuilder => true
  | _ => false

def ending : Role → String
  | fieldResolver => "Resolver"
  | fieldArguments => "Args"
  | argumentParser => "_args"
  | page => "Page"
  | edge => "Edge"
  | connection => "Connection"
  | connectionBuilder => "_connection"
  | _ => ""

/-- Roles that share a part of the namespace end differently. -/
theorem eq_of_ending (ofField : role.isFieldScoped = true) (also : other.isFieldScoped = true)
    (segments : role.segment = other.segment)
    (same : start ++ role.ending.toList = begin ++ other.ending.toList) : role = other := by
  have ends := congrArg List.reverse same
  cases role <;> cases other <;> simp [isFieldScoped, segment, ending] at *

end Role

namespace Key

variable {key other : Key}

/-- The key of an item of a field, where the field and its container have single words for names. -/
structure IsWordScoped (key : Key) : Prop where
  role : key.role.isFieldScoped = true
  words : ∃ container field, key.container = some container ∧ key.field = some field ∧
    Text.isSingleWord container.toList = true ∧ Text.isSingleWord field.toList = true

theorem exists_ending (ofField : key.role.isFieldScoped = true) :
    ∃ start, key.bareIdentifier.toList = start ++ key.role.ending.toList := by
  rw [bareIdentifier]
  cases role : key.role with
  | fieldResolver | fieldArguments | page | edge | connection =>
    exact ⟨key.scope.toList, by simp [Role.ending]⟩
  | argumentParser =>
    exact ⟨"parse_".toList ++ (Text.snakeCase key.scope).toList, by simp [Role.ending, toString]⟩
  | connectionBuilder =>
    exact ⟨"build_".toList ++ (Text.snakeCase key.scope).toList, by simp [Role.ending, toString]⟩
  | _ => simp [role, Role.isFieldScoped] at ofField

/-- The scope of a key is its container and its field, as they are. -/
theorem scope_of_words {container field : String} (within : key.container = some container)
    (under : key.field = some field) (single : Text.isSingleWord container.toList = true)
    (second : Text.isSingleWord field.toList = true) : key.scope = container ++ field := by
  simp [scope, within, under, Text.upperCamel_of_singleWord single,
    Text.upperCamel_of_singleWord second]

theorem scope_of_bareIdentifier (ofField : key.role.isFieldScoped = true)
    (roles : key.role = other.role) (same : key.bareIdentifier = other.bareIdentifier) :
    key.scope = other.scope ∨ Text.snakeCase key.scope = Text.snakeCase other.scope := by
  rw [bareIdentifier, bareIdentifier, ← roles] at same
  generalize key.role = role at same ofField
  cases role with
  | fieldResolver | fieldArguments | page | edge | connection => exact .inl (by simpa using same)
  | argumentParser | connectionBuilder => exact .inr (by simpa [toString] using same)
  | _ => simp [Role.isFieldScoped] at ofField

/-- The bare identifier tells the role, the container and the field. -/
theorem eq_of_bareIdentifier (ofField : key.IsWordScoped) (also : other.IsWordScoped)
    (segments : key.role.segment = other.role.segment)
    (same : key.bareIdentifier = other.bareIdentifier) : key = other := by
  obtain ⟨start, ends⟩ := exists_ending ofField.role
  obtain ⟨begin, endsToo⟩ := exists_ending also.role
  have roles : key.role = other.role :=
    Role.eq_of_ending ofField.role also.role segments (by rw [← ends, ← endsToo, same])
  obtain ⟨container, field, within, under, single, second⟩ := ofField.words
  obtain ⟨container', field', withinToo, underToo, singleToo, secondToo⟩ := also.words
  have spelt := scope_of_words within under single second
  have speltToo := scope_of_words withinToo underToo singleToo secondToo
  have words : container.toList = container'.toList ∧ field.toList = field'.toList := by
    rcases scope_of_bareIdentifier ofField.role roles same with scopes | scopes
    · refine Text.append_inj_of_singleWord single second singleToo secondToo ?_
      rw [spelt, speltToo] at scopes
      simpa using congrArg String.toList scopes
    · exact Text.snakeCase_inj_of_singleWord (by simp [spelt]) (by simp [speltToo]) single second
        singleToo secondToo scopes
  obtain ⟨_, _, _⟩ := key
  obtain ⟨_, _, _⟩ := other
  simp only at within under withinToo underToo roles
  rw [within, under, withinToo, underToo, roles, String.toList_inj.mp words.1,
    String.toList_inj.mp words.2]

end Key

/-- Under any settings the name of an item of a field tells its key, where the field and its
container have single words for names. Claims of such names are granted whatever their order and
number. -/
theorem fieldNames_told_apart (settings : Settings) :
    (∀ key other : Key, key.IsWordScoped → other.IsWordScoped →
      settings.compose key = settings.compose other → key = other) ∧
    ∀ history : List Key, (∀ key ∈ history, key.IsWordScoped) →
      Ledger.outcomes settings history {} = history.map fun key => .ok (settings.compose key) := by
  have apart (key other : Key) (ofField : key.IsWordScoped) (also : other.IsWordScoped)
      (same : settings.compose key = settings.compose other) : key = other := by
    obtain ⟨segments, bare⟩ := Settings.compose_eq_iff.mp same
    exact Key.eq_of_bareIdentifier ofField also segments bare
  refine ⟨apart, fun history each => ?_⟩
  rw [Ledger.outcomes_granted_iff Ledger.empty_invariant]
  intro key among
  exact ⟨fun other also same => apart other key (each other also) (each key among) same,
    by simp [Ledger.ownerOf?]⟩

/-- Fields with letters and short words for names, under a prefix. -/
theorem fieldNames_told_apart_letters :
    let settings : Settings := { namePrefix := some "Api" }
    let keys : List Key := [.ofField .argumentParser "A" "B", .ofField .argumentParser "A" "Bc",
      .ofField .argumentParser "Ab" "C", .ofField .connectionBuilder "A" "B"]
    (∀ key ∈ keys, key.IsWordScoped) ∧
      keys.map (fun key => (settings.compose key).identifier) = ["api_parse_ab_args",
        "api_parse_a_bc_args", "api_parse_ab_c_args", "api_build_ab_connection"] ∧
      settings.compose (.ofField .argumentParser "A" "B") ≠
        settings.compose (.ofField .argumentParser "A" "Bc") ∧
      Ledger.outcomes settings keys {} = keys.map fun key => .ok (settings.compose key) := by
  intro settings keys
  have word (role : Role) (container field : String) (ofField : role.isFieldScoped = true)
      (single : Text.isSingleWord container.toList = true)
      (second : Text.isSingleWord field.toList = true) :
      (Key.ofField role container field).IsWordScoped :=
    ⟨ofField, container, field, rfl, rfl, single, second⟩
  have each : ∀ key ∈ keys, key.IsWordScoped := by
    simp only [keys, List.forall_mem_cons]
    exact ⟨word _ _ _ rfl (by decide) (by decide), word _ _ _ rfl (by decide) (by decide),
      word _ _ _ rfl (by decide) (by decide), word _ _ _ rfl (by decide) (by decide), by simp⟩
  refine ⟨each, by decide +kernel, fun same => ?_, (fieldNames_told_apart settings).2 keys each⟩
  have keysToo := (fieldNames_told_apart settings).1 _ _ (each _ (.head _))
    (each _ (.tail _ (.head _))) same
  exact absurd keysToo (by decide)

end Typewright
