import Mathlib.Logic.Relation
import Typewright.Proofs.Results
import Typewright.Proofs.Tables
import Typewright.Settings

/-! Parameters read from left to right. The settings of two parameters that are joined are those of
the first one, overridden where the second one names a key. So the order of parts that set different
things, parts that set nothing, and white space around the parts do not count. -/
namespace Typewright

namespace Settings

open Text

variable {settings earlier later : Settings} {piece part other : String} {named : List String}

def pair? (part : String) : Option (String × String) :=
  (splitOnce '=' part).map fun (key, value) => (trim key, trim value)

@[simp] theorem pair?_trim (piece : String) : pair? (trim piece) = pair? piece := by
  by_cases among : '=' ∈ piece.toList
  · obtain ⟨before, after, joined, absent⟩ := List.eq_append_cons_of_mem among
    have split : splitOnce '=' piece = some (String.ofList before, String.ofList after) :=
      splitOnce_eq_some_iff.mpr (by simpa using ⟨joined, absent⟩)
    have trimmed := splitOnce_trim (by decide) split
    simp [pair?, split, trimmed, trim_trimStart, trim_trimEnd]
  · have absent : '=' ∉ (trim piece).toList := fun inside => among (mem_of_mem_trim inside)
    rw [pair?, pair?, splitOnce, splitOnce, cutAt_eq_none among, cutAt_eq_none absent]

def key? (part : String) : Option String := (pair? part).map Prod.fst

def keysIn (parameter : String) : List String := (partsOf parameter).filterMap key?

def knownKeys : List String := ["generate_all", "prefix", "namespace", "context", "scalar"]

/-- What a part sets: its key, and in a scalar part the schema name too. -/
abbrev Slot := String × Option String

def slotOf (key value : String) : Slot :=
  (key, if key = "scalar" then (splitOnce ':' value).map Prod.fst else none)

def Change.slot? : Change → Option Slot
  | .generateAll _ => some ("generate_all", none)
  | .namePrefix _ => some ("prefix", none)
  | .baseNamespace _ => some ("namespace", none)
  | .contextType _ => some ("context", none)
  | .scalar name _ => some ("scalar", some name)
  | .nothing => none

theorem Change.cases_ofPair {written value : String} {change : Change}
    (made : Change.ofPair written value = .ok change) :
    (trim written ∉ knownKeys ∧ change = .nothing) ∨
      (trim written ∈ knownKeys ∧ change.slot? = some (slotOf (trim written) value)) := by
  unfold Change.ofPair at made
  split at made
  case h_6 noFlag noPrefix noNamespace noContext noScalar =>
    cases made
    refine .inl ⟨?_, rfl⟩
    simp only [knownKeys, List.mem_cons, List.not_mem_nil, or_false, not_or]
    exact ⟨noFlag, noPrefix, noNamespace, noContext, noScalar⟩
  all_goals
    repeat' split at made
    all_goals cases made
    all_goals exact .inr (by simp [slot?, slotOf, knownKeys, *])

theorem Change.exists_pair_of_ofPart {part : String} {change : Change}
    (made : Change.ofPart part = .ok change) :
    ∃ written value, pair? part = some (trim written, value) ∧
      Change.ofPair written value = .ok change := by
  rw [ofPart] at made
  split at made
  next key value split => exact ⟨key, trim value, by simp [pair?, split], made⟩
  next => contradiction

/-- The later settings under the keys that are named, and the earlier ones under the others. -/
def overriddenBy (earlier : Settings) (named : List String) (later : Settings) : Settings where
  generateAll := if "generate_all" ∈ named then later.generateAll else earlier.generateAll
  namePrefix := if "prefix" ∈ named then later.namePrefix else earlier.namePrefix
  baseNamespace := if "namespace" ∈ named then later.baseNamespace else earlier.baseNamespace
  contextType := if "context" ∈ named then later.contextType else earlier.contextType
  scalars := Dict.override earlier.scalars later.scalars

theorem overriddenBy_nil (earlier : Settings) : earlier.overriddenBy [] {} = earlier := by
  simp [overriddenBy, Dict.override]

theorem Change.ascending_apply (change : Change) (ascending : Dict.Ascending settings.scalars) :
    Dict.Ascending (change.apply settings).scalars := by
  cases change with
  | scalar name target => exact ascending.insert name target
  | generateAll _ | namePrefix _ | baseNamespace _ | contextType _ | nothing => exact ascending

/-- A part that comes last overrides what it sets in all that comes before. -/
theorem apply_overriddenBy {written value : String} {change : Change}
    (ascending : Dict.Ascending earlier.scalars) (also : Dict.Ascending later.scalars)
    (made : Change.ofPair written value = .ok change) :
    change.apply (earlier.overriddenBy named later) =
      earlier.overriddenBy (named ++ [trim written]) (change.apply later) := by
  rcases Change.cases_ofPair made with ⟨unknown, rfl⟩ | ⟨_, slot⟩
  · have apart : ∀ key ∈ knownKeys, key ≠ trim written :=
      fun key known same => unknown (same ▸ known)
    simp only [knownKeys, List.forall_mem_cons] at apart
    simp [Change.apply, overriddenBy, apart]
  · cases change with
    | scalar name target =>
      obtain ⟨key, _⟩ := Prod.mk.inj (Option.some.inj slot)
      simp [Change.apply, overriddenBy, ← key, Dict.override_insert ascending also]
    | generateAll _ | namePrefix _ | baseNamespace _ | contextType _ =>
      obtain ⟨key, _⟩ := Prod.mk.inj (Option.some.inj slot)
      simp [Change.apply, overriddenBy, ← key]
    | nothing => cases slot

theorem applyParts_append (parts others : List String) (settings : Settings) :
    applyParts (parts ++ others) settings = applyParts parts settings >>= applyParts others := by
  induction parts generalizing settings with
  | nil => rfl
  | cons part rest ih =>
    rw [List.cons_append, applyParts, applyParts]
    cases Change.ofPart part with
    | error _ => rfl
    | ok change => exact ih _

theorem applyParts_ascending {parts : List String} (ascending : Dict.Ascending settings.scalars)
    (applied : applyParts parts settings = .ok later) : Dict.Ascending later.scalars := by
  induction parts generalizing settings with
  | nil => exact Except.ok.inj applied ▸ ascending
  | cons part rest ih =>
    obtain ⟨change, _, applied⟩ := bind_eq_ok_iff.mp applied
    exact ih (change.ascending_apply ascending) applied

theorem ascending_default : Dict.Ascending ({} : Settings).scalars := List.Pairwise.nil

theorem ofParameter_ascending {parameter : String} (given : ofParameter parameter = .ok settings) :
    Dict.Ascending settings.scalars :=
  applyParts_ascending ascending_default given

/-- Parts override the settings that are there as they override the default ones. -/
theorem applyParts_overriddenBy (parts : List String) (ascending : Dict.Ascending earlier.scalars)
    (also : Dict.Ascending later.scalars) :
    applyParts parts (earlier.overriddenBy named later) = do
      let last ← applyParts parts later
      return earlier.overriddenBy (named ++ parts.filterMap key?) last := by
  induction parts generalizing named later with
  | nil => simp [applyParts, pure, Except.pure, bind, Except.bind]
  | cons part rest ih =>
    rw [applyParts, applyParts]
    cases made : Change.ofPart part with
    | error _ => rfl
    | ok change =>
      obtain ⟨written, value, pair, made⟩ := Change.exists_pair_of_ofPart made
      have step := @ih _ (named ++ [trim written]) (change.ascending_apply also)
      rw [← apply_overriddenBy ascending also made, List.append_assoc] at step
      rw [List.filterMap_cons, key?, pair]
      exact step

theorem applyParts_eq (parts : List String) (ascending : Dict.Ascending earlier.scalars) :
    applyParts parts earlier = do
      let last ← applyParts parts {}
      return earlier.overriddenBy (parts.filterMap key?) last := by
  have read := @applyParts_overriddenBy earlier {} [] parts ascending ascending_default
  rwa [overriddenBy_nil] at read

theorem partsOf_append (parameter other : String) :
    partsOf (parameter ++ "," ++ other) = partsOf parameter ++ partsOf other := by
  have joined : (parameter ++ "," ++ other).toList = parameter.toList ++ ',' :: other.toList := by
    simp
  rw [partsOf, splitAt_join joined, List.map_append, List.filter_append]
  rfl

/-- Parameters that are joined are read one after another, and the later one overrides. -/
theorem ofParameter_append (parameter other : String) :
    ofParameter (parameter ++ "," ++ other) = do
      let earlier ← ofParameter parameter
      let later ← ofParameter other
      return earlier.overriddenBy (keysIn other) later := by
  rw [ofParameter, partsOf_append, applyParts_append]
  change (ofParameter parameter >>= _) = _
  cases given : ofParameter parameter with
  | error _ => rfl
  | ok earlier => exact applyParts_eq (partsOf other) (ofParameter_ascending given)

theorem Change.ofPair_prefix {written : String} (key : trim written = "prefix") (value : String) :
    Change.ofPair written value = .ok (.namePrefix (nonEmpty value)) := by
  unfold Change.ofPair
  rw [key]
  rfl

theorem Change.ofPair_context {written : String} (key : trim written = "context") (value : String) :
    Change.ofPair written value = .ok (.contextType (nonEmpty value)) := by
  unfold Change.ofPair
  rw [key]
  rfl

theorem Change.ofPair_unknown {written : String} (unknown : trim written ∉ knownKeys)
    (value : String) : Change.ofPair written value = .ok .nothing := by
  simp only [knownKeys, List.mem_cons, List.not_mem_nil, or_false, not_or] at unknown
  obtain ⟨noFlag, noPrefix, noNamespace, noContext, noScalar⟩ := unknown
  unfold Change.ofPair
  split
  next key => exact absurd key noFlag
  next key => exact absurd key noPrefix
  next key => exact absurd key noNamespace
  next key => exact absurd key noContext
  next key => exact absurd key noScalar
  next => rfl

/-- The last part that names a prefix or a context type decides it, and an empty one leaves none. -/
theorem last_of_ofParameter {parameter value : String} {before after : List String}
    (split : partsOf parameter = before ++ part :: after)
    (given : ofParameter parameter = .ok settings) :
    (pair? part = some ("prefix", value) → "prefix" ∉ after.filterMap key? →
      settings.namePrefix = nonEmpty value) ∧
    (pair? part = some ("context", value) → "context" ∉ after.filterMap key? →
      settings.contextType = nonEmpty value) := by
  rw [ofParameter, split, applyParts_append] at given
  obtain ⟨earlier, first, given⟩ := bind_eq_ok_iff.mp given
  obtain ⟨change, made, given⟩ := bind_eq_ok_iff.mp given
  rw [applyParts_eq after
    (change.ascending_apply (applyParts_ascending ascending_default first))] at given
  obtain ⟨later, _, last⟩ := bind_eq_ok_iff.mp given
  obtain rfl := Except.ok.inj last
  obtain ⟨written, shown, pair, made⟩ := Change.exists_pair_of_ofPart made
  constructor
  · intro named none
    obtain ⟨key, rfl⟩ := Prod.mk.inj (Option.some.inj (pair.symm.trans named))
    obtain rfl := Except.ok.inj ((Change.ofPair_prefix key _).symm.trans made)
    simp [overriddenBy, none, Change.apply]
  · intro named none
    obtain ⟨key, rfl⟩ := Prod.mk.inj (Option.some.inj (pair.symm.trans named))
    obtain rfl := Except.ok.inj ((Change.ofPair_context key _).symm.trans made)
    simp [overriddenBy, none, Change.apply]

/-- What a part between commas sets, if it can be read. A blank part sets nothing. -/
def changeOf? (piece : String) : Option Change :=
  if trim piece = "" then some .nothing else (Change.ofPart (trim piece)).toOption

theorem Change.toOption_ofPair {written other value : String} (same : trim written = trim other) :
    (Change.ofPair written value).toOption = (Change.ofPair other value).toOption := by
  unfold Change.ofPair
  rw [same]
  split
  next => split <;> rfl
  next => rfl
  next => split <;> rfl
  next => rfl
  next =>
    split
    next => split <;> rfl
    next => rfl
  next => rfl

/-- Whether and how a part with an equals sign is read, depends on its key and its value. -/
theorem changeOf?_of_pair {key value : String} (pair : pair? piece = some (key, value)) :
    changeOf? piece = (Change.ofPair key value).toOption := by
  have trimmed := pair?_trim piece
  rw [pair] at trimmed
  have some : trim piece ≠ "" := by
    intro none
    rw [none, show pair? "" = Option.none from rfl] at trimmed
    cases trimmed
  obtain ⟨⟨written, rest⟩, split, same⟩ := Option.map_eq_some_iff.mp trimmed
  obtain ⟨rfl, rfl⟩ := Prod.mk.inj same
  rw [changeOf?, if_neg some, Change.ofPart, split]
  exact Change.toOption_ofPair (trim_trim written).symm

def slot? (piece : String) : Option Slot := (pair? piece).map fun (key, value) => slotOf key value

theorem slot?_of_changeOf? {change : Change} (made : changeOf? piece = some change) :
    ∀ slot ∈ change.slot?, slot? piece = some slot := by
  intro slot sets
  rw [changeOf?] at made
  split at made
  next =>
    obtain rfl := Option.some.inj made
    cases sets
  next =>
    obtain ⟨written, value, pair, made⟩ :=
      Change.exists_pair_of_ofPart (toOption_eq_some_iff.mp made)
    rcases Change.cases_ofPair made with ⟨_, rfl⟩ | ⟨_, slot⟩
    · cases sets
    · rw [slot?, ← pair?_trim, pair, ← sets, slot]
      rfl

theorem Change.apply_comm {first second : Change} (ascending : Dict.Ascending settings.scalars)
    (apart : ∀ slot ∈ first.slot?, slot ∉ second.slot?) :
    first.apply (second.apply settings) = second.apply (first.apply settings) := by
  cases first with
  | scalar name target =>
    cases second with
    | scalar other another =>
      have names : name ≠ other := fun same => apart ("scalar", some name) rfl (same ▸ rfl)
      simp [apply, Dict.insert_comm ascending names]
    | generateAll _ | namePrefix _ | baseNamespace _ | contextType _ | nothing => rfl
  | generateAll _ | namePrefix _ | baseNamespace _ | contextType _ | nothing =>
    cases second
    all_goals first
      | rfl
      | exact (apart _ rfl rfl).elim

def run (pieces : List String) (settings : Settings) : Option Settings :=
  (applyParts ((pieces.map trim).filter (· ≠ "")) settings).toOption

theorem run_cons (piece : String) (rest : List String) (settings : Settings) :
    run (piece :: rest) settings =
      (changeOf? piece).bind fun change => run rest (change.apply settings) := by
  rw [run, changeOf?, List.map_cons]
  split
  next blank =>
    rw [List.filter_cons_of_neg (by simpa using blank)]
    rfl
  next some =>
    rw [List.filter_cons_of_pos (by simpa using some), applyParts]
    cases Change.ofPart (trim piece) <;> rfl

theorem run_append (pieces others : List String) (settings : Settings) :
    run (pieces ++ others) settings = (run pieces settings).bind (run others) := by
  rw [run, run, List.map_append, List.filter_append, applyParts_append]
  cases applyParts ((pieces.map trim).filter (· ≠ "")) settings <;> rfl

theorem run_ascending {pieces : List String} (ascending : Dict.Ascending settings.scalars)
    (done : run pieces settings = some later) : Dict.Ascending later.scalars :=
  applyParts_ascending ascending (toOption_eq_some_iff.mp done)

/-- Parts that do not have the same key, or the same schema name where both are scalar parts. -/
def Apart (piece other : String) : Prop := slot? piece ≠ slot? other

theorem run_reordered {pieces others : List String} (same : pieces.Perm others)
    (apart : pieces.Pairwise Apart) (ascending : Dict.Ascending settings.scalars) :
    run pieces settings = run others settings := by
  induction same generalizing settings with
  | nil => rfl
  | cons piece _ ih =>
    rw [run_cons, run_cons]
    exact Option.bind_congr fun change _ =>
      ih (List.pairwise_cons.mp apart).2 (change.ascending_apply ascending)
  | swap first second rest =>
    simp only [run_cons]
    cases made : changeOf? first with
    | none => cases changeOf? second <;> rfl
    | some change =>
      cases also : changeOf? second with
      | none => rfl
      | some other =>
        have slots : ∀ slot ∈ change.slot?, slot ∉ other.slot? := by
          intro slot sets setsToo
          have different := (List.pairwise_cons.mp apart).1 first (.head _)
          exact different ((slot?_of_changeOf? also slot setsToo).trans
            (slot?_of_changeOf? made slot sets).symm)
        exact congrArg (run rest) (Change.apply_comm ascending slots)
  | trans same _ ih ihToo =>
    exact (ih apart ascending).trans
      (ihToo (same.pairwise apart fun different => Ne.symm different) ascending)

inductive Edit : List String → List String → Prop
  /-- Parts that are apart from one another may come in any order. -/
  | reordered {before pieces others after : List String} : pieces.Pairwise Apart →
      pieces.Perm others → Edit (before ++ pieces ++ after) (before ++ others ++ after)
  | blank {before after : List String} {piece : String} : (∀ c ∈ piece.toList, isBlank c = true) →
      Edit (before ++ after) (before ++ piece :: after)
  | unknown {before after : List String} {key : String} (value : String) : '=' ∉ key.toList →
      trim key ∉ knownKeys → Edit (before ++ after) (before ++ (key ++ "=" ++ value) :: after)
  /-- White space may stand on both sides of the key and of the value. -/
  | spaced {before after : List String} {key w x y z : String} (value : String) : '=' ∉ key.toList →
      (∀ c ∈ (w ++ x ++ y ++ z).toList, isBlank c = true) →
      Edit (before ++ (key ++ "=" ++ value) :: after)
        (before ++ (w ++ key ++ x ++ "=" ++ y ++ value ++ z) :: after)

theorem pair?_eq_of_absent {key : String} (value : String) (absent : '=' ∉ key.toList) :
    pair? (key ++ "=" ++ value) = some (trim key, trim value) := by
  have split : splitOnce '=' (key ++ "=" ++ value) = some (key, value) :=
    splitOnce_eq_some_iff.mpr ⟨by simp, absent⟩
  rw [pair?, split]
  rfl

theorem changeOf?_spaced {key w x y z : String} (value : String) (absent : '=' ∉ key.toList)
    (blank : ∀ c ∈ (w ++ x ++ y ++ z).toList, isBlank c = true) :
    changeOf? (w ++ key ++ x ++ "=" ++ y ++ value ++ z) = changeOf? (key ++ "=" ++ value) := by
  simp only [String.toList_append, List.forall_mem_append, and_assoc] at blank
  obtain ⟨blankW, blankX, blankY, blankZ⟩ := blank
  have absentToo : '=' ∉ (w ++ key ++ x).toList := by
    have stays : ¬ isBlank '=' = true := by decide
    simp only [String.toList_append, List.mem_append, not_or]
    exact ⟨⟨fun among => stays (blankW _ among), absent⟩, fun among => stays (blankX _ among)⟩
  have joined : w ++ key ++ x ++ "=" ++ y ++ value ++ z =
      (w ++ key ++ x) ++ "=" ++ (y ++ value ++ z) := by simp [String.append_assoc]
  rw [changeOf?_of_pair (pair?_eq_of_absent value absent), joined,
    changeOf?_of_pair (pair?_eq_of_absent _ absentToo), trim_append blankW blankX,
    trim_append blankY blankZ]

theorem changeOf?_unknown {key : String} (value : String) (absent : '=' ∉ key.toList)
    (unknown : trim key ∉ knownKeys) : changeOf? (key ++ "=" ++ value) = some .nothing := by
  rw [changeOf?_of_pair (pair?_eq_of_absent value absent),
    Change.ofPair_unknown ((trim_trim key).symm ▸ unknown)]
  rfl

/-- A change within the parts, that is none for the parts in their place, is none. -/
theorem run_within {pieces others : List String} (before after : List String)
    (same : ∀ {settings : Settings}, Dict.Ascending settings.scalars →
      run pieces settings = run others settings)
    (ascending : Dict.Ascending settings.scalars) :
    run (before ++ pieces ++ after) settings = run (before ++ others ++ after) settings := by
  rw [run_append, run_append, run_append, run_append]
  cases done : run before settings with
  | none => rfl
  | some next => exact congrArg (Option.bind · (run after)) (same (run_ascending ascending done))

theorem Edit.run_eq {pieces others : List String} (edit : Edit pieces others)
    (ascending : Dict.Ascending settings.scalars) : run pieces settings = run others settings := by
  have idle {before after : List String} {piece : String}
      (nothing : changeOf? piece = some .nothing) :
      run (before ++ after) settings = run (before ++ piece :: after) settings := by
    have same {settings : Settings} (_ : Dict.Ascending settings.scalars) :
        run [] settings = run [piece] settings := by simp [run_cons, nothing, Change.apply]
    simpa using run_within before after same ascending
  cases edit with
  | reordered apart same => exact run_within _ _ (run_reordered same apart) ascending
  | @blank before after piece blank =>
    have nothing : ∀ c ∈ "".toList, isBlank c = true := by simp
    have padded := trim_append (s := "") blank nothing
    rw [String.append_empty, String.append_empty] at padded
    exact idle (if_pos padded)
  | unknown value absent unknown => exact idle (changeOf?_unknown value absent unknown)
  | @spaced before after key w x y z value absent blank =>
    have same {settings : Settings} (_ : Dict.Ascending settings.scalars) :
        run [key ++ "=" ++ value] settings =
          run [w ++ key ++ x ++ "=" ++ y ++ value ++ z] settings := by
      rw [run_cons, run_cons, changeOf?_spaced value absent blank]
    simpa using run_within before after same ascending

theorem run_edited {pieces others : List String} (edited : Relation.EqvGen Edit pieces others)
    (ascending : Dict.Ascending settings.scalars) : run pieces settings = run others settings := by
  induction edited with
  | rel _ _ edit => exact edit.run_eq ascending
  | refl _ => rfl
  | symm _ _ _ ih => exact ih.symm
  | trans _ _ _ _ _ ih ihToo => exact ih.trans ihToo

/-- A parameter overrides what stands to its left. Key by key the last parameter that names it
decides, and scalars are those of both. So a parameter that can be read, gives the same settings
after parts that are apart change places, parts that set nothing come or go, and white space is put
around keys and values. -/
theorem ofParameter_overrides (parameter other : String) :
    (ofParameter (parameter ++ "," ++ other) = do
      let earlier ← ofParameter parameter
      let later ← ofParameter other
      return earlier.overriddenBy (keysIn other) later) ∧
    (∀ earlier later, ofParameter parameter = .ok earlier → ofParameter other = .ok later →
      ∀ name, Dict.get? (Dict.override earlier.scalars later.scalars) name =
        (Dict.get? later.scalars name).or (Dict.get? earlier.scalars name)) ∧
    (∀ before part after value settings, partsOf other = before ++ part :: after →
      ofParameter other = .ok settings →
      (pair? part = some ("prefix", value) → "prefix" ∉ after.filterMap key? →
        settings.namePrefix = nonEmpty value) ∧
      (pair? part = some ("context", value) → "context" ∉ after.filterMap key? →
        settings.contextType = nonEmpty value)) ∧
    (Relation.EqvGen Edit (splitAt ',' parameter) (splitAt ',' other) →
      ∀ settings, ofParameter parameter = .ok settings → ofParameter other = .ok settings) := by
  refine ⟨ofParameter_append parameter other, fun earlier later _ given => ?_,
    fun _ _ _ _ _ split given => last_of_ofParameter split given, fun edited settings given => ?_⟩
  · exact Dict.get?_override (ofParameter_ascending given)
  · rw [← toOption_eq_some_iff] at given ⊢
    exact (run_edited edited ascending_default).symm.trans given

theorem ofParameter_overrides_respelt :
    ∃ settings, ofParameter "prefix=Api,zz=1,scalar=Json:a::B" = .ok settings ∧
      ofParameter "scalar = Json:a::B , ,prefix=Api" = .ok settings ∧
      settings.namePrefix = some "Api" ∧
      Dict.get? (Dict.override settings.scalars settings.scalars) "Json" = some "a::B" := by
  have unknown : Edit ["prefix=Api", "scalar=Json:a::B"]
      ["prefix=Api", "zz=1", "scalar=Json:a::B"] :=
    @Edit.unknown ["prefix=Api"] ["scalar=Json:a::B"] "zz" "1" (by decide +kernel)
      (by decide +kernel)
  have swapped : Edit ["prefix=Api", "scalar=Json:a::B"] ["scalar=Json:a::B", "prefix=Api"] :=
    @Edit.reordered [] _ _ [] (List.pairwise_pair.mpr (by rw [Apart]; decide +kernel)) (.swap ..)
  have blank : Edit ["scalar=Json:a::B", "prefix=Api"] ["scalar=Json:a::B", " ", "prefix=Api"] :=
    @Edit.blank ["scalar=Json:a::B"] ["prefix=Api"] " " (List.all_eq_true.mp (by decide +kernel))
  have spaced : Edit ["scalar=Json:a::B", " ", "prefix=Api"]
      ["scalar = Json:a::B ", " ", "prefix=Api"] :=
    @Edit.spaced [] [" ", "prefix=Api"] "scalar" "" " " " " " " "Json:a::B" (by decide +kernel)
      (List.all_eq_true.mp (by decide +kernel))
  have split : splitAt ',' "prefix=Api,zz=1,scalar=Json:a::B" =
      ["prefix=Api", "zz=1", "scalar=Json:a::B"] := by decide +kernel
  have splitToo : splitAt ',' "scalar = Json:a::B , ,prefix=Api" =
      ["scalar = Json:a::B ", " ", "prefix=Api"] := by decide +kernel
  obtain ⟨settings, given, found⟩ :
      ∃ settings, ofParameter "prefix=Api,zz=1,scalar=Json:a::B" = .ok settings ∧
        decide (Dict.get? settings.scalars "Json" = some "a::B") = true :=
    exists_ok_of_any (by decide +kernel)
  have there := ofParameter_overrides "prefix=Api,zz=1,scalar=Json:a::B"
    "scalar = Json:a::B , ,prefix=Api"
  have also : ofParameter "scalar = Json:a::B , ,prefix=Api" = .ok settings := by
    refine there.2.2.2 ?_ settings given
    rw [split, splitToo]
    exact .trans _ _ _ (.symm _ _ (.rel _ _ unknown)) (.trans _ _ _ (.rel _ _ swapped)
      (.trans _ _ _ (.rel _ _ blank) (.rel _ _ spaced)))
  refine ⟨settings, given, also, ?_, ?_⟩
  · have last := there.2.2.1 ["scalar = Json:a::B"] "prefix=Api" [] "Api" settings
      (by decide +kernel) also
    exact last.1 (by decide +kernel) (by simp)
  · rw [there.2.1 settings settings given also, of_decide_eq_true found]
    rfl

end Settings

end Typewright
