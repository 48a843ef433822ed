import Typewright.Proofs.Erasure

/-! Where coercion faults point. A fault comes from one place of a run, to which the run came through
lists and the fields of parse functions, and its path is the way to that place in the raw value. -/
namespace Typewright

inductive Access where
  | key (name : String)
  | index (position : Nat)

def Access.extend (path : String) : Access → String
  | key name => s!"{path}.{name}"
  | index position => s!"{path}[{position}]"

def Value.at? : Value → List Access → Option Value
  | value, [] => some value
  | object entries, .key name :: rest => (Dict.get? entries name).bind (·.at? rest)
  | list items, .index position :: rest => items[position]?.bind (·.at? rest)
  | _, _ :: _ => none

/-- What a run does with a value: steps convert it, the outermost first, or a parse function builds
a record of it. -/
inductive Task where
  | convert (steps : List Step)
  | build (builder : QualifiedName)

namespace Registry

open CoercionFault

def perform (registry : Registry) (value : Value) (path : String) :
    Task → Except CoercionFault Coerced
  | .convert steps => registry.convert value path steps
  | .build builder => registry.buildAt value path builder

/-- A run that does one thing with a value comes to do another with a part of it. -/
inductive Reaches (registry : Registry) : Task → Value → List Access → Task → Value → Prop
  | here : Reaches registry task value [] task value
  | nonNull {inner : List Step}
      (next : Reaches registry (.convert inner) value place task part) :
    Reaches registry (.convert (.nonNull :: inner)) value place task part
  | item {inner : List Step} (listed : items[position]? = some item)
      (next : Reaches registry (.convert inner) item place task part) :
    Reaches registry (.convert (.mapList nullable elementsNullable :: inner)) (.list items)
      (.index position :: place) task part
  | parse {inner : List Step} (next : Reaches registry (.build builder) value place task part) :
    Reaches registry (.convert (.buildInput input builder nullable :: inner)) value place task part
  | field {field : FieldCoercion} (parser : registry.find? builder = some recipe)
      (own : field ∈ recipe.fields) (held : Dict.get? entries field.key = some value)
      (next : Reaches registry (.convert field.chain.steps.reverse) value place task part) :
    Reaches registry (.build builder) (.object entries) (.key field.key :: place) task part

/-- Why a run stops at the value at hand. -/
inductive Refuses (registry : Registry) (path : String) : Task → Value → CoercionFault → Prop
  | unfit : Refuses registry path task value (malformed path expected value)
  | missing {field : FieldCoercion} (parser : registry.find? builder = some recipe)
      (own : field ∈ recipe.fields) (absent : Dict.get? entries field.key = none) :
    Refuses registry path (.build builder) (.object entries)
      (malformed ((Access.key field.key).extend path) expected .null)
  | unknown {key : String} (parser : registry.find? builder = some recipe)
      (listed : key ∈ Dict.keys entries) (foreign : ∀ field ∈ recipe.fields, field.key ≠ key)
      (least : ∀ other ∈ Dict.keys entries, (∀ field ∈ recipe.fields, field.key ≠ other) →
        ¬ other < key) :
    Refuses registry path (.build builder) (.object entries) (unknownField path key recipe.record)
  | noParser (missing : registry.find? builder = none) :
    Refuses registry path (.build builder) value (noParser path builder)
  | unlisted {inner : List Step} (read : value.text? = some text) (unlisted : text ∉ values) :
    Refuses registry path (.convert (.parseEnum enumName target values nullable :: inner)) value
      (.unknownEnumValue enumName text)

variable {registry : Registry} {path : String} {value : Value} {fault : CoercionFault}

theorem Reaches.at? {start task : Task} {value part : Value} {place : List Access}
    (reached : registry.Reaches start value place task part) : value.at? place = some part := by
  induction reached with
  | here => exact Value.at?.eq_1 _
  | nonNull _ ih | parse _ ih => exact ih
  | item listed _ ih => simp [Value.at?, listed, ih]
  | field _ _ held _ ih => simp [Value.at?, held, ih]

def Locates (registry : Registry) (start : Task) (value : Value) (path : String)
    (fault : CoercionFault) : Prop :=
  ∃ place task part, registry.Reaches start value place task part ∧
    registry.Refuses (place.foldl Access.extend path) task part fault

theorem Refuses.located {task : Task} (refused : registry.Refuses path task value fault) :
    registry.Locates task value path fault := ⟨[], task, value, .here, refused⟩

theorem castValue_error {shape : Shape} {nullable : Bool}
    (failed : castValue path shape nullable value = .error fault) :
    ∃ expected, fault = malformed path expected value := by
  rw [castValue] at failed
  split at failed
  · split at failed
    · contradiction
    · exact ⟨_, (Except.error.inj failed).symm⟩
  · split at failed
    · contradiction
    · exact ⟨_, (Except.error.inj failed).symm⟩

theorem enumValue_error {enumName : String} {values : List String} {nullable : Bool}
    (failed : enumValue path enumName values nullable value = .error fault) :
    (∃ expected, fault = malformed path expected value) ∨
      ∃ text, value.text? = some text ∧ text ∉ values ∧ fault = .unknownEnumValue enumName text := by
  rw [enumValue] at failed
  split at failed
  · split at failed
    · contradiction
    · exact .inl ⟨_, (Except.error.inj failed).symm⟩
  · split at failed
    next text read =>
      split at failed
      · contradiction
      next unlisted => exact .inr ⟨text, read, unlisted, (Except.error.inj failed).symm⟩
    · exact .inl ⟨_, (Except.error.inj failed).symm⟩

/-- Null has no parts, so that what refuses it refuses it where it stands. -/
theorem convert_null_error {steps : List Step}
    (failed : registry.convert .null path steps = .error fault) :
    ∃ expected, fault = malformed path expected .null := by
  cases steps with
  | nil => contradiction
  | cons step inner =>
    cases step with
    | nonNull =>
      rw [convert_nonNull] at failed
      exact ⟨_, (Except.error.inj failed).symm⟩
    | mapList nullable elements =>
      rw [convert_mapList_of_not_list (by simp)] at failed
      split at failed
      · contradiction
      · exact ⟨_, (Except.error.inj failed).symm⟩
    | cast target shape nullable =>
      rw [convert_cast] at failed
      exact castValue_error failed
    | parseEnum enumName target values nullable =>
      rw [convert_parseEnum] at failed
      rcases enumValue_error failed with unfit | ⟨_, read, _⟩
      · exact unfit
      · contradiction
    | buildInput input builder nullable =>
      rw [convert_buildInput] at failed
      cases nullable with
      | true => contradiction
      | false => exact ⟨_, (Except.error.inj failed).symm⟩

def LocatesAll (registry : Registry) (value : Value) : Prop :=
  ∀ task path fault, registry.perform value path task = .error fault →
    registry.Locates task value path fault

theorem evaluateAt_error {chain : Chain} {input : Option Value}
    (failed : registry.evaluateAt chain path input = .error fault) :
    registry.convert (input.getD .null) path chain.steps.reverse = .error fault := by
  cases presence : chain.presence with
  | plain => rwa [evaluateAt_plain presence] at failed
  | boxed =>
    rw [evaluateAt_boxed presence] at failed
    cases input with
    | none => contradiction
    | some value => exact map_eq_error_iff.mp failed

/-- A field without an entry refuses the null in its place, and the fault of one with an entry comes
from inside the entry. -/
theorem evaluateField_error {builder : QualifiedName} {recipe : Recipe} {entries : Dict Value}
    {field : FieldCoercion} (parser : registry.find? builder = some recipe)
    (own : field ∈ recipe.fields)
    (inside : registry.LocatesAll ((Dict.get? entries field.key).getD .null))
    (failed : registry.evaluateField path entries field = .error fault) :
    registry.Locates (.build builder) (.object entries) path fault := by
  have converted := evaluateAt_error (map_eq_error_iff.mp failed)
  cases held : Dict.get? entries field.key with
  | none =>
    rw [held] at converted
    obtain ⟨expected, rfl⟩ := convert_null_error converted
    exact (Refuses.missing parser own held).located
  | some part =>
    rw [held] at converted inside
    obtain ⟨place, task, deeper, reached, refused⟩ := inside (.convert _) _ _ converted
    exact ⟨.key field.key :: place, task, deeper, .field parser own held reached, refused⟩

theorem buildAt_error {builder : QualifiedName}
    (smaller : ∀ part, sizeOf part < sizeOf value → registry.LocatesAll part)
    (failed : registry.buildAt value path builder = .error fault) :
    registry.Locates (.build builder) value path fault := by
  cases parser : registry.find? builder with
  | none =>
    rw [buildAt_missing parser] at failed
    obtain rfl := Except.error.inj failed
    exact (Refuses.noParser parser).located
  | some recipe =>
    by_cases object : ∃ entries, value = .object entries
    · obtain ⟨entries, rfl⟩ := object
      rw [buildAt_object parser] at failed
      split at failed
      next key found =>
        obtain rfl := Except.error.inj failed
        obtain ⟨listed, foreign, least⟩ := Recipe.unknownKey?_eq_some found
        exact (Refuses.unknown parser listed foreign least).located
      next =>
        obtain ⟨field, own, failed⟩ := exists_of_mapM_error (map_eq_error_iff.mp failed)
        exact evaluateField_error parser own
          (smaller _ (Value.sizeOf_getD_lt entries field.key)) failed
    · rw [buildAt_not_object parser (not_exists.mp object)] at failed
      obtain rfl := Except.error.inj failed
      exact Refuses.unfit.located

theorem convert_error {steps : List Step}
    (smaller : ∀ part, sizeOf part < sizeOf value → registry.LocatesAll part)
    (failed : registry.convert value path steps = .error fault) :
    registry.Locates (.convert steps) value path fault := by
  induction steps with
  | nil => contradiction
  | cons step inner ih =>
    cases step with
    | nonNull =>
      rw [convert_nonNull] at failed
      split at failed
      · obtain rfl := Except.error.inj failed
        exact Refuses.unfit.located
      · obtain ⟨place, task, part, reached, refused⟩ := ih failed
        exact ⟨place, task, part, .nonNull reached, refused⟩
    | mapList nullable elements =>
      by_cases list : ∃ items, value = .list items
      · obtain ⟨items, rfl⟩ := list
        rw [convert_mapList_list] at failed
        obtain ⟨⟨item, index⟩, among, failed⟩ := exists_of_mapM_error (map_eq_error_iff.mp failed)
        have listed : items[index]? = some item := List.mem_zipIdx_iff_getElem?.mp among
        have less := Value.sizeOf_lt_of_mem (List.mem_of_getElem? listed)
        obtain ⟨place, task, part, reached, refused⟩ := smaller item less (.convert inner) _ _ failed
        exact ⟨.index index :: place, task, part, .item listed reached, refused⟩
      · rw [convert_mapList_of_not_list (not_exists.mp list)] at failed
        split at failed
        · contradiction
        · obtain rfl := Except.error.inj failed
          exact Refuses.unfit.located
    | cast target shape nullable =>
      rw [convert_cast] at failed
      obtain ⟨expected, rfl⟩ := castValue_error failed
      exact Refuses.unfit.located
    | parseEnum enumName target values nullable =>
      rw [convert_parseEnum] at failed
      rcases enumValue_error failed with ⟨expected, rfl⟩ | ⟨text, read, unlisted, rfl⟩
      · exact Refuses.unfit.located
      · exact (Refuses.unlisted read unlisted).located
    | buildInput input builder nullable =>
      rw [convert_buildInput] at failed
      split at failed
      · split at failed
        · contradiction
        · obtain rfl := Except.error.inj failed
          exact Refuses.unfit.located
      · obtain ⟨place, task, part, reached, refused⟩ := buildAt_error smaller failed
        exact ⟨place, task, part, .parse reached, refused⟩

theorem locates_of_error (registry : Registry) (value : Value) : registry.LocatesAll value := by
  induction value using Value.inside_induction with
  | inside value smaller =>
    intro task path fault failed
    cases task with
    | convert steps => exact convert_error smaller failed
    | build builder => exact buildAt_error smaller failed

/-- A malformed input is shown by the way to a place: to a value, which is named by its kind; to a
key that its object lacks, where null is found; to the least key that the parse function at work on
the object does not know; or to a value for which there is no parse function. An unknown enum value is
the text of a value that a step of the enum is at work on. -/
def PointsInto (registry : Registry) (start : Task) (input : Value) : CoercionFault → Prop
  | .malformedInput path _ found =>
    ∃ place : List Access, path = place.foldl Access.extend "$" ∧
      ((∃ part, input.at? place = some part ∧ found = part.kindName) ∨
      (∃ parent key entries, place = parent ++ [.key key] ∧
        input.at? parent = some (.object entries) ∧ key ∉ Dict.keys entries ∧ found = "null") ∨
      (∃ parent key entries builder recipe, place = parent ++ [.key key] ∧
        input.at? parent = some (.object entries) ∧
        registry.Reaches start input parent (.build builder) (.object entries) ∧
        registry.find? builder = some recipe ∧ key ∈ Dict.keys entries ∧
        (∀ field ∈ recipe.fields, field.key ≠ key) ∧
        (∀ other ∈ Dict.keys entries, (∀ field ∈ recipe.fields, field.key ≠ other) →
          ¬ other < key) ∧ found = "unknown field") ∨
      ∃ part builder, input.at? place = some part ∧
        registry.Reaches start input place (.build builder) part ∧ registry.find? builder = none)
  | .unknownEnumValue enumName text =>
    ∃ place part target values nullable inner, input.at? place = some part ∧
      part.text? = some text ∧ registry.Reaches start input place
        (.convert (.parseEnum enumName target values nullable :: inner)) part ∧ text ∉ values

/-- Read from the root, a located fault points into the input. -/
theorem Locates.pointsInto {start : Task} {input : Value}
    (located : registry.Locates start input "$" fault) : registry.PointsInto start input fault := by
  obtain ⟨place, task, part, reached, refused⟩ := located
  have leads := reached.at?
  cases refused with
  | unfit => exact ⟨place, rfl, .inl ⟨part, leads, rfl⟩⟩
  | missing parser own absent =>
    refine ⟨place ++ [.key _], (List.foldl_concat ..).symm,
      .inr (.inl ⟨place, _, _, rfl, leads, ?_, rfl⟩)⟩
    intro listed
    obtain ⟨value, held⟩ := Dict.get?_of_mem_keys listed
    exact nomatch absent.symm.trans held
  | unknown parser listed foreign least =>
    refine ⟨place ++ [.key _], ?_, .inr (.inr (.inl
      ⟨place, _, _, _, _, rfl, leads, reached, parser, listed, foreign, least, rfl⟩))⟩
    rw [List.foldl_concat, Access.extend]
  | noParser missing => exact ⟨place, rfl, .inr (.inr (.inr ⟨part, _, leads, reached, missing⟩))⟩
  | unlisted read unlisted =>
    exact ⟨place, part, _, _, _, _, leads, read, reached, unlisted⟩

/-- Every fault of a chain or of a parse function points into its input. A chain takes an absent
input for null. -/
theorem faults_point_into (registry : Registry) :
    (∀ chain input fault, registry.evaluate chain input = .error fault →
      registry.PointsInto (.convert chain.steps.reverse) (input.getD .null) fault) ∧
    ∀ builder input fault, registry.build builder input = .error fault →
      registry.PointsInto (.build builder) input fault := by
  constructor
  · intro chain input fault failed
    exact (registry.locates_of_error _ (.convert _) "$" fault (evaluateAt_error failed)).pointsInto
  · intro builder input fault failed
    exact (registry.locates_of_error input (.build builder) "$" fault failed).pointsInto

/-- Of two unknown keys in a child, the lesser one is shown. -/
theorem faults_point_into_tree :
    (⟨[treeParser]⟩ : Registry).build treeParser.1
      (.object [("child", .object [("age", .int 2), ("size", .int 1)])]) =
        .error (.malformedInput "$.child.age" "a field of `generated.inputs.Tree`" "unknown field") ∧
    (⟨[treeParser]⟩ : Registry).PointsInto (.build treeParser.1)
      (.object [("child", .object [("age", .int 2), ("size", .int 1)])])
      (.malformedInput "$.child.age" "a field of `generated.inputs.Tree`" "unknown field") := by
  have failed : (⟨[treeParser]⟩ : Registry).build treeParser.1
      (.object [("child", .object [("age", .int 2), ("size", .int 1)])]) =
        .error (.malformedInput "$.child.age" "a field of `generated.inputs.Tree`"
          "unknown field") := by
    rfl
  exact ⟨failed, (faults_point_into _).2 _ _ _ failed⟩

end Registry

end Typewright
