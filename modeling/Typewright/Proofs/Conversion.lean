import Typewright.Coercion.Registry
import Typewright.Proofs.Results
import Typewright.Proofs.Tables

/-! Equations of conversion on raw values. A value is taken apart before it is converted; here
every step is shown to convert elements and entries as raw values again, so that proofs go along
the value and never see it taken apart. -/
namespace Typewright

theorem leastOf_eq_none {texts : List String} : leastOf texts = none ↔ texts = [] := by
  cases texts with
  | nil => simp [leastOf]
  | cons text rest =>
    rw [leastOf]
    split <;> simp

theorem leastOf_eq_some {texts : List String} {least : String}
    (found : leastOf texts = some least) : least ∈ texts ∧ ∀ text ∈ texts, ¬ text < least := by
  induction texts generalizing least with
  | nil => contradiction
  | cons text rest ih =>
    rw [leastOf] at found
    split at found
    next none =>
      obtain rfl := Option.some.inj found
      obtain rfl := leastOf_eq_none.mp none
      exact ⟨.head _, List.forall_mem_singleton.mpr (String.lt_irrefl text)⟩
    next other some =>
      obtain ⟨listed, below⟩ := ih some
      obtain rfl := Option.some.inj found
      rw [List.forall_mem_cons]
      split
      next before => exact ⟨.tail _ listed, String.lt_asymm before, below⟩
      next after =>
        refine ⟨.head _, String.lt_irrefl text, fun deeper among => ?_⟩
        rw [String.not_lt] at after ⊢
        exact String.le_trans after (String.not_lt.mp (below deeper among))

theorem Recipe.unknownKey?_eq_none {recipe : Recipe} {keys : List String}
    (known : ∀ key ∈ keys, key ∈ recipe.fields.map FieldCoercion.key) :
    recipe.unknownKey? keys = none := by
  refine leastOf_eq_none.mpr (List.filter_eq_nil_iff.mpr fun key listed => ?_)
  obtain ⟨field, among, same⟩ := List.mem_map.mp (known key listed)
  simpa using ⟨field, among, same⟩

theorem Recipe.unknownKey?_eq_some {recipe : Recipe} {keys : List String} {key : String}
    (found : recipe.unknownKey? keys = some key) :
    key ∈ keys ∧ (∀ field ∈ recipe.fields, field.key ≠ key) ∧
      ∀ other ∈ keys, (∀ field ∈ recipe.fields, field.key ≠ other) → ¬ other < key := by
  obtain ⟨among, least⟩ := leastOf_eq_some found
  simp only [List.mem_filter, Bool.not_eq_true', List.any_eq_false, beq_iff_eq] at among least
  exact ⟨among.1, among.2, fun other listed foreign => least other ⟨listed, foreign⟩⟩

theorem Value.isNull_iff {value : Value} : value.isNull = true ↔ value = .null := by
  cases value <;> simp [isNull]

/-- Induction along what is inside a value. -/
@[elab_as_elim]
theorem Value.inside_induction {motive : Value → Prop}
    (inside : ∀ value, (∀ part, sizeOf part < sizeOf value → motive part) → motive value)
    (value : Value) : motive value :=
  (measure sizeOf).wf.induction value inside

theorem Value.sizeOf_lt_of_mem {items : List Value} {item : Value} (member : item ∈ items) :
    sizeOf item < sizeOf (Value.list items) := by
  have := List.sizeOf_lt_of_mem member
  simp only [list.sizeOf_spec]
  omega

/-- What is under a key of an object is smaller than the object, and so is the null that stands for
a missing key. -/
theorem Value.sizeOf_getD_lt (entries : Dict Value) (key : String) :
    sizeOf ((entries.get? key).getD .null) < sizeOf (Value.object entries) := by
  cases found : entries.get? key with
  | none =>
    have positive : 0 < sizeOf entries := by
      cases entries with
      | nil => decide
      | cons _ _ =>
        simp only [List.cons.sizeOf_spec]
        omega
    simp only [Option.getD_none, null.sizeOf_spec, object.sizeOf_spec]
    omega
  | some value =>
    have := List.sizeOf_lt_of_mem (Dict.mem_of_get? found)
    simp only [Option.getD_some, object.sizeOf_spec, Prod.mk.sizeOf_spec] at this ⊢
    omega

namespace Registry

open CoercionFault

variable {registry : Registry} {path : String} {inner : List Step} {value : Value}

@[simp] theorem convert_nonNull :
    registry.convert value path (.nonNull :: inner) =
      if value.isNull then .error (malformed path "non-null value" value)
      else registry.convert value path inner := rfl

@[simp] theorem convert_cast :
    registry.convert value path (.cast target shape nullable :: inner) =
      castValue path shape nullable value := rfl

@[simp] theorem convert_parseEnum :
    registry.convert value path (.parseEnum enumName target values nullable :: inner) =
      enumValue path enumName values nullable value := rfl

@[simp] theorem convert_buildInput :
    registry.convert value path (.buildInput input builder nullable :: inner) =
      if value.isNull then
        if nullable then .ok .null else .error (malformed path "non-null value" value)
      else registry.buildAt value path builder := rfl

theorem convertItems_eq (index : Nat) (items : List Value) :
    convertItems path inner index (items.map registry.convert) =
      (items.zipIdx index).mapM fun entry =>
        registry.convert entry.1 s!"{path}[{entry.2}]" inner := by
  induction items generalizing index with
  | nil => rfl
  | cons item rest ih =>
    rw [List.map_cons, convertItems, ih, List.zipIdx_cons, List.mapM_cons]

@[simp] theorem convert_mapList_list {items : List Value} :
    registry.convert (.list items) path (.mapList nullable elements :: inner) =
      (items.zipIdx.mapM fun entry =>
        registry.convert entry.1 s!"{path}[{entry.2}]" inner).map .list := by
  rw [← convertItems_eq, ← openedItems_eq]
  rfl

theorem convert_mapList_of_not_list (apart : ∀ items, value ≠ .list items) :
    registry.convert value path (.mapList nullable elements :: inner) =
      if nullable && value.isNull then .ok .null else .error (malformed path "list" value) := by
  cases value with
  | list items => exact absurd rfl (apart items)
  | _ => rfl

theorem castValue_ok {shape : Shape} {nullable : Bool} {out : Coerced}
    (cast : castValue path shape nullable value = .ok out) :
    (value = .null ∧ nullable = true ∧ out = .null) ∨
      (value.isNull = false ∧ shape.accepts value = true ∧ out = .scalar value) := by
  by_cases null : value.isNull
  · obtain rfl := Value.isNull_iff.mp null
    cases nullable with
    | false => contradiction
    | true => exact .inl ⟨rfl, rfl, (Except.ok.inj cast).symm⟩
  · rw [castValue, if_neg null] at cast
    by_cases accepted : shape.accepts value
    · rw [if_pos accepted] at cast
      exact .inr ⟨by simpa using null, accepted, (Except.ok.inj cast).symm⟩
    · rw [if_neg accepted] at cast
      contradiction

theorem enumValue_ok {enumName : String} {values : List String} {nullable : Bool}
    {out : Coerced}
    (parsed : enumValue path enumName values nullable value = .ok out) :
    (value = .null ∧ nullable = true ∧ out = .null) ∨
      ∃ text ∈ values, value.text? = some text ∧ out = .enum enumName text := by
  by_cases null : value.isNull
  · obtain rfl := Value.isNull_iff.mp null
    cases nullable with
    | false => contradiction
    | true => exact .inl ⟨rfl, rfl, (Except.ok.inj parsed).symm⟩
  · rw [enumValue, if_neg null] at parsed
    split at parsed
    next text read =>
      by_cases listed : text ∈ values
      · rw [if_pos listed] at parsed
        exact .inr ⟨text, listed, read, (Except.ok.inj parsed).symm⟩
      · rw [if_neg listed] at parsed
        contradiction
    next => contradiction

theorem convert_nonNull_ok {out : Coerced}
    (converted : registry.convert value path (.nonNull :: inner) = .ok out) :
    value.isNull = false ∧ registry.convert value path inner = .ok out := by
  rw [convert_nonNull] at converted
  split at converted
  · contradiction
  next there => exact ⟨by simpa using there, converted⟩

theorem convert_mapList_ok {nullable elements : Bool} {out : Coerced}
    (converted : registry.convert value path (.mapList nullable elements :: inner) = .ok out) :
    (value = .null ∧ nullable = true ∧ out = .null) ∨
      ∃ items outs, value = .list items ∧ out = .list outs ∧
        List.Forall₂ (fun (entry : Value × Nat) out =>
          registry.convert entry.1 s!"{path}[{entry.2}]" inner = .ok out) items.zipIdx outs := by
  by_cases list : ∃ items, value = .list items
  · obtain ⟨items, rfl⟩ := list
    rw [convert_mapList_list] at converted
    obtain ⟨outs, each, rfl⟩ := map_eq_ok_iff.mp converted
    exact .inr ⟨items, outs, rfl, rfl, mapM_eq_ok_iff.mp each⟩
  · rw [convert_mapList_of_not_list (not_exists.mp list)] at converted
    split at converted
    next taken =>
      obtain ⟨allowed, null⟩ := Bool.and_eq_true_iff.mp taken
      exact .inl ⟨Value.isNull_iff.mp null, allowed, (Except.ok.inj converted).symm⟩
    next => contradiction

theorem convert_buildInput_ok {input : String} {builder : QualifiedName} {nullable : Bool}
    {out : Coerced}
    (converted : registry.convert value path (.buildInput input builder nullable :: inner) =
      .ok out) :
    (value = .null ∧ nullable = true ∧ out = .null) ∨
      (value.isNull = false ∧ registry.buildAt value path builder = .ok out) := by
  rw [convert_buildInput] at converted
  split at converted
  next null =>
    cases nullable with
    | false => contradiction
    | true => exact .inl ⟨Value.isNull_iff.mp null, rfl, (Except.ok.inj converted).symm⟩
  next there => exact .inr ⟨by simpa using there, converted⟩

theorem evaluateAt_plain {chain : Chain} (plain : chain.presence = .plain)
    (input : Option Value) :
    registry.evaluateAt chain path input =
      registry.convert (input.getD .null) path chain.steps.reverse := by
  cases input <;> simp [evaluateAt, Chain.convert, plain, convert_null]

theorem evaluateAt_boxed {chain : Chain} (boxed : chain.presence = .boxed)
    (input : Option Value) :
    registry.evaluateAt chain path input =
      match input with
      | none => .ok .absent
      | some value => (registry.convert value path chain.steps.reverse).map .present := by
  cases input <;> simp [evaluateAt, Chain.convert, boxed]

theorem evaluateAt_ok {chain : Chain} {input : Option Value} {out : Coerced}
    (evaluated : registry.evaluateAt chain path input = .ok out) :
    out = .absent ∨ ∃ inside,
      registry.convert (input.getD .null) path chain.steps.reverse = .ok inside ∧
        (out = inside ∨ out = .present inside) := by
  cases presence : chain.presence with
  | plain =>
    rw [evaluateAt_plain presence] at evaluated
    exact .inr ⟨out, evaluated, .inl rfl⟩
  | boxed =>
    rw [evaluateAt_boxed presence] at evaluated
    cases input with
    | none => exact .inl (Except.ok.inj evaluated).symm
    | some value =>
      obtain ⟨inside, converted, rfl⟩ := map_eq_ok_iff.mp evaluated
      exact .inr ⟨inside, converted, .inr rfl⟩

theorem evaluateField_eq_ok_iff {entries : Dict Value} {field : FieldCoercion}
    {entry : String × Coerced} :
    registry.evaluateField path entries field = .ok entry ↔
      ∃ out, registry.evaluateAt field.chain s!"{path}.{field.key}" (entries.get? field.key) =
        .ok out ∧ entry = (field.key, out) := by
  rw [evaluateField]
  cases registry.evaluateAt field.chain s!"{path}.{field.key}" (entries.get? field.key) with
  | error fault => simp [bind, Except.bind]
  | ok out => simp [bind, Except.bind, pure, Except.pure, eq_comm]

theorem convertFields_eq (fields : List FieldCoercion) (entries : Dict Value) :
    convertFields convertNull path (registry.openedEntries entries) fields =
      fields.mapM (registry.evaluateField path entries) := by
  induction fields with
  | nil => rfl
  | cons field rest ih =>
    rw [convertFields, ih, List.mapM_cons, evaluateField, openedEntries_eq, Dict.get?_map,
      bind_assoc]
    rfl

/-- A parse function that is there builds its record from an object without unknown keys, field
by field in the order of its recipe. -/
theorem buildAt_object {recipe : Recipe} {entries : List (String × Value)} {builder : QualifiedName}
    (found : registry.find? builder = some recipe) :
    registry.buildAt (.object entries) path builder =
      match recipe.unknownKey? (Dict.keys entries) with
      | some key => .error (unknownField path key recipe.record)
      | none =>
        (recipe.fields.mapM (registry.evaluateField path entries)).map (.record recipe.record) := by
  have keys : Dict.keys (registry.openedEntries entries) = Dict.keys entries := by
    rw [openedEntries_eq, Dict.keys_map]
  rw [← convertFields_eq]
  cases unknown : recipe.unknownKey? (Dict.keys entries) with
  | some key => simp only [buildAt, buildOpened, found, opened, keys, unknown]
  | none => simp only [buildAt, buildOpened, found, opened, keys, unknown]

theorem buildAt_not_object {recipe : Recipe} {builder : QualifiedName}
    (found : registry.find? builder = some recipe) (apart : ∀ entries, value ≠ .object entries) :
    registry.buildAt value path builder = .error (malformed path "object" value) := by
  cases value with
  | object entries => exact absurd rfl (apart entries)
  | _ => simp only [buildAt, buildOpened, found, opened]

theorem buildAt_missing {builder : QualifiedName} (missing : registry.find? builder = none) :
    registry.buildAt value path builder = .error (noParser path builder) := by
  simp only [buildAt, buildOpened, missing]

theorem buildAt_ok {builder : QualifiedName} {out : Coerced}
    (built : registry.buildAt value path builder = .ok out) :
    ∃ recipe entries fields, registry.find? builder = some recipe ∧ value = .object entries ∧
      List.Forall₂ (fun field entry => registry.evaluateField path entries field = .ok entry)
        recipe.fields fields ∧ out = .record recipe.record fields := by
  cases found : registry.find? builder with
  | none => simp [buildAt_missing found] at built
  | some recipe =>
    cases value with
    | object entries =>
      rw [buildAt_object found] at built
      split at built
      · contradiction
      · obtain ⟨fields, each, rfl⟩ := map_eq_ok_iff.mp built
        exact ⟨recipe, entries, fields, rfl, rfl, mapM_eq_ok_iff.mp each, rfl⟩
    | null | bool _ | int _ | float _ | string _ | enum _ | list _ =>
      simp [buildAt_not_object found] at built

/-- What a parse function builds is yielded by a step that hands the value to it. -/
theorem exists_convert_of_buildAt {builder : QualifiedName} {out : Coerced}
    (built : registry.buildAt value path builder = .ok out) :
    ∃ steps, registry.convert value path steps = .ok out := by
  obtain ⟨recipe, entries, _, _, rfl, _⟩ := buildAt_ok built
  refine ⟨[.buildInput recipe.record.identifier builder false], ?_⟩
  rw [convert_buildInput, if_neg (by simp [Value.isNull]), built]

/-- Induction along what is yielded, whatever the steps that yield it. -/
theorem convert_induction {motive : Value → Coerced → Prop}
    (null : motive .null .null)
    (scalar : ∀ value, motive value (.scalar value))
    (enum : ∀ value enumName text, value.text? = some text → motive value (.enum enumName text))
    (list : ∀ items outs, (∀ out ∈ outs, ∃ item ∈ items, motive item out) →
      motive (.list items) (.list outs))
    (record : ∀ entries name fields, (∀ field ∈ fields, field.2 = .absent ∨
        ∃ key inside, motive ((Dict.get? entries key).getD .null) inside ∧
          (field.2 = inside ∨ field.2 = .present inside)) →
      motive (.object entries) (.record name fields))
    {steps : List Step} {out : Coerced}
    (converted : registry.convert value path steps = .ok out) : motive value out := by
  induction value using Value.inside_induction generalizing steps path out with
  | inside value smaller =>
    induction steps with
    | nil =>
      obtain rfl := Except.ok.inj converted
      exact scalar value
    | cons step inner ih =>
      cases step with
      | nonNull => exact ih (convert_nonNull_ok converted).2
      | mapList nullable elements =>
        rcases convert_mapList_ok converted with ⟨rfl, _, rfl⟩ | ⟨items, outs, rfl, rfl, each⟩
        · exact null
        · refine list items outs fun out listed => ?_
          obtain ⟨entry, among, made⟩ := each.exists_of_mem_right listed
          have inside : entry.1 ∈ items := List.fst_mem_of_mem_zipIdx among
          exact ⟨entry.1, inside, smaller _ (Value.sizeOf_lt_of_mem inside) made⟩
      | cast target shape nullable =>
        rw [convert_cast] at converted
        rcases castValue_ok converted with ⟨rfl, _, rfl⟩ | ⟨_, _, rfl⟩
        · exact null
        · exact scalar value
      | parseEnum enumName target values nullable =>
        rw [convert_parseEnum] at converted
        rcases enumValue_ok converted with ⟨rfl, _, rfl⟩ | ⟨text, _, read, rfl⟩
        · exact null
        · exact enum value enumName text read
      | buildInput input builder nullable =>
        rcases convert_buildInput_ok converted with ⟨rfl, _, rfl⟩ | ⟨_, built⟩
        · exact null
        · obtain ⟨recipe, entries, fields, _, rfl, each, rfl⟩ := buildAt_ok built
          refine record entries _ fields fun entry listed => ?_
          obtain ⟨field, _, made⟩ := each.exists_of_mem_right listed
          obtain ⟨out, evaluated, rfl⟩ := evaluateField_eq_ok_iff.mp made
          refine (evaluateAt_ok evaluated).imp id fun ⟨inside, converted, held⟩ => ?_
          exact ⟨field.key, inside,
            smaller _ (Value.sizeOf_getD_lt entries field.key) converted, held⟩

end Registry

end Typewright
