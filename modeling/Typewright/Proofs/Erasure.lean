import Typewright.Proofs.Conversion

/-! Taking coerced values back to raw input. Coercion loses nothing: the raw value that stands for
what a chain yields is coerced to the same again, absent keys, nulls and boxes included. -/
namespace Typewright

namespace Coerced

def isAbsent : Coerced → Bool
  | absent => true
  | _ => false

mutual

/-- The raw value that stands for a coerced one. An absent key has none of its own; records leave
its entry out. -/
def erase : Coerced → Value
  | absent | null => .null
  | scalar value => value
  | enum _ variant => .string variant
  | list items => .list (eraseAll items)
  | record _ fields => .ofEntries (eraseFields fields)
  | present inner => inner.erase

def eraseAll : List Coerced → List Value
  | [] => []
  | item :: rest => item.erase :: eraseAll rest

def eraseFields : List (String × Coerced) → List (String × Value)
  | [] => []
  | (key, value) :: rest =>
    if value.isAbsent then eraseFields rest else (key, value.erase) :: eraseFields rest

end

def erase? (value : Coerced) : Option Value := if value.isAbsent then none else some value.erase

@[simp] theorem getD_erase? (value : Coerced) : value.erase?.getD .null = value.erase := by
  cases value <;> rfl

theorem mem_keys_of_eraseFields {fields : List (String × Coerced)} {key : String}
    (listed : key ∈ Dict.keys (eraseFields fields)) : key ∈ fields.map Prod.fst := by
  induction fields with
  | nil => exact listed
  | cons field rest ih =>
    rw [eraseFields] at listed
    split at listed
    · exact .tail _ (ih listed)
    · rcases List.mem_cons.mp listed with rfl | later
      · exact .head _
      · exact .tail _ (ih later)

theorem nodup_keys_eraseFields {fields : List (String × Coerced)}
    (distinct : (fields.map Prod.fst).Nodup) : (Dict.keys (eraseFields fields)).Nodup := by
  induction fields with
  | nil => exact distinct
  | cons field rest ih =>
    obtain ⟨apart, later⟩ := List.nodup_cons.mp distinct
    rw [eraseFields]
    split
    · exact ih later
    · exact List.nodup_cons.mpr ⟨fun again => apart (mem_keys_of_eraseFields again), ih later⟩

/-- Under distinct keys each field is found by its key, unless the key was absent. -/
theorem get?_eraseFields {fields : List (String × Coerced)} {key : String} {value : Coerced}
    (distinct : (fields.map Prod.fst).Nodup) (listed : (key, value) ∈ fields) :
    Dict.get? (eraseFields fields) key = value.erase? := by
  induction fields with
  | nil => contradiction
  | cons field rest ih =>
    obtain ⟨apart, later⟩ := List.nodup_cons.mp distinct
    rcases List.mem_cons.mp listed with rfl | among
    · rw [eraseFields, erase?]
      by_cases absent : value.isAbsent
      · rw [if_pos absent, if_pos absent]
        exact Dict.get?_eq_none fun again => apart (mem_keys_of_eraseFields again)
      · rw [if_neg absent, if_neg absent, Dict.get?, if_pos rfl]
    · have other : key ≠ field.1 := by
        rintro rfl
        exact apart (List.mem_map.mpr ⟨_, among, rfl⟩)
      rw [eraseFields]
      split
      · exact ih later among
      · rw [Dict.get?, if_neg other]
        exact ih later among

end Coerced

namespace Registry

open CoercionFault

def DistinctKeys (registry : Registry) : Prop :=
  ∀ builder recipe, registry.find? builder = some recipe →
    (recipe.fields.map FieldCoercion.key).Nodup

variable {registry : Registry} {path again : String} {steps : List Step} {value : Value}
  {out : Coerced} {builder : QualifiedName}

theorem castValue_erase {shape : Shape} {nullable : Bool}
    (cast : castValue path shape nullable value = .ok out) :
    castValue again shape nullable out.erase = .ok out := by
  rcases castValue_ok cast with ⟨_, rfl, rfl⟩ | ⟨present, accepted, rfl⟩
  · rfl
  · simp [castValue, Coerced.erase, present, accepted]

theorem enumValue_erase {enumName : String} {values : List String} {nullable : Bool}
    (parsed : enumValue path enumName values nullable value = .ok out) :
    enumValue again enumName values nullable out.erase = .ok out := by
  rcases enumValue_ok parsed with ⟨_, rfl, rfl⟩ | ⟨text, listed, _, rfl⟩
  · rfl
  · simp [enumValue, Coerced.erase, Value.isNull, Value.text?, listed]

theorem erase_record_ne_null (record : QualifiedName) (fields : List (String × Coerced)) :
    (Coerced.record record fields).erase.isNull = false := by
  simp [Coerced.erase, Value.ofEntries, Value.isNull]

/-- Only null is coerced to what null stands for. -/
theorem isNull_erase (present : value.isNull = false)
    (converted : registry.convert value path steps = .ok out) : out.erase.isNull = false := by
  refine convert_induction (motive := fun value out => value.isNull = false →
    out.erase.isNull = false) ?_ ?_ ?_ ?_ ?_ converted present
  · exact id
  · exact fun _ there => there
  · exact fun _ _ _ _ _ => rfl
  · exact fun _ _ _ _ => rfl
  · exact fun _ name fields _ _ => erase_record_ne_null name fields

/-- The value is coerced to the same again, at any place and by any steps. -/
def Recovers (registry : Registry) (value : Value) : Prop :=
  ∀ steps path again out, registry.convert value path steps = .ok out →
    registry.convert out.erase again steps = .ok out

theorem evaluateAt_erase {chain : Chain} {input : Option Value}
    (recovers : registry.Recovers (input.getD .null))
    (evaluated : registry.evaluateAt chain path input = .ok out) :
    registry.evaluateAt chain again out.erase? = .ok out := by
  cases presence : chain.presence with
  | plain =>
    rw [evaluateAt_plain presence] at evaluated ⊢
    rw [Coerced.getD_erase?]
    exact recovers _ _ _ _ evaluated
  | boxed =>
    rw [evaluateAt_boxed presence] at evaluated ⊢
    cases input with
    | none =>
      obtain rfl := Except.ok.inj evaluated
      rfl
    | some value =>
      obtain ⟨inside, converted, rfl⟩ := map_eq_ok_iff.mp evaluated
      exact map_eq_ok_iff.mpr ⟨inside, recovers _ _ _ _ converted, rfl⟩

/-- A record is built alike from its own entries, if what is inside the value recovers. -/
theorem buildAt_erase (distinct : registry.DistinctKeys)
    (smaller : ∀ part, sizeOf part < sizeOf value → registry.Recovers part)
    (built : registry.buildAt value path builder = .ok out) :
    registry.buildAt out.erase again builder = .ok out := by
  obtain ⟨recipe, entries, fields, found, rfl, each, rfl⟩ := buildAt_ok built
  have keys : fields.map Prod.fst = recipe.fields.map FieldCoercion.key := by
    rw [← List.forall₂_eq_eq_eq, List.forall₂_map_left_iff, List.forall₂_map_right_iff]
    refine each.flip.imp fun entry field evaluated => ?_
    obtain ⟨_, _, rfl⟩ := evaluateField_eq_ok_iff.mp evaluated
    rfl
  have nodup : (fields.map Prod.fst).Nodup := keys ▸ distinct builder recipe found
  have sorted (key : String) :
      Dict.get? (Dict.ofList (Coerced.eraseFields fields)) key =
        Dict.get? (Coerced.eraseFields fields) key :=
    Dict.get?_ofList (Coerced.nodup_keys_eraseFields nodup) key
  have known : recipe.unknownKey? (Dict.keys (Dict.ofList (Coerced.eraseFields fields))) = none := by
    refine Recipe.unknownKey?_eq_none fun key listed => ?_
    obtain ⟨value, held⟩ := Dict.get?_of_mem_keys listed
    rw [sorted] at held
    have own : key ∈ Dict.keys (Coerced.eraseFields fields) :=
      List.mem_map.mpr ⟨_, Dict.mem_of_get? held, rfl⟩
    exact keys ▸ Coerced.mem_keys_of_eraseFields own
  have listed : List.Forall₂ (fun field entry => entry ∈ fields ∧
      registry.evaluateField path entries field = .ok entry) recipe.fields fields :=
    ((List.forall₂_and_left _ _).mpr ⟨fun _ among => among, each.flip⟩).flip
  have fresh : List.Forall₂ (fun field entry =>
      registry.evaluateField again (Dict.ofList (Coerced.eraseFields fields)) field = .ok entry)
      recipe.fields fields := by
    refine listed.imp ?_
    rintro field entry ⟨among, evaluated⟩
    obtain ⟨out, converted, rfl⟩ := evaluateField_eq_ok_iff.mp evaluated
    refine evaluateField_eq_ok_iff.mpr ⟨out, ?_, rfl⟩
    rw [sorted, Coerced.get?_eraseFields nodup among]
    exact evaluateAt_erase (smaller _ (Value.sizeOf_getD_lt entries field.key)) converted
  show registry.buildAt (.object (Dict.ofList (Coerced.eraseFields fields))) again builder = _
  rw [buildAt_object found, known]
  exact map_eq_ok_iff.mpr ⟨fields, mapM_eq_ok_iff.mpr fresh, rfl⟩

theorem items_erase {items : List Value} {outs : List Coerced}
    (recovers : ∀ item ∈ items, registry.Recovers item) {first second : Nat}
    (each : List.Forall₂ (fun (entry : Value × Nat) out =>
      registry.convert entry.1 s!"{path}[{entry.2}]" steps = .ok out) (items.zipIdx first) outs) :
    List.Forall₂ (fun (entry : Value × Nat) out =>
      registry.convert entry.1 s!"{again}[{entry.2}]" steps = .ok out)
      ((Coerced.eraseAll outs).zipIdx second) outs := by
  induction items generalizing first second outs with
  | nil =>
    cases each
    exact .nil
  | cons item rest ih =>
    rw [List.zipIdx_cons] at each
    obtain ⟨head, tail, converted, later, rfl⟩ := List.forall₂_cons_left_iff.mp each
    rw [List.forall_mem_cons] at recovers
    rw [Coerced.eraseAll, List.zipIdx_cons]
    exact .cons (recovers.1 _ _ _ _ converted) (ih recovers.2 later)

/-- One value recovers if all that is inside it does. -/
theorem recovers_of_smaller (distinct : registry.DistinctKeys)
    (smaller : ∀ part, sizeOf part < sizeOf value → registry.Recovers part) :
    registry.Recovers value := by
  intro steps path again out converted
  induction steps generalizing out with
  | nil =>
    obtain rfl := Except.ok.inj converted
    rfl
  | cons step inner ih =>
    cases step with
    | nonNull =>
      obtain ⟨there, inside⟩ := convert_nonNull_ok converted
      rw [convert_nonNull, if_neg (by simp [isNull_erase there inside])]
      exact ih out inside
    | mapList nullable elements =>
      rcases convert_mapList_ok converted with ⟨_, rfl, rfl⟩ | ⟨items, outs, rfl, rfl, each⟩
      · rw [Coerced.erase, convert_mapList_of_not_list (by simp)]
        rfl
      · rw [Coerced.erase, convert_mapList_list]
        refine map_eq_ok_iff.mpr ⟨outs, mapM_eq_ok_iff.mpr ?_, rfl⟩
        exact items_erase (fun item listed => smaller item (Value.sizeOf_lt_of_mem listed)) each
    | cast target shape nullable =>
      rw [convert_cast] at converted ⊢
      exact castValue_erase converted
    | parseEnum enumName target values nullable =>
      rw [convert_parseEnum] at converted ⊢
      exact enumValue_erase converted
    | buildInput input builder nullable =>
      rcases convert_buildInput_ok converted with ⟨_, rfl, rfl⟩ | ⟨_, built⟩
      · rfl
      · obtain ⟨recipe, _, fields, _, _, _, rfl⟩ := buildAt_ok built
        rw [convert_buildInput, if_neg (by simp [erase_record_ne_null])]
        exact buildAt_erase distinct smaller built

theorem recovers (distinct : registry.DistinctKeys) (value : Value) : registry.Recovers value := by
  induction value using Value.inside_induction with
  | inside value smaller => exact recovers_of_smaller distinct smaller

/-- What a chain or a parse function yields is coerced to the same again, once it is erased. -/
theorem evaluate_erase (distinct : registry.DistinctKeys) :
    (∀ chain input out, registry.evaluate chain input = .ok out →
      registry.evaluate chain out.erase? = .ok out) ∧
    ∀ builder input out, registry.build builder input = .ok out →
      registry.build builder out.erase = .ok out := by
  constructor
  · intro chain input out evaluated
    exact evaluateAt_erase (recovers distinct _) evaluated
  · intro builder input out built
    exact buildAt_erase distinct (fun part _ => recovers distinct part) built

/-- A parse function that calls itself, with a list of enum values and two boxes. -/
def treeParser : QualifiedName × Recipe := (⟨"generated.inputs", "parse_tree"⟩,
  ⟨⟨"generated.inputs", "Tree"⟩, [
    ⟨"colors", [.parseEnum "Color" .unknown ["RED", "BLUE"] false, .nonNull, .mapList true false],
      .plain, .optional .unknown⟩,
    ⟨"label", [.cast .unknown .string true], .boxed, .optional .unknown⟩,
    ⟨"child", [.buildInput "Tree" ⟨"generated.inputs", "parse_tree"⟩ true], .boxed,
      .optional .unknown⟩]⟩)

/-- A tree with one child, whose label is null and not absent. -/
def smallTree : Coerced :=
  let leaf : Coerced := .record ⟨"generated.inputs", "Tree"⟩
    [("colors", .list [.enum "Color" "RED"]), ("label", .present .null), ("child", .absent)]
  .record ⟨"generated.inputs", "Tree"⟩
    [("colors", .null), ("label", .absent), ("child", .present leaf)]

/-- The list that was missing comes back as null, and the label and the child that were missing
stay so. -/
theorem evaluate_erase_tree :
    (⟨[treeParser]⟩ : Registry).DistinctKeys ∧
    (⟨[treeParser]⟩ : Registry).build treeParser.1 (.object [("child", .object
      [("colors", .list [.enum "RED"]), ("label", .null)])]) = .ok smallTree ∧
    smallTree.erase = .object [("child", .object
      [("colors", .list [.string "RED"]), ("label", .null)]), ("colors", .null)] ∧
    (⟨[treeParser]⟩ : Registry).build treeParser.1 smallTree.erase = .ok smallTree := by
  have distinct : (⟨[treeParser]⟩ : Registry).DistinctKeys := by
    intro builder recipe found
    obtain ⟨entry, first, rfl⟩ := Option.map_eq_some_iff.mp found
    obtain rfl := List.mem_singleton.mp (List.mem_of_find?_eq_some first)
    decide
  have built : (⟨[treeParser]⟩ : Registry).build treeParser.1 (.object [("child", .object
      [("colors", .list [.enum "RED"]), ("label", .null)])]) = .ok smallTree := by
    rfl
  exact ⟨distinct, built, rfl, (evaluate_erase distinct).2 _ _ _ built⟩

end Registry

end Typewright
