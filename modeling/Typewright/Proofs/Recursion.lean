import Mathlib.Logic.Relation
import Typewright.Proofs.Erasure

/-! Parse functions inside one another. They may call themselves and each other in cycles, and every
run of them ends: a call goes one object deeper into the input, and null reaches no parse function.
Here conversion recurses on raw values as they come, and is cut off where more parse functions would
stand inside one another than it may call. -/
namespace Typewright

namespace Value

mutual

/-- How many objects stand inside one another. -/
def objectDepth : Value → Nat
  | list items => depthOfItems items
  | object entries => depthOfEntries entries + 1
  | null | bool _ | int _ | float _ | string _ | enum _ => 0

def depthOfItems : List Value → Nat
  | [] => 0
  | item :: rest => max item.objectDepth (depthOfItems rest)

def depthOfEntries : List (String × Value) → Nat
  | [] => 0
  | (_, value) :: rest => max value.objectDepth (depthOfEntries rest)

end

theorem objectDepth_le_of_mem {items : List Value} {item : Value} (member : item ∈ items) :
    item.objectDepth ≤ (list items).objectDepth := by
  rw [objectDepth]
  induction items with
  | nil => contradiction
  | cons first rest ih =>
    rw [depthOfItems]
    rcases List.mem_cons.mp member with rfl | later
    · exact Nat.le_max_left _ _
    · exact Nat.le_trans (ih later) (Nat.le_max_right _ _)

theorem objectDepth_getD_lt (entries : Dict Value) (key : String) :
    ((entries.get? key).getD .null).objectDepth < (object entries).objectDepth := by
  rw [objectDepth, Nat.lt_succ_iff]
  induction entries with
  | nil => exact Nat.le_refl 0
  | cons entry rest ih =>
    rw [depthOfEntries, Dict.get?]
    split
    · exact Nat.le_max_left _ _
    · exact Nat.le_trans ih (Nat.le_max_right _ _)

end Value

namespace Coerced

mutual

def recordDepth : Coerced → Nat
  | list items => depthOfItems items
  | record _ fields => depthOfFields fields + 1
  | present inner => inner.recordDepth
  | absent | null | scalar _ | enum _ _ => 0

def depthOfItems : List Coerced → Nat
  | [] => 0
  | item :: rest => max item.recordDepth (depthOfItems rest)

def depthOfFields : List (String × Coerced) → Nat
  | [] => 0
  | (_, value) :: rest => max value.recordDepth (depthOfFields rest)

end

theorem depthOfItems_le {items : List Coerced} {bound : Nat}
    (each : ∀ item ∈ items, item.recordDepth ≤ bound) : depthOfItems items ≤ bound := by
  induction items with
  | nil => exact Nat.zero_le _
  | cons item rest ih =>
    rw [List.forall_mem_cons] at each
    exact Nat.max_le.mpr ⟨each.1, ih each.2⟩

theorem depthOfFields_le {fields : List (String × Coerced)} {bound : Nat}
    (each : ∀ field ∈ fields, field.2.recordDepth ≤ bound) : depthOfFields fields ≤ bound := by
  induction fields with
  | nil => exact Nat.zero_le _
  | cons field rest ih =>
    rw [List.forall_mem_cons] at each
    exact Nat.max_le.mpr ⟨each.1, ih each.2⟩

end Coerced

/-- A run that may be cut off. If it is, it has no outcome. -/
abbrev Bounded := ExceptT CoercionFault Option

namespace Bounded

def whole (outcome : Except CoercionFault α) : Bounded α := ExceptT.mk (some outcome)

theorem whole_bind (outcome : Except CoercionFault α) (next : α → Except CoercionFault β) :
    (whole outcome >>= fun value => whole (next value)) = whole (outcome >>= next) := by
  cases outcome <;> rfl

theorem whole_map (f : α → β) (outcome : Except CoercionFault α) :
    f <$> whole outcome = whole (outcome.map f) := by
  cases outcome <;> rfl

theorem mapM_whole {run : α → Bounded β} {outcome : α → Except CoercionFault β} {xs : List α}
    (each : ∀ x ∈ xs, run x = whole (outcome x)) : xs.mapM run = whole (xs.mapM outcome) := by
  induction xs with
  | nil => rfl
  | cons x rest ih =>
    rw [List.forall_mem_cons] at each
    rw [List.mapM_cons, List.mapM_cons, each.1, ih each.2, ← whole_bind]
    refine bind_congr fun first => ?_
    rw [← whole_bind]
    rfl

end Bounded

open CoercionFault Bounded

def applySteps (build : Value → String → QualifiedName → Bounded Coerced) :
    List Step → Value → String → Bounded Coerced
  | [], value, _ => return .scalar value
  | .nonNull :: inner, value, path =>
    if value.isNull then throw (malformed path "non-null value" value)
    else applySteps build inner value path
  | .mapList nullable _ :: inner, value, path =>
    match value with
    | .list items =>
      .list <$> items.zipIdx.mapM fun entry => applySteps build inner entry.1 s!"{path}[{entry.2}]"
    | other =>
      if nullable && other.isNull then return .null else throw (malformed path "list" other)
  | .cast _ shape nullable :: _, value, path => whole (castValue path shape nullable value)
  | .parseEnum enumName _ values nullable :: _, value, path =>
    whole (enumValue path enumName values nullable value)
  | .buildInput _ builder nullable :: _, value, path =>
    if value.isNull then
      if nullable then return .null else throw (malformed path "non-null value" value)
    else build value path builder

def Chain.applyTo (chain : Chain) (build : Value → String → QualifiedName → Bounded Coerced)
    (path : String) (input : Option Value) : Bounded Coerced :=
  match chain.presence, input with
  | .boxed, none => return .absent
  | .boxed, some value => .present <$> applySteps build chain.steps.reverse value path
  | .plain, value => applySteps build chain.steps.reverse (value.getD .null) path

namespace Registry

/-- Runs a parse function, with at most `limit` of them inside one another. -/
def buildWithin (registry : Registry) :
    (limit : Nat) → Value → String → QualifiedName → Bounded Coerced
  | 0, _, _, _ => ExceptT.mk none
  | limit + 1, value, path, builder =>
    match registry.find? builder, value with
    | none, _ => throw (noParser path builder)
    | some recipe, .object entries =>
      match recipe.unknownKey? (Dict.keys entries) with
      | some key => throw (unknownField path key recipe.record)
      | none =>
        .record recipe.record <$> recipe.fields.mapM fun field => do
          let value ← field.chain.applyTo (registry.buildWithin limit) s!"{path}.{field.key}"
            (Dict.get? entries field.key)
          return (field.key, value)
    | some _, _ => throw (malformed path "object" value)

def evaluateWithin (registry : Registry) (limit : Nat) (chain : Chain) (input : Option Value) :
    Bounded Coerced :=
  chain.applyTo (registry.buildWithin limit) "$" input

variable {registry : Registry} {path : String} {value : Value} {out : Coerced}
  {builder : QualifiedName}

def Settles (registry : Registry) (value : Value) : Prop :=
  ∀ limit, value.objectDepth < limit → ∀ path,
    (∀ steps, applySteps (registry.buildWithin limit) steps value path =
      whole (registry.convert value path steps)) ∧
    ∀ builder, registry.buildWithin limit value path builder =
      whole (registry.buildAt value path builder)

theorem applyTo_whole {chain : Chain} {input : Option Value} {limit : Nat}
    (settles : registry.Settles (input.getD .null))
    (enough : (input.getD .null).objectDepth < limit) :
    chain.applyTo (registry.buildWithin limit) path input =
      whole (registry.evaluateAt chain path input) := by
  have applied := (settles limit enough path).1 chain.steps.reverse
  cases presence : chain.presence with
  | plain => simp only [Chain.applyTo, presence, evaluateAt_plain presence, applied]
  | boxed =>
    rw [evaluateAt_boxed presence]
    cases input with
    | none => simp only [Chain.applyTo, presence]; rfl
    | some value =>
      simp only [Option.getD_some] at applied
      simp only [Chain.applyTo, presence, applied, whole_map]

/-- A parse function goes one object deeper with what it calls. -/
theorem buildWithin_whole {limit : Nat} (enough : value.objectDepth < limit)
    (smaller : ∀ part, sizeOf part < sizeOf value → registry.Settles part) :
    registry.buildWithin limit value path builder =
      whole (registry.buildAt value path builder) := by
  obtain ⟨limit, rfl⟩ := Nat.exists_eq_succ_of_ne_zero (Nat.ne_of_gt (Nat.zero_lt_of_lt enough))
  cases found : registry.find? builder with
  | none =>
    rw [buildAt_missing found]
    simp only [buildWithin, found]
    rfl
  | some recipe =>
    by_cases object : ∃ entries, value = .object entries
    · obtain ⟨entries, rfl⟩ := object
      simp only [buildWithin, found, buildAt_object found]
      cases recipe.unknownKey? (Dict.keys entries) with
      | some key => rfl
      | none =>
        rw [← whole_map, mapM_whole fun field _ => ?_]
        have deeper := Value.objectDepth_getD_lt entries field.key
        rw [applyTo_whole (smaller _ (Value.sizeOf_getD_lt entries field.key)) (by omega),
          evaluateField, ← whole_bind]
        rfl
    · rw [buildAt_not_object found (not_exists.mp object)]
      cases value with
      | object entries => exact absurd ⟨entries, rfl⟩ object
      | null | bool _ | int _ | float _ | string _ | enum _ | list _ =>
        simp only [buildWithin, found]
        rfl

theorem applySteps_whole {limit : Nat} (enough : value.objectDepth < limit)
    (smaller : ∀ part, sizeOf part < sizeOf value → registry.Settles part) (steps : List Step) :
    applySteps (registry.buildWithin limit) steps value path =
      whole (registry.convert value path steps) := by
  induction steps with
  | nil => rfl
  | cons step inner ih =>
    cases step with
    | nonNull =>
      rw [applySteps, convert_nonNull, ih]
      split <;> rfl
    | mapList nullable elements =>
      by_cases list : ∃ items, value = .list items
      · obtain ⟨items, rfl⟩ := list
        rw [applySteps, convert_mapList_list, ← whole_map, mapM_whole fun entry among => ?_]
        have listed : entry.1 ∈ items := List.fst_mem_of_mem_zipIdx among
        have within := Value.objectDepth_le_of_mem listed
        exact (smaller _ (Value.sizeOf_lt_of_mem listed) limit (by omega) _).1 inner
      · rw [convert_mapList_of_not_list (not_exists.mp list), applySteps]
        · split <;> rfl
        · exact not_exists.mp list
    | cast target shape nullable => rfl
    | parseEnum enumName target values nullable => rfl
    | buildInput input builder nullable =>
      rw [applySteps, convert_buildInput, buildWithin_whole enough smaller]
      split
      · split <;> rfl
      · rfl

theorem whole_of_objectDepth_lt (registry : Registry) (value : Value) : registry.Settles value := by
  induction value using Value.inside_induction with
  | inside value smaller =>
    exact fun limit enough path =>
      ⟨applySteps_whole enough smaller, fun _ => buildWithin_whole enough smaller⟩

/-- Records stand inside one another only as the objects do that they are built from. -/
theorem recordDepth_le_of_convert {steps : List Step}
    (converted : registry.convert value path steps = .ok out) :
    out.recordDepth ≤ value.objectDepth := by
  refine convert_induction (motive := fun value out => out.recordDepth ≤ value.objectDepth)
    (Nat.zero_le _) (fun _ => Nat.zero_le _) (fun _ _ _ _ => Nat.zero_le _)
    (fun items outs each => Coerced.depthOfItems_le fun out listed => ?_)
    (fun entries name fields each => ?_) converted
  · obtain ⟨item, inside, within⟩ := each out listed
    exact Nat.le_trans within (Value.objectDepth_le_of_mem inside)
  · rw [Coerced.recordDepth, Value.objectDepth]
    refine Nat.succ_le_succ (Coerced.depthOfFields_le fun field listed => ?_)
    rcases each field listed with absent | ⟨key, inside, within, held⟩
    · exact absent ▸ Nat.zero_le _
    · have same : field.2.recordDepth = inside.recordDepth := by
        rcases held with held | held <;> rw [held]
        rfl
      have deeper := Value.objectDepth_getD_lt entries key
      rw [Value.objectDepth] at deeper
      omega

theorem recordDepth_le_of_evaluateAt {chain : Chain} {input : Option Value}
    (evaluated : registry.evaluateAt chain path input = .ok out) :
    out.recordDepth ≤ (input.getD .null).objectDepth := by
  rcases evaluateAt_ok evaluated with rfl | ⟨inside, converted, rfl | rfl⟩
  · exact Nat.zero_le _
  · exact recordDepth_le_of_convert converted
  · have within : inside.recordDepth ≤ _ := recordDepth_le_of_convert converted
    exact within

end Registry

/-- The parse function to which steps hand every value, if they refuse null. The flag tells whether a
step outside them has refused it. -/
def demandOf : (refused : Bool) → List Step → Option QualifiedName
  | _, .nonNull :: inner => demandOf true inner
  | refused, .buildInput _ builder nullable :: _ =>
    if refused || !nullable then some builder else none
  | _, _ => none

/-- The chain yields nothing but what the parse function builds. -/
def Chain.Demands (chain : Chain) (builder : QualifiedName) : Prop :=
  chain.presence = .plain ∧ demandOf false chain.steps.reverse = some builder

namespace Registry

/-- The first parse function has a field that takes no null and is built by the second. -/
def Demands (registry : Registry) (builder inner : QualifiedName) : Prop :=
  ∃ recipe, registry.find? builder = some recipe ∧
    ∃ field ∈ recipe.fields, field.chain.Demands inner

variable {registry : Registry} {path : String} {value : Value} {out : Coerced}
  {builder inner : QualifiedName}

theorem buildAt_of_demandOf {refused : Bool} {steps : List Step}
    (there : refused = true → value.isNull = false)
    (demands : demandOf refused steps = some builder)
    (converted : registry.convert value path steps = .ok out) :
    registry.buildAt value path builder = .ok out := by
  induction steps generalizing refused with
  | nil => contradiction
  | cons step inner ih =>
    cases step with
    | nonNull =>
      obtain ⟨present, converted⟩ := convert_nonNull_ok converted
      exact ih (fun _ => present) demands converted
    | buildInput input called nullable =>
      rw [demandOf] at demands
      split at demands
      next firm =>
        obtain rfl := Option.some.inj demands
        rcases convert_buildInput_ok converted with ⟨rfl, rfl, _⟩ | ⟨_, built⟩
        · exact absurd (there (by simpa using firm)) (by decide)
        · exact built
      next => contradiction
    | mapList _ _ | cast _ _ _ | parseEnum _ _ _ _ => contradiction

end Registry

/-- What such a chain yields is built from the input, null if there is none. -/
theorem Chain.Demands.built {registry : Registry} {chain : Chain} {builder : QualifiedName}
    {path : String} {out : Coerced} {input : Option Value}
    (demands : chain.Demands builder)
    (evaluated : registry.evaluateAt chain path input = .ok out) :
    registry.buildAt (input.getD .null) path builder = .ok out := by
  rw [Registry.evaluateAt_plain demands.1] at evaluated
  exact Registry.buildAt_of_demandOf (by simp) demands.2 evaluated

namespace Registry

variable {registry : Registry} {path : String} {value : Value} {out : Coerced}
  {builder inner : QualifiedName}

/-- A build that succeeds has built what the parse function demands, from a smaller value. -/
theorem Demands.built (demands : registry.Demands builder inner)
    (built : registry.buildAt value path builder = .ok out) :
    ∃ part path out, sizeOf part < sizeOf value ∧ registry.buildAt part path inner = .ok out := by
  obtain ⟨recipe, found, field, own, demanded⟩ := demands
  obtain ⟨same, entries, fields, again, rfl, each, rfl⟩ := buildAt_ok built
  obtain rfl := Option.some.inj (found.symm.trans again)
  obtain ⟨_, _, made⟩ := each.exists_of_mem_left own
  obtain ⟨out, evaluated, rfl⟩ := evaluateField_eq_ok_iff.mp made
  exact ⟨_, _, out, Value.sizeOf_getD_lt entries field.key, demanded.built evaluated⟩

/-- Parse functions that demand one another in a cycle build nothing: what they build would have no
end. -/
theorem buildAt_of_cycle (cycle : Relation.TransGen registry.Demands builder builder) :
    registry.buildAt value path builder ≠ .ok out := by
  induction value using Value.inside_induction generalizing builder path out with
  | inside value smaller =>
    intro built
    obtain ⟨inner, demands, back⟩ := Relation.TransGen.head'_iff.mp cycle
    obtain ⟨part, path, out, less, built⟩ := demands.built built
    exact smaller part less (Relation.TransGen.tail' back demands) built

/-- Evaluation ends, with no more parse functions inside one another than objects in the input and
one: it comes to the same under every limit above the depth of the input. The records that it yields
are no deeper than these objects, and where parse functions demand one another in a cycle it
fails. -/
theorem evaluate_within (registry : Registry) :
    (∀ chain input limit, (input.getD .null).objectDepth < limit →
      registry.evaluateWithin limit chain input = whole (registry.evaluate chain input)) ∧
    (∀ builder input limit, input.objectDepth < limit →
      registry.buildWithin limit input "$" builder = whole (registry.build builder input)) ∧
    (∀ chain input out, registry.evaluate chain input = .ok out →
      out.recordDepth ≤ (input.getD .null).objectDepth) ∧
    (∀ builder input out, registry.build builder input = .ok out →
      out.recordDepth ≤ input.objectDepth) ∧
    ∀ builder, Relation.TransGen registry.Demands builder builder →
      (∀ input, ∃ fault, registry.build builder input = .error fault) ∧
      ∀ chain input, chain.Demands builder →
        ∃ fault, registry.evaluate chain input = .error fault := by
  refine ⟨fun chain input limit enough => ?_, fun builder input limit enough => ?_,
    fun chain input out evaluated => ?_, fun builder input out built => ?_,
    fun builder cycle => ⟨fun input => ?_, fun chain input demands => ?_⟩⟩
  · exact applyTo_whole (registry.whole_of_objectDepth_lt _) enough
  · exact (registry.whole_of_objectDepth_lt input limit enough "$").2 builder
  · exact recordDepth_le_of_evaluateAt evaluated
  · obtain ⟨steps, converted⟩ := exists_convert_of_buildAt built
    exact recordDepth_le_of_convert converted
  · cases built : registry.build builder input with
    | error fault => exact ⟨fault, rfl⟩
    | ok out => exact absurd built (buildAt_of_cycle cycle)
  · cases evaluated : registry.evaluate chain input with
    | error fault => exact ⟨fault, rfl⟩
    | ok out => exact absurd (Chain.Demands.built demands evaluated) (buildAt_of_cycle cycle)

def loopParser : QualifiedName × Recipe := (⟨"generated.inputs", "parse_loop"⟩,
  ⟨⟨"generated.inputs", "Loop"⟩, [
    ⟨"next", [.buildInput "Loop" ⟨"generated.inputs", "parse_loop"⟩ false, .nonNull], .plain,
      .required .unknown⟩]⟩)

/-- A tree with one child: two parse functions stand inside one another. -/
theorem evaluate_within_loop :
    let registry : Registry := ⟨[treeParser, loopParser]⟩
    let input : Value := .object [("child", .object
      [("colors", .list [.enum "RED"]), ("label", .null)])]
    input.objectDepth = 2 ∧
    registry.buildWithin 1 input "$" treeParser.1 = ExceptT.mk none ∧
    registry.buildWithin 3 input "$" treeParser.1 = whole (.ok smallTree) ∧
    smallTree.recordDepth ≤ 2 ∧
    Relation.TransGen registry.Demands loopParser.1 loopParser.1 ∧
    ∃ fault, registry.build loopParser.1 (.object [("next", .object [])]) = .error fault := by
  intro registry input
  have built : registry.build treeParser.1 input = .ok smallTree := rfl
  have cycle : Relation.TransGen registry.Demands loopParser.1 loopParser.1 :=
    .single ⟨_, rfl, _, .head _, rfl, rfl⟩
  obtain ⟨_, whole, _, depth, fails⟩ := evaluate_within registry
  have kept := whole treeParser.1 input 3 (by decide)
  rw [built] at kept
  exact ⟨rfl, rfl, kept, depth treeParser.1 input smallTree built, cycle,
    (fails loopParser.1 cycle).1 _⟩

end Registry

end Typewright
