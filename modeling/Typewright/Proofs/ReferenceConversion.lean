import Typewright.Coercion.Synthesis
import Typewright.Proofs.Conversion
import Typewright.Proofs.Target

/-! What a type reference means for a raw value, by recursion on the reference, and that a
synthesized chain does just that. -/
namespace Typewright

open CoercionFault

/-- How a value of a named type is converted, null apart. -/
inductive BaseRule where
  | cast (shape : Shape)
  | parse (enumName : String) (values : List String)
  | build (builder : QualifiedName)

def BaseRule.apply (registry : Registry) (path : String) (value : Value) :
    BaseRule → Except CoercionFault Coerced
  | cast shape =>
    if shape.accepts value then .ok (.scalar value)
    else .error (malformed path shape.describe value)
  | parse enumName values =>
    match value.text? with
    | some text =>
      if text ∈ values then .ok (.enum enumName text) else .error (.unknownEnumValue enumName text)
    | none => .error (malformed path "enum value" value)
  | build builder => registry.buildAt value path builder

/-- The conversion that a reference asks for, given the rules of the names. -/
def TypeRef.convert (rule : String → BaseRule) (registry : Registry) :
    TypeRef → String → Value → Except CoercionFault Coerced
  | named name, path, value =>
    if value.isNull then .ok .null else (rule name).apply registry path value
  | list element, path, value =>
    match value with
    | .null => .ok .null
    | .list items =>
      (items.zipIdx.mapM fun entry =>
        element.convert rule registry s!"{path}[{entry.2}]" entry.1).map .list
    | other => .error (malformed path "list" other)
  | nonNull inner, path, value =>
    if value.isNull then .error (malformed path "non-null value" value)
    else inner.convert rule registry path value

/-- A representation directive that is read at all supplies a type. -/
theorem Policy.isSome_representationOf {node : String} {directives : Directives}
    {representation : Option String}
    (read : Policy.representationOf node directives = .ok representation) :
    representation.isSome = directives.contains "representation" := by
  rw [representationOf] at read
  split at read
  next missing =>
    obtain rfl := Except.ok.inj read
    simp [Directives.contains, missing]
  next found =>
    rw [Directives.contains, found]
    split at read
    · split at read
      · contradiction
      · obtain rfl := Except.ok.inj read
        rfl
    · contradiction
    · contradiction

namespace Job

def baseRule (job : Job) (policy : Option Policy) (name : String) : BaseRule :=
  if (policy.bind (·.representation)).isSome then .cast .any
  else
    match job.schema.get? name with
    | none | some (.scalar ..) =>
      .cast ((job.settings.scalars.get? name).elim (.ofScalar name) .ofTarget)
    | some (.enum _ values _) => .parse name values
    | some (.input record) =>
      if record.directives.contains "representation" then .cast .any
      else .build (job.settings.compose (.ofType .inputParser name))
    | some (.output _) | some (.interface _) | some (.union ..) => .cast .any

variable {job : Job} {granted : Set Key} {node name : String} {policy : Option Policy}

theorem yields_resolveBase_remapped {text : String} {target : Base}
    (remapped : job.settings.scalars.get? name = some text)
    (made : (job.resolveBase node name).Yields granted target) : target = .builtin text := by
  simpa [resolveBase, remapped] using made

/-- The shape of a scalar hangs on its name and the scalar table, once its target is resolved. -/
theorem scalarShape_eq {target : Base} (made : (job.resolveBase node name).Yields granted target) :
    job.scalarShape name target =
      (job.settings.scalars.get? name).elim (.ofScalar name) .ofTarget := by
  cases remapped : job.settings.scalars.get? name with
  | none => cases target <;> simp [scalarShape, isRemapped, remapped]
  | some text =>
    obtain rfl := yields_resolveBase_remapped remapped made
    simp [scalarShape, isRemapped, remapped]

/-- All that a terminal step can be: it carries the resolved base and follows the rule of the
name. -/
theorem terminal_cases {nullable : Bool} {step : Step}
    (made : (job.terminal node name nullable policy).Yields granted step) :
    ∃ target, (job.baseUnder node name policy).Yields granted target ∧
      ((∃ shape, job.baseRule policy name = .cast shape ∧ step = .cast target shape nullable) ∨
      (∃ values, job.baseRule policy name = .parse name values ∧
        step = .parseEnum name target values nullable) ∨
      (job.baseRule policy name = .build (job.settings.compose (.ofType .inputParser name)) ∧
        step = .buildInput name (job.settings.compose (.ofType .inputParser name)) nullable ∧
        Key.ofType .inputParser name ∈ granted ∧
        ∃ record, job.schema.get? name = some (.input record) ∧
          Policy.representationOf record.name record.directives = .ok none)) := by
  cases given : policy.bind (·.representation) with
  | some external =>
    simp only [terminal, baseUnder, baseRule, given, Draft.yields_pure] at made ⊢
    exact ⟨_, rfl, .inl ⟨.any, rfl, made⟩⟩
  | none =>
    simp only [terminal, baseUnder, baseRule, given] at made ⊢
    obtain ⟨target, resolved, made⟩ := Draft.yields_bind.mp made
    refine ⟨target, resolved, ?_⟩
    cases found : job.schema.get? name with
    | none =>
      rw [found, Draft.yields_pure, scalarShape_eq resolved] at made
      exact .inl ⟨_, rfl, made⟩
    | some definition =>
      have called := (Schema.get?_eq_some_iff.mp found).2
      rw [found] at made
      cases definition with
      | scalar _ _ =>
        rw [Draft.yields_pure, scalarShape_eq resolved] at made
        exact .inl ⟨_, rfl, made⟩
      | enum enumName values _ =>
        obtain rfl : enumName = name := called
        exact .inr (.inl ⟨values, rfl, Draft.yields_pure.mp made⟩)
      | input record =>
        obtain rfl : record.name = name := called
        obtain ⟨representation, read, made⟩ := Draft.yields_bind.mp made
        have represented := Policy.isSome_representationOf (Draft.yields_lift.mp read)
        cases representation with
        | some external =>
          refine .inl ⟨.any, ?_, Draft.yields_pure.mp made⟩
          simp [← represented]
        | none =>
          obtain ⟨builder, claimed, made⟩ := Draft.yields_bind.mp made
          obtain ⟨rfl, member⟩ := Draft.yields_name.mp claimed
          refine .inr (.inr ⟨?_, Draft.yields_pure.mp made, member, record, rfl,
            Draft.yields_lift.mp read⟩)
          simp [← represented]
      | output _ | interface _ | union _ _ _ =>
        exact .inl ⟨.any, rfl, Draft.yields_pure.mp made⟩

/-- A terminal step gives null where it may and follows the rule elsewhere. -/
theorem terminal_convert {nullable : Bool} {step : Step}
    (made : (job.terminal node name nullable policy).Yields granted step)
    (registry : Registry) (path : String) (value : Value)
    (fits : value.isNull = true → nullable = true) :
    registry.convert value path [step] =
      if value.isNull then .ok .null
      else (job.baseRule policy name).apply registry path value := by
  by_cases null : value.isNull
  · have takes := fits null
    obtain ⟨target, _, ⟨shape, rule, rfl⟩ | ⟨values, rule, rfl⟩ | ⟨rule, rfl, _⟩⟩ :=
      terminal_cases made
    all_goals simp [castValue, enumValue, null, takes]
  · obtain ⟨target, _, ⟨shape, rule, rfl⟩ | ⟨values, rule, rfl⟩ | ⟨rule, rfl, _⟩⟩ :=
      terminal_cases made
    · simp [castValue, BaseRule.apply, rule, null]
    · cases text : value.text? with
      | none => simp [enumValue, BaseRule.apply, rule, null, text]
      | some _ => simp [enumValue, BaseRule.apply, rule, null, text]
    · simp [BaseRule.apply, rule, null]

/-- The chain of a reference ends a list of layers: a layer's step stands outside the steps of
what it contains. -/
theorem yields_stepsOf_cons {terminal : String → Bool → Draft Step} {nullable : Bool} {layer : Layer}
    {inner : List Layer} {steps : List Step} :
    (stepsOf terminal nullable (layer :: inner)).Yields granted steps ↔
      ∃ below, (stepsOf terminal (layer != .nonNull) inner).Yields granted below ∧
        ∃ step, steps = below ++ [step] ∧
          match layer with
          | .named name => (terminal name nullable).Yields granted step
          | .nonNull => step = .nonNull
          | .list => step = .mapList nullable (inner.head? != some .nonNull) := by
  rw [stepsOf, Draft.yields_bind]
  refine exists_congr fun below => and_congr_right fun _ => ?_
  cases layer <;> simp [and_comm]

/-- The steps of a reference do what the reference means. Where the position around it takes no
null, none may come. -/
theorem stepsOf_convert {type : TypeRef} {nullable : Bool} {steps : List Step}
    (made : (stepsOf (fun name nullable => job.terminal node name nullable policy) nullable
      type.layers).Yields granted steps)
    (registry : Registry) (path : String) (value : Value)
    (fits : value.isNull = true → nullable = true) :
    registry.convert value path steps.reverse =
      type.convert (job.baseRule policy) registry path value := by
  induction type generalizing nullable steps path value with
  | named name =>
    obtain ⟨below, none, step, rfl, terminal⟩ := yields_stepsOf_cons.mp made
    obtain rfl := Draft.yields_pure.mp none
    exact terminal_convert terminal registry path value fits
  | list element ih =>
    obtain ⟨below, inside, step, rfl, rfl⟩ := yields_stepsOf_cons.mp made
    rw [List.reverse_append, List.reverse_singleton, List.singleton_append]
    cases value with
    | list items =>
      rw [Registry.convert_mapList_list, TypeRef.convert]
      congr 2
      funext entry
      exact ih inside _ entry.1 fun _ => rfl
    | null =>
      rw [Registry.convert_mapList_of_not_list (by simp), fits rfl]
      rfl
    | bool _ | int _ | float _ | string _ | enum _ | object _ =>
      rw [Registry.convert_mapList_of_not_list (by simp)]
      simp [Value.isNull, TypeRef.convert]
  | nonNull inner ih =>
    rcases TypeRef.layers_nonNull_cases inner with ⟨rest, found, same⟩ | ⟨_, same⟩
    · -- The markers collapse, and the inner one refuses null in place of both.
      obtain ⟨deeper, rfl⟩ := TypeRef.exists_of_layers_nonNull found
      rw [same, ← found] at made
      rw [ih made path value fits]
      by_cases null : value.isNull <;> simp [TypeRef.convert, null]
    · rw [same] at made
      obtain ⟨below, inside, step, rfl, rfl⟩ := yields_stepsOf_cons.mp made
      rw [List.reverse_append, List.reverse_singleton, List.singleton_append,
        Registry.convert_nonNull, TypeRef.convert]
      split
      · rfl
      next present => exact ih inside path value fun null => absurd null present

theorem yields_synthesize {type : TypeRef} {chain : Chain} :
    (job.synthesize node type policy).Yields granted chain ↔
      ∃ target, (job.resolve node type policy).Yields granted target ∧
        ∃ steps, (stepsOf (fun name nullable => job.terminal node name nullable policy) true
          type.layers).Yields granted steps ∧
        chain = ⟨steps, if target.isBoxed then .boxed else .plain, target⟩ := by
  simp only [synthesize, Draft.yields_bind, Draft.yields_pure]

theorem synthesize_convert {type : TypeRef} {chain : Chain}
    (made : (job.synthesize node type policy).Yields granted chain)
    (registry : Registry) (path : String) (value : Value) :
    registry.convert value path chain.steps.reverse =
      type.convert (job.baseRule policy) registry path value := by
  obtain ⟨target, _, steps, built, rfl⟩ := yields_synthesize.mp made
  exact stepsOf_convert built registry path value fun _ => rfl

theorem isBoxed_boxFor {type : TargetType} (unboxed : type.isBoxed = false) :
    (boxFor policy type).isBoxed = (policy.any (·.doubleNull) && type.isNullable) := by
  rw [boxFor]
  split
  next boxed => rw [boxed]; rfl
  next plain => rw [unboxed, Bool.eq_false_iff.mpr plain]

/-- A chain synthesized without a double null policy takes an absent key for null and converts
as its reference does, faults included. -/
theorem evaluate_synthesize {type : TypeRef} {ledger : Ledger} {chain : Chain}
    (single : policy.any (·.doubleNull) = false)
    (synthesized : ((job.synthesize node type policy).settle job.settings ledger).1 = .ok chain)
    (registry : Registry) (input : Option Value) :
    registry.evaluate chain input =
      type.convert (job.baseRule policy) registry "$" (input.getD .null) := by
  have made := Draft.yields_of_settle synthesized
  have plain : chain.presence = .plain := by
    obtain ⟨target, resolved, steps, _, rfl⟩ := yields_synthesize.mp made
    obtain ⟨base, _, rfl⟩ := yields_resolve.mp resolved
    simp [isBoxed_boxFor, single]
  rw [Registry.evaluate, Registry.evaluateAt_plain plain]
  exact synthesize_convert made registry "$" _

def palette : Job := ⟨.ofList [.enum "Color" ["RED", "BLUE"] .empty], {}⟩

/-- A list of colors with two markers around it. -/
def paletteType : TypeRef := .nonNull (.nonNull (.list (.nonNull (.named "Color"))))

def paletteChain : Chain where
  steps := [.parseEnum "Color" (.generated ⟨"generated.enums", "Color"⟩) ["RED", "BLUE"] false,
    .nonNull, .mapList false false, .nonNull]
  presence := .plain
  target := ⟨.generated ⟨"generated.enums", "Color"⟩, false, [⟨.list, false⟩]⟩

/-- The two outer markers collapse, and the refusal names the element. -/
theorem evaluate_synthesize_palette :
    ((palette.synthesize "Query.paint" paletteType none).settle palette.settings {}).1 =
      .ok paletteChain ∧
    (⟨[]⟩ : Registry).evaluate paletteChain (some (.list [.string "RED", .null])) =
      .error (.malformedInput "$[1]" "non-null value" "null") := by
  have made : ((palette.synthesize "Query.paint" paletteType none).settle palette.settings {}).1 =
      .ok paletteChain := by decide +kernel
  refine ⟨made, (evaluate_synthesize rfl made ⟨[]⟩ _).trans ?_⟩
  rfl

end Job

end Typewright
