import Typewright.Proofs.NamedArtifacts

/-! The step that converts the base of a type. What it yields is the base that the chain declares,
unless an input record has the name of a scalar: its values are built all the same. -/
namespace Typewright

theorem Registry.find?_parsedRecord (recordName parserName : QualifiedName)
    (parameter origin : String) (fields : List FieldCoercion) :
    (Registry.ofArtifacts (Job.parsedRecord recordName parserName parameter origin fields)).find?
      parserName = some ⟨recordName, fields⟩ := by
  have plain : (⟨recordName, .record, origin, fields.map fun field =>
      .field field.key field.chain.target⟩ : Artifact).recipe? = none :=
    Job.recipe?_eq_none (by simp)
  simp only [Job.parsedRecord, ofArtifacts, List.filterMap_cons, plain]
  simp [Artifact.recipe?, Artifact.function?, find?, ofList]

namespace Job

/-- How a value of the base is made by the step. A parse function is called only for an input record
of the schema, and builds its record; the base is this record if no scalar has the name. -/
inductive Converts (job : Job) (base : Base) : Step → Prop
  | cast : Converts job base (.cast base shape nullable)
  | parse : Converts job base (.parseEnum enumName base values nullable)
  | build {input : String} {record : RecordType}
      (found : job.schema.get? input = some (.input record))
      (builds : ∀ parsed, (job.inputArtifacts record).outcome = .ok parsed →
        ∃ fields, (Registry.ofArtifacts parsed).find?
          (job.settings.compose (.ofType .inputParser input)) =
            some ⟨job.settings.compose (.typeName .input input), fields⟩)
      (declared : base = (job.scalarTarget? input).elim
        (.generated (job.settings.compose (.typeName .input input))) .builtin) :
    Converts job base
      (.buildInput input (job.settings.compose (.ofType .inputParser input)) nullable)

variable {job : Job} {granted : Set Key} {node name : String} {policy : Option Policy} {base : Base}
  {record : RecordType} {type : TypeRef}

/-- An input record that nothing represents is its own base, unless a scalar has its name. -/
theorem base_of_input (found : job.schema.get? name = some (.input record))
    (own : Policy.representationOf record.name record.directives = .ok none)
    (made : (job.resolveBase node name).Yields granted base) :
    base = (job.scalarTarget? name).elim
      (.generated (job.settings.compose (.typeName .input name))) .builtin := by
  obtain rfl : record.name = name := (Schema.get?_eq_some_iff.mp found).2
  rw [yields_resolveBase] at made
  cases known : job.scalarTarget? record.name with
  | some text => simpa [known] using made
  | none =>
    rw [known] at made
    obtain ⟨definition, same, resolved⟩ := made
    obtain rfl : Definition.input record = definition := Option.some.inj (found.symm.trans same)
    cases resolves_of_yields resolved with
    | external represented => simp [Definition.name, Definition.directives, own] at represented
    | unknown apart => simp [isOnDemand] at apart
    | input _ _ => rfl

theorem builder_of_inputArtifacts {parsed : List Artifact}
    (made : (job.inputArtifacts record).outcome = .ok parsed) :
    ∃ fields, (Registry.ofArtifacts parsed).find?
      (job.settings.compose (.ofType .inputParser record.name)) =
        some ⟨job.settings.compose (.typeName .input record.name), fields⟩ := by
  obtain ⟨_, fields, _, rfl⟩ := inputArtifacts_origin (Draft.yields_univ.mpr made)
  exact ⟨fields, Registry.find?_parsedRecord ..⟩

theorem terminal_converts {nullable : Bool} {step : Step} {other : Set Key}
    (made : (job.terminal node name nullable policy).Yields granted step)
    (resolved : (job.baseUnder node name policy).Yields other base) :
    job.Converts base step := by
  obtain ⟨target, also, ⟨_, _, rfl⟩ | ⟨_, _, rfl⟩ | ⟨rule, rfl, _, record, found, own⟩⟩ :=
    terminal_cases made
  · exact also.unique resolved ▸ .cast
  · exact also.unique resolved ▸ .parse
  · obtain rfl : record.name = name := (Schema.get?_eq_some_iff.mp found).2
    refine .build found (fun _ => builder_of_inputArtifacts) ?_
    rw [baseUnder] at resolved
    split at resolved
    next external given => simp [baseRule, given] at rule
    next => exact base_of_input found own resolved

/-- A chain starts with the step for the name at the core of its type. -/
theorem head_of_stepsOf {nullable : Bool} {steps : List Step}
    (made : (stepsOf (fun name nullable => job.terminal node name nullable policy) nullable
      type.layers).Yields granted steps) :
    ∃ takesNull step rest, steps = step :: rest ∧
      (job.terminal node type.baseName takesNull policy).Yields granted step := by
  induction type generalizing nullable steps with
  | named name =>
    obtain ⟨below, none, step, rfl, terminal⟩ := yields_stepsOf_cons.mp made
    obtain rfl := Draft.yields_pure.mp none
    exact ⟨nullable, step, [], rfl, terminal⟩
  | list element ih =>
    obtain ⟨below, inside, step, rfl, rfl⟩ := yields_stepsOf_cons.mp made
    obtain ⟨takesNull, first, rest, rfl, terminal⟩ := ih inside
    exact ⟨takesNull, first, _, List.cons_append, terminal⟩
  | nonNull inner ih =>
    rcases TypeRef.layers_nonNull_cases inner with ⟨rest, found, same⟩ | ⟨_, same⟩
    · rw [same, ← found] at made
      exact ih made
    · rw [same] at made
      obtain ⟨below, inside, step, rfl, rfl⟩ := yields_stepsOf_cons.mp made
      obtain ⟨takesNull, first, rest, rfl, terminal⟩ := ih inside
      exact ⟨takesNull, first, _, List.cons_append, terminal⟩

/-- The first step of a chain converts the base that the chain declares. A parse function that it
calls builds the record of an input record, and this is the declared base exactly when neither the
settings nor the built-in table have a scalar of that name. -/
theorem head_converts {ledger : Ledger} {chain : Chain}
    (synthesized : ((job.synthesize node type policy).settle job.settings ledger).1 = .ok chain) :
    ∃ step rest, chain.steps = step :: rest ∧ job.Converts chain.target.base step := by
  obtain ⟨target, resolved, steps, built, rfl⟩ :=
    yields_synthesize.mp (Draft.yields_of_settle synthesized)
  obtain ⟨base, named, rfl⟩ := yields_resolve.mp resolved
  obtain ⟨_, step, rest, rfl, made⟩ := head_of_stepsOf built
  refine ⟨step, rest, rfl, ?_⟩
  simpa using terminal_converts made named

def filtersChain : Chain where
  steps := [.buildInput "Filter" ⟨"generated.inputs", "parse_filter"⟩ false, .nonNull,
    .mapList true false]
  presence := .plain
  target := ⟨.generated ⟨"generated.inputs", "Filter"⟩, false, [⟨.list, true⟩]⟩

theorem head_converts_shop :
    ((shop.synthesize "Query.find(filters)" (.list (.nonNull (.named "Filter"))) none).settle
      shop.settings {}).1 = .ok filtersChain ∧
    ∃ step rest, filtersChain.steps = step :: rest ∧ shop.Converts filtersChain.target.base step := by
  have made : ((shop.synthesize "Query.find(filters)" (.list (.nonNull (.named "Filter"))) none).settle
      shop.settings {}).1 = .ok filtersChain := by decide +kernel
  exact ⟨made, head_converts made⟩

/-- An input record and a scalar of its name. -/
def shadowed : Job where
  schema := .ofList [.input ⟨"Filter", [⟨"x", .named "Int", [], .empty⟩], .empty⟩]
  settings := { scalars := [("Filter", "my::Filter")] }

/-- The chain declares the scalar and yields the record. -/
theorem shadowed_declares_scalar :
    ((shadowed.synthesize "Query.f" (.named "Filter") none).settle shadowed.settings {}).1 =
      .ok ⟨[.buildInput "Filter" (shadowed.settings.compose (.ofType .inputParser "Filter")) true],
        .plain, .optional (.builtin "my::Filter")⟩ ∧
    (Base.builtin "my::Filter") ≠
      .generated (shadowed.settings.compose (.typeName .input "Filter")) := by
  decide +kernel

end Job

end Typewright
