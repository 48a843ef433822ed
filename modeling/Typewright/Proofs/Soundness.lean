import Typewright.Proofs.Conformance

/-! Type soundness of parsing: what the parse functions of a run build has the types that the run
emits. The induction is on the raw value, as parse functions may call one another in cycles. -/
namespace Typewright

namespace BaseRule

variable {registry : Registry} {path : String} {value : Value} {out : Coerced}

theorem apply_cast_ok {shape : Shape} (applied : (cast shape).apply registry path value = .ok out) :
    out = .scalar value := by
  simp only [apply] at applied
  split at applied
  · exact (Except.ok.inj applied).symm
  · contradiction

theorem apply_parse_ok {enumName : String} {values : List String}
    (applied : (parse enumName values).apply registry path value = .ok out) :
    ∃ variant ∈ values, out = .enum enumName variant := by
  simp only [apply] at applied
  split at applied
  next text _ =>
    split at applied
    next listed => exact ⟨text, listed, (Except.ok.inj applied).symm⟩
    · contradiction
  · contradiction

theorem apply_ne_null {rule : BaseRule} (applied : rule.apply registry path value = .ok out) :
    out ≠ .null := by
  cases rule with
  | cast shape => simp [apply_cast_ok applied]
  | parse enumName values =>
    obtain ⟨_, _, rfl⟩ := apply_parse_ok applied
    simp
  | build builder =>
    obtain ⟨_, _, _, _, _, _, rfl⟩ := Registry.buildAt_ok applied
    simp

end BaseRule

theorem TypeRef.convert_ne_null {type : TypeRef} {rule : String → BaseRule} {registry : Registry}
    {path : String} {value : Value} {out : Coerced} (present : value.isNull = false)
    (converted : type.convert rule registry path value = .ok out) : out ≠ .null := by
  induction type with
  | named name =>
    rw [convert, if_neg (by simp [present])] at converted
    exact BaseRule.apply_ne_null converted
  | list element _ =>
    cases value with
    | list items =>
      obtain ⟨_, _, rfl⟩ := map_eq_ok_iff.mp converted
      simp
    | null => simp [Value.isNull] at present
    | bool _ | int _ | float _ | string _ | enum _ | object _ => contradiction
  | nonNull inner ih =>
    rw [convert, if_neg (by simp [present])] at converted
    exact ih converted

namespace Job

variable {job : Job} {granted : Set Key} {artifacts : List Artifact}

/-- The conversion that a reference asks for has the target of the reference, if every conversion
of the named type has its base. -/
theorem convert_conforms {rule : String → BaseRule} {registry : Registry} {base : Base}
    {bound : Nat} {type : TypeRef}
    (leaf : ∀ value path out nullable, sizeOf value < bound → value.isNull = false →
      (rule type.baseName).apply registry path value = .ok out →
      Conforms job artifacts ⟨base, nullable, []⟩ out)
    {value : Value} {path : String} {out : Coerced} (small : sizeOf value < bound)
    (converted : type.convert rule registry path value = .ok out) :
    Conforms job artifacts (type.target base) out := by
  induction type generalizing value path out with
  | named name =>
    rw [TypeRef.convert] at converted
    split at converted
    · cases converted
      exact .null rfl rfl
    next present => exact leaf value path out true small (by simpa using present) converted
  | list element ih =>
    cases value with
    | null =>
      cases converted
      exact .null rfl rfl
    | list items =>
      obtain ⟨outs, each, rfl⟩ := map_eq_ok_iff.mp converted
      refine .list rfl fun item listed => ?_
      obtain ⟨entry, among, made⟩ := (mapM_eq_ok_iff.mp each).exists_of_mem_right listed
      have inside : entry.1 ∈ items := List.fst_mem_of_mem_zipIdx among
      exact ih leaf ((Value.sizeOf_lt_of_mem inside).trans small) made
    | bool _ | int _ | float _ | string _ | enum _ | object _ => contradiction
  | nonNull inner ih =>
    rw [TypeRef.convert] at converted
    split at converted
    · contradiction
    next present =>
      have nonNull := TypeRef.convert_ne_null (by simpa using present) converted
      exact (ih leaf small converted).demanded nonNull (TypeRef.isBoxed_target base inner)

/-- A box stands around the whole type or there is none. -/
theorem boxFor_cases (policy : Option Policy) (type : TargetType) :
    boxFor policy type = type ∨
      ((boxFor policy type).isBoxed = true ∧ (boxFor policy type).unboxed = type) := by
  rw [boxFor]
  split
  · exact .inr ⟨rfl, rfl⟩
  · exact .inl rfl

/-- A name that is built has the key of its parse function granted. -/
theorem granted_of_build {node name : String} {nullable : Bool} {policy : Option Policy}
    {step : Step} {builder : QualifiedName}
    (made : (job.terminal node name nullable policy).Yields granted step)
    (builds : job.baseRule policy name = .build builder) :
    Key.ofType .inputParser name ∈ granted := by
  obtain ⟨_, _, ⟨_, rule, _⟩ | ⟨_, rule, _⟩ | ⟨_, _, claimed, _⟩⟩ := terminal_cases made
  · simp [builds] at rule
  · simp [builds] at rule
  · exact claimed

@[simp] theorem variants_map_variant (name : QualifiedName) (origin : String)
    (values : List String) :
    (⟨name, .enum, origin, values.map .variant⟩ : Artifact).variants = values := by
  simp [Artifact.variants, List.filterMap_map]

theorem fills_of_forall₂ {fields : List FieldCoercion} {entries : List (String × Coerced)}
    (each : List.Forall₂ (fun field entry => ∃ out, entry = (field.key, out) ∧
      Conforms job artifacts field.chain.target out) fields entries) :
    Fills job artifacts (fields.map fun field => (field.key, field.chain.target)) entries := by
  induction each with
  | nil => exact .nil
  | cons first _ ih =>
    obtain ⟨out, rfl, conforms⟩ := first
    exact .cons conforms ih

namespace Phases

variable (phases : Phases job granted)

def registry : Registry := .ofArtifacts phases.artifacts

/-- Every parse function of the run that takes the value fills its record. -/
def Builds (value : Value) : Prop :=
  ∀ artifact ∈ phases.artifacts, ∀ builder recipe path out,
    artifact.recipe? = some (builder, recipe) →
    phases.registry.buildAt value path builder = .ok out →
    ∃ target ∈ phases.artifacts, target.kind = .record ∧ target.name = recipe.record ∧
      ∃ fields, out = .record recipe.record fields ∧
        Fills job phases.artifacts target.fields fields

variable {phases}

/-- A parse function that the base rule names builds the record of its input record. Its name alone
does not tell the key, but of the keys with that name one was granted. -/
theorem build_input (injective : Set.InjOn job.settings.compose granted) {name path : String}
    {value : Value} {out : Coerced} (claimed : Key.ofType .inputParser name ∈ granted)
    (builds : phases.Builds value)
    (built : phases.registry.buildAt value path
      (job.settings.compose (.ofType .inputParser name)) = .ok out) :
    ∃ target ∈ phases.artifacts, target.kind = .record ∧
      target.name = job.settings.compose (.typeName .input name) ∧
      ∃ fields, out = .record target.name fields ∧
        Fills job phases.artifacts target.fields fields := by
  obtain ⟨recipe, _, _, found, _⟩ := Registry.buildAt_ok built
  obtain ⟨artifact, among, parses⟩ := Registry.find?_ofArtifacts found
  obtain ⟨target, emitted, kind, called, fields, rfl, fills⟩ :=
    builds artifact among _ recipe path out parses built
  obtain ⟨key, parsed, made, inside, _⟩ := phases.parses among parses
  obtain ⟨claimedToo, named, _⟩ := made.origin inside parses
  obtain rfl : Key.ofType .inputParser name = key := injective claimed claimedToo named
  refine ⟨target, emitted, kind, called.trans (made.record_input inside parses), fields, ?_, fills⟩
  rw [called]

theorem apply_conforms (injective : Set.InjOn job.settings.compose granted) {name path : String}
    {rule : BaseRule} {base : Base} {value : Value} {out : Coerced} {nullable : Bool}
    (fits : Fitting job granted name rule base)
    (emitted : ∀ own ∈ base.names, ∃ other ∈ phases.artifacts, other.name = own)
    (claimed : ∀ builder, rule = .build builder → Key.ofType .inputParser name ∈ granted)
    (builds : phases.Builds value) (present : value.isNull = false)
    (applied : rule.apply phases.registry path value = .ok out) :
    Conforms job phases.artifacts ⟨base, nullable, []⟩ out := by
  cases fits with
  | cast plain =>
    rw [BaseRule.apply_cast_ok applied]
    exact .scalar plain present
  | enum defined held =>
    obtain ⟨variant, listed, rfl⟩ := BaseRule.apply_parse_ok applied
    obtain ⟨artifact, among, named⟩ := emitted _ (.head _)
    have known := phases.enum_known injective defined held among named
    rw [← named]
    exact .enum among (by rw [known]) named (by simpa [known] using listed)
  | foreignEnum defined foreign =>
    obtain ⟨variant, listed, rfl⟩ := BaseRule.apply_parse_ok applied
    exact .foreignEnum defined foreign listed
  | input =>
    obtain ⟨target, among, kind, named, fields, rfl, fills⟩ :=
      build_input injective (claimed _ rfl) builds applied
    rw [← named]
    exact .record among kind named fills
  | foreignInput defined called foreign =>
    subst called
    obtain ⟨target, among, kind, named, fields, rfl, fills⟩ :=
      build_input injective (claimed _ rfl) builds applied
    exact .foreignRecord defined foreign among kind named fills

theorem evaluateAt_conforms (unions : job.PlainUnions)
    (injective : Set.InjOn job.settings.compose granted) {node path : String} {type : TypeRef}
    {policy : Option Policy} {chain : Chain} {bound : Nat} {input : Option Value} {out : Coerced}
    (made : (job.synthesize node type policy).Yields granted chain)
    (emitted : ∀ own ∈ chain.names, ∃ other ∈ phases.artifacts, other.name = own)
    (builds : ∀ value, sizeOf value < bound → phases.Builds value)
    (small : sizeOf (input.getD .null) < bound)
    (evaluated : phases.registry.evaluateAt chain path input = .ok out) :
    Conforms job phases.artifacts chain.target out := by
  have means := synthesize_convert made phases.registry path
  obtain ⟨target, resolved, steps, built, rfl⟩ := yields_synthesize.mp made
  obtain ⟨base, based, rfl⟩ := yields_resolve.mp resolved
  obtain ⟨_, terminal, converts, _⟩ := stepsOf_origin built
  have inside {value : Value} {out : Coerced} (small : sizeOf value < bound)
      (converted : type.convert (job.baseRule policy) phases.registry path value = .ok out) :
      Conforms job phases.artifacts (type.target base) out := by
    refine convert_conforms (fun value path out nullable small present applied => ?_) small converted
    refine apply_conforms injective (fitting_of_yields unions based) (fun own named => ?_)
      (fun builder => granted_of_build converts) (builds value small) present applied
    exact emitted own (List.mem_append_left _ (by simpa [Wrapped.names] using named))
  rcases boxFor_cases policy (type.target base) with same | ⟨boxed, unboxed⟩
  · have plain : (boxFor policy (type.target base)).isBoxed = false := by
      rw [same, TypeRef.isBoxed_target]
    rw [Registry.evaluateAt_plain (by simp [plain]), means] at evaluated
    rw [same]
    exact inside small evaluated
  · rw [Registry.evaluateAt_boxed (by simp [boxed])] at evaluated
    cases input with
    | none =>
      cases evaluated
      exact .absent boxed
    | some value =>
      obtain ⟨within, converted, rfl⟩ := map_eq_ok_iff.mp evaluated
      rw [means] at converted
      refine .present boxed ?_
      rw [unboxed]
      exact inside small converted

theorem fills_of_smaller (unions : job.PlainUnions) (distinct : job.DistinctFields)
    (injective : Set.InjOn job.settings.compose granted) {value : Value}
    (smaller : ∀ part, sizeOf part < sizeOf value → phases.Builds part) : phases.Builds value := by
  intro artifact among builder recipe path out parses built
  obtain ⟨found, entries, fields, registered, rfl, each, rfl⟩ := Registry.buildAt_ok built
  obtain ⟨twin, also, same⟩ := Registry.find?_ofArtifacts registered
  obtain rfl := phases.recipe_unique distinct injective among parses also same
  obtain ⟨key, parsed, made, inside, whole⟩ := phases.parses among parses
  obtain ⟨_, _, synthesized, target, listed, kind, called, members⟩ := made.origin inside parses
  refine ⟨target, whole target listed, kind, called, fields, rfl, ?_⟩
  rw [members]
  have own := (List.forall₂_and_left _ _).mpr ⟨fun field ofRecipe => ofRecipe, each⟩
  refine fills_of_forall₂ (own.imp ?_)
  rintro field entry ⟨ofRecipe, evaluated⟩
  obtain ⟨out, converted, rfl⟩ := Registry.evaluateField_eq_ok_iff.mp evaluated
  obtain ⟨_, _, _, built⟩ := synthesized field ofRecipe
  refine ⟨out, rfl, ?_⟩
  refine evaluateAt_conforms unions injective built ?_ smaller ?_ converted
  · exact fun name named => closed among (references_of_recipe parses ofRecipe named)
  · exact Value.sizeOf_getD_lt entries field.key

/-- Every parse function of a run fills its record, whatever value it takes. -/
theorem fills_of_buildAt (unions : job.PlainUnions) (distinct : job.DistinctFields)
    (injective : Set.InjOn job.settings.compose granted) (value : Value) : phases.Builds value := by
  induction value using Value.inside_induction with
  | inside value smaller => exact fills_of_smaller unions distinct injective smaller

end Phases

/-- Whatever a parse function of a run builds is a record of its name that the run emits, and the
values in it have the fields of that artifact with their types. -/
theorem parse_sound {artifacts : List Artifact} (unions : job.PlainUnions)
    (distinct : job.DistinctFields) (generated : job.generate = .ok artifacts)
    {parser : Artifact} (emitted : parser ∈ artifacts) {params : List Param} {returns : TargetType}
    {record : QualifiedName} {coercions : List FieldCoercion}
    (function : parser.function? = some ⟨params, returns, .buildRecord record coercions⟩)
    {input : Value} {out : Coerced}
    (built : (Registry.ofArtifacts artifacts).build parser.name input = .ok out) :
    ∃ target ∈ artifacts, target.kind = .record ∧ target.name = record ∧
      ∃ fields, out = .record record fields ∧ Fills job artifacts target.fields fields := by
  obtain ⟨granted, injective, made⟩ := Draft.settle_ok generated
  obtain ⟨phases, rfl⟩ := emission_phases made
  have parses : parser.recipe? = some (parser.name, ⟨record, coercions⟩) :=
    Artifact.recipe?_eq_some_iff.mpr ⟨rfl, params, returns, function⟩
  exact Phases.fills_of_buildAt unions distinct injective input parser emitted _ _ "$" out parses built

def shopParser : Artifact where
  name := ⟨"generated.resolvers", "parse_query_search_args"⟩
  kind := .function
  origin := "Query.search"
  members := [.function ⟨[⟨"args", .required .unknown⟩],
    .required (.generated ⟨"generated.resolvers", "QuerySearchArgs"⟩),
    .buildRecord ⟨"generated.resolvers", "QuerySearchArgs"⟩ [⟨"filter",
      [.buildInput "Filter" ⟨"generated.inputs", "parse_filter"⟩ false, .nonNull], .plain,
      .required (.generated ⟨"generated.inputs", "Filter"⟩)⟩]⟩]

/-- A filter that leaves one field out and has null under the other. -/
def shopArguments : Value :=
  .object [("filter", .object [("any", .null)])]

theorem parse_sound_shop :
    ∃ artifacts out, shop.generate = .ok artifacts ∧
      (Registry.ofArtifacts artifacts).build shopParser.name shopArguments = .ok out ∧
      ∃ target ∈ artifacts, target.kind = .record ∧
        target.name = ⟨"generated.resolvers", "QuerySearchArgs"⟩ ∧
        ∃ fields, out = .record ⟨"generated.resolvers", "QuerySearchArgs"⟩ fields ∧
          Fills shop artifacts target.fields fields := by
  have unions : shop.PlainUnions := by
    intro name members directives member other listed
    simp [shop, Schema.ofList, Schema.add, Schema.put, Schema.empty, Definition.name] at member
    obtain ⟨_, rfl, _⟩ := member
    obtain rfl := List.mem_singleton.mp listed
    exact ⟨_, rfl⟩
  have runs : (shop.generate.toOption.any fun artifacts => decide (shopParser ∈ artifacts) &&
      ((Registry.ofArtifacts artifacts).build shopParser.name shopArguments).isOk) = true := by
    decide +kernel
  obtain ⟨artifacts, generated, holds⟩ := exists_ok_of_any runs
  obtain ⟨emitted, builds⟩ := Bool.and_eq_true_iff.mp holds
  obtain ⟨out, built⟩ := exists_ok_of_isOk builds
  exact ⟨artifacts, out, generated, built,
    parse_sound unions shop_distinctFields generated (of_decide_eq_true emitted) rfl built⟩

end Job

end Typewright
