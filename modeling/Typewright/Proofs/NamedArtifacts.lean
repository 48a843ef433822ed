import Mathlib.Data.List.Nodup
import Typewright.Proofs.Closure

/-! What is known of an artifact by its name. Granted names are distinct, so the name of a parse
function tells which record it fills, and the name of an enum which values it has. -/
namespace Typewright

theorem Settings.segment_eq_of_compose {settings : Settings} {key other : Key}
    (same : settings.compose key = settings.compose other) :
    key.role.segment = other.role.segment := by
  have paths := congrArg QualifiedName.namespacePath same
  simp only [compose] at paths
  split at paths
  · exact paths
  · simpa [toString] using paths

section Recipes

variable {artifact : Artifact} {artifacts : List Artifact} {builder : QualifiedName}
  {recipe : Recipe}

theorem Artifact.recipe?_eq_some_iff :
    artifact.recipe? = some (builder, recipe) ↔
      builder = artifact.name ∧ ∃ params returns,
        artifact.function? = some ⟨params, returns, .buildRecord recipe.record recipe.fields⟩ := by
  rw [recipe?]
  split
  next params returns record fields found =>
    rw [found]
    simp only [Option.some.injEq, Prod.mk.injEq, Function.mk.injEq, Body.buildRecord.injEq]
    constructor
    · rintro ⟨rfl, rfl⟩
      exact ⟨rfl, params, returns, rfl, rfl, rfl, rfl⟩
    · rintro ⟨rfl, _, _, _, _, rfl, rfl⟩
      exact ⟨rfl, rfl⟩
  next other =>
    refine iff_of_false (by simp) ?_
    rintro ⟨_, params, returns, found⟩
    exact other params returns _ _ found

theorem Artifact.function_mem {definition : Function} (found : artifact.function? = some definition) :
    .function definition ∈ artifact.members := by
  obtain ⟨member, among, same⟩ := List.exists_of_findSome?_eq_some found
  cases member with
  | function other => exact Option.some.inj same ▸ among
  | variant _ | field _ _ | typeParam _ | method _ _ _ => contradiction

/-- A parse function names whatever its chains name. -/
theorem references_of_recipe (parses : artifact.recipe? = some (builder, recipe))
    {field : FieldCoercion} (listed : field ∈ recipe.fields) {name : QualifiedName}
    (named : name ∈ field.chain.names) : name ∈ artifact.references := by
  obtain ⟨_, params, returns, found⟩ := Artifact.recipe?_eq_some_iff.mp parses
  refine mem_references.mpr ⟨_, Artifact.function_mem found, List.mem_append_right _ ?_⟩
  exact .tail _ (List.mem_flatMap.mpr ⟨field, listed, named⟩)

theorem Registry.find?_ofArtifacts (found : (ofArtifacts artifacts).find? builder = some recipe) :
    ∃ artifact ∈ artifacts, artifact.recipe? = some (builder, recipe) := by
  obtain ⟨entry, first, rfl⟩ := Option.map_eq_some_iff.mp found
  obtain rfl : entry.1 = builder := by simpa using List.find?_some first
  exact List.mem_filterMap.mp (List.mem_reverse.mp (List.mem_of_find?_eq_some first))

end Recipes

namespace Job

/-- A record and its parse function, by the key of the function. -/
inductive Parses (job : Job) (granted : Set Key) : Key → List Artifact → Prop
  | input (member : .input record ∈ job.schema.types)
      (made : (job.inputArtifacts record).Yields granted artifacts) :
    Parses job granted (.ofType .inputParser record.name) artifacts
  | arguments (member : .output record ∈ job.schema.types) (listed : field ∈ record.fields)
      (made : (job.arguments record.name field).Yields granted (artifacts, type)) :
    Parses job granted (.ofField .argumentParser record.name field.name) artifacts

/-- No output record has two fields of one name. -/
def DistinctFields (job : Job) : Prop :=
  ∀ record, .output record ∈ job.schema.types → (record.fields.map Field.name).Nodup

theorem shop_distinctFields : shop.DistinctFields := by
  intro record member
  simp [shop, Schema.ofList, Schema.add, Schema.put, Schema.empty, Definition.name] at member
  simp [member]

variable {job : Job} {granted : Set Key} {key : Key} {paged : Bool}
  {parsed other group : List Artifact} {artifact : Artifact} {builder : QualifiedName}
  {recipe : Recipe}

theorem Parses.unique (distinct : job.DistinctFields) (one : Parses job granted key parsed)
    (two : Parses job granted key other) : parsed = other := by
  cases one with
  | input member made =>
    generalize same : Key.ofType .inputParser _ = key at two
    cases two with
    | input also remade =>
      obtain ⟨⟩ := Schema.eq_of_name member also (by simpa [Key.ofType, Definition.name] using same)
      exact made.unique remade
    | arguments _ _ _ => simp [Key.ofType, Key.ofField] at same
  | arguments member listed made =>
    generalize same : Key.ofField .argumentParser _ _ = key at two
    cases two with
    | input _ _ => simp [Key.ofType, Key.ofField] at same
    | arguments also listedToo remade =>
      obtain ⟨sameRecord, sameField⟩ : _ ∧ _ := by simpa [Key.ofField] using same
      obtain ⟨⟩ := Schema.eq_of_name member also sameRecord
      obtain rfl := List.inj_on_of_nodup_map (distinct _ member) listed listedToo sameField
      exact (Prod.mk.inj (made.unique remade)).1

theorem parsedRecord_recipe {recordName parserName : QualifiedName} {parameter origin : String}
    {fields : List FieldCoercion}
    (among : artifact ∈ parsedRecord recordName parserName parameter origin fields)
    (found : artifact.recipe? = some (builder, recipe)) :
    builder = parserName ∧ recipe = ⟨recordName, fields⟩ := by
  simp only [parsedRecord, List.mem_cons, List.not_mem_nil, or_false] at among
  rcases among with rfl | rfl
  · obtain ⟨_, _, _, function⟩ := Artifact.recipe?_eq_some_iff.mp found
    simpa using Artifact.function_mem function
  · obtain ⟨rfl, rfl⟩ := Prod.mk.inj (Option.some.inj found)
    exact ⟨rfl, rfl⟩

@[simp] theorem fields_parsedRecord (recordName : QualifiedName) (origin : String)
    (fields : List FieldCoercion) :
    (⟨recordName, .record, origin, fields.map fun field =>
      .field field.key field.chain.target⟩ : Artifact).fields =
      fields.map fun field => (field.key, field.chain.target) := by
  simp [Artifact.fields, List.filterMap_map]

/-- A parse function builds the record that comes with it, and its chains are synthesized. -/
theorem Parses.origin (parses : Parses job granted key parsed) (among : artifact ∈ parsed)
    (found : artifact.recipe? = some (builder, recipe)) :
    key ∈ granted ∧ builder = job.settings.compose key ∧
      (∀ field ∈ recipe.fields, Synthesized job granted field) ∧
      ∃ target ∈ parsed, target.kind = .record ∧ target.name = recipe.record ∧
        target.fields = recipe.fields.map fun field => (field.key, field.chain.target) := by
  cases parses with
  | input _ made =>
    obtain ⟨claimed, fields, synthesized, rfl⟩ := inputArtifacts_origin made
    obtain ⟨rfl, rfl⟩ := parsedRecord_recipe among found
    exact ⟨claimed _ (by simp [ownKeys]), rfl, synthesized, _, .head _, rfl, rfl,
      fields_parsedRecord ..⟩
  | arguments _ _ made =>
    rcases arguments_origin made with ⟨_, rfl, _⟩ | ⟨_, _, claimed, fields, synthesized, rfl, _⟩
    · simp at among
    · obtain ⟨rfl, rfl⟩ := parsedRecord_recipe among found
      exact ⟨claimed, rfl, synthesized, _, .head _, rfl, rfl, fields_parsedRecord ..⟩

theorem Parses.record_input {name : String}
    (parses : Parses job granted (.ofType .inputParser name) parsed) (among : artifact ∈ parsed)
    (found : artifact.recipe? = some (builder, recipe)) :
    recipe.record = job.settings.compose (.typeName .input name) := by
  generalize same : Key.ofType .inputParser name = key at parses
  cases parses with
  | input _ made =>
    obtain ⟨_, fields, _, rfl⟩ := inputArtifacts_origin made
    obtain ⟨_, rfl⟩ := parsedRecord_recipe among found
    obtain rfl : name = _ := by simpa [Key.ofType] using same
    rfl
  | arguments _ _ _ => simp [Key.ofType, Key.ofField] at same

theorem Parses.recipe_unique {twin : Artifact} {called : QualifiedName} {another : Recipe}
    (parses : Parses job granted key parsed) (among : artifact ∈ parsed)
    (found : artifact.recipe? = some (builder, recipe)) (also : twin ∈ parsed)
    (same : twin.recipe? = some (called, another)) : recipe = another := by
  cases parses with
  | input _ made =>
    obtain ⟨_, fields, _, rfl⟩ := inputArtifacts_origin made
    exact (parsedRecord_recipe among found).2.trans (parsedRecord_recipe also same).2.symm
  | arguments _ _ made =>
    rcases arguments_origin made with ⟨_, rfl, _⟩ | ⟨_, _, _, fields, _, rfl, _⟩
    · simp at among
    · exact (parsedRecord_recipe among found).2.trans (parsedRecord_recipe also same).2.symm

theorem recipe?_eq_none (apart : ∀ definition, .function definition ∉ artifact.members) :
    artifact.recipe? = none := by
  refine Option.eq_none_iff_forall_ne_some.mpr fun entry found => ?_
  obtain ⟨_, _, _, function⟩ := Artifact.recipe?_eq_some_iff.mp found
  exact apart _ (Artifact.function_mem function)

/-- The contract and the parts of a connection are no parse functions. -/
theorem mem_parsed_of_recipe {arguments returns : TargetType} {container : String} {field : Field}
    {contract : Artifact}
    (stated : (job.contract container field arguments returns).Yields granted contract)
    (among : artifact ∈ parsed ++ [contract])
    (found : artifact.recipe? = some (builder, recipe)) : artifact ∈ parsed := by
  rcases List.mem_append.mp among with ofParsed | ofContract
  · exact ofParsed
  · obtain rfl := List.mem_singleton.mp ofContract
    obtain ⟨_, source, _, rfl⟩ := contract_origin stated
    contradiction

theorem recipe?_connectionParts {page edge connection builder pageInfo : QualifiedName}
    {origin : String} {element : TargetType}
    (among : artifact ∈ connectionParts page edge connection builder pageInfo origin element) :
    artifact.recipe? = none := by
  simp only [connectionParts, List.mem_cons, List.not_mem_nil, or_false] at among
  rcases among with rfl | rfl | rfl | rfl <;> rfl

theorem Group.parses (made : Group job granted paged group) (among : artifact ∈ group)
    (found : artifact.recipe? = some (builder, recipe)) :
    ∃ key parsed, Parses job granted key parsed ∧ artifact ∈ parsed ∧
      ∀ other ∈ parsed, other ∈ group := by
  have contradicts (none : artifact.recipe? = none) {goal : Prop} : goal := by
    simp [none] at found
  cases made with
  | enum _ made =>
    obtain rfl := List.mem_singleton.mp among
    obtain ⟨_, rfl⟩ := yields_enumArtifact.mp made
    exact contradicts (recipe?_eq_none (by simp))
  | input member made => exact ⟨_, group, .input member made, among, fun _ inside => inside⟩
  | output _ made =>
    obtain rfl := List.mem_singleton.mp among
    obtain ⟨_, members, each, rfl⟩ := outputArtifact_origin made
    refine contradicts (recipe?_eq_none fun definition listed => ?_)
    obtain ⟨_, _, same, _⟩ := each _ listed
    contradiction
  | interface _ made =>
    obtain rfl := List.mem_singleton.mp among
    obtain ⟨_, members, each, rfl⟩ := interfaceArtifact_origin made
    refine contradicts (recipe?_eq_none fun definition listed => ?_)
    obtain ⟨_, _, same, _⟩ := each _ listed
    contradiction
  | resolver member listed made =>
    obtain ⟨parsed, arguments, returns, contract, taken, _, stated, rfl⟩ :=
      resolverArtifacts_origin made
    exact ⟨_, parsed, .arguments member listed taken, mem_parsed_of_recipe stated among found,
      fun _ inside => List.mem_append_left _ inside⟩
  | connection member listed made =>
    obtain ⟨element, _, pages⟩ := connectionArtifacts_origin made
    obtain ⟨_, parsed, arguments, contract, taken, stated, rfl⟩ := pagesOf_origin pages
    rw [List.append_assoc] at among ⊢
    rcases List.mem_append.mp among with part | served
    · exact contradicts (recipe?_connectionParts part)
    · exact ⟨_, parsed, .arguments member listed taken, mem_parsed_of_recipe stated served found,
        fun _ inside => List.mem_append_right _ (List.mem_append_left _ inside)⟩
  | shared made =>
    obtain rfl := List.mem_singleton.mp among
    exact contradicts (by rw [Artifact.recipe?, made.plain])

theorem name_of_parsedRecord {recordName parserName : QualifiedName} {parameter origin : String}
    {fields : List FieldCoercion}
    (among : artifact ∈ parsedRecord recordName parserName parameter origin fields) :
    artifact.name = recordName ∨ artifact.name = parserName := by
  simp only [parsedRecord, List.mem_cons, List.not_mem_nil, or_false] at among
  rcases among with rfl | rfl
  · exact .inl rfl
  · exact .inr rfl

theorem name_of_served {arguments returns : TargetType} {container : String} {field : Field}
    {contract : Artifact}
    (taken : (job.arguments container field).Yields granted (parsed, arguments))
    (stated : (job.contract container field arguments returns).Yields granted contract)
    (among : artifact ∈ parsed ++ [contract]) :
    ∃ key : Key, artifact.name = job.settings.compose key ∧ key.role.segment = "resolvers" := by
  rcases List.mem_append.mp among with ofParsed | ofContract
  · rcases arguments_origin taken with ⟨_, rfl, _⟩ | ⟨_, _, _, fields, _, rfl, _⟩
    · simp at ofParsed
    · rcases name_of_parsedRecord ofParsed with same | same
      · exact ⟨_, same, rfl⟩
      · exact ⟨_, same, rfl⟩
  · obtain rfl := List.mem_singleton.mp ofContract
    obtain ⟨_, source, _, rfl⟩ := contract_origin stated
    exact ⟨_, rfl, rfl⟩

/-- Only enums live where the enums do. -/
theorem Group.enum_of_name {name : String} (made : Group job granted paged group)
    (among : artifact ∈ group)
    (named : artifact.name = job.settings.compose (.typeName .enum name)) :
    ∃ called values directives, .enum called values directives ∈ job.schema.types ∧
      (job.enumArtifact called values).Yields granted artifact := by
  have apart {goal : Prop} (key : Key) (same : artifact.name = job.settings.compose key)
      (segment : key.role.segment ≠ "enums") : goal :=
    absurd (Settings.segment_eq_of_compose (same.symm.trans named)) segment
  have served (elsewhere : ∃ key : Key, artifact.name = job.settings.compose key ∧
      key.role.segment = "resolvers") {goal : Prop} : goal := by
    obtain ⟨key, same, segment⟩ := elsewhere
    exact apart key same (by simp [segment])
  cases made with
  | enum member made =>
    obtain rfl := List.mem_singleton.mp among
    exact ⟨_, _, _, member, made⟩
  | input _ made =>
    obtain ⟨_, fields, _, rfl⟩ := inputArtifacts_origin made
    rcases name_of_parsedRecord among with same | same
    · exact apart _ same (by simp [Role.segment])
    · exact apart _ same (by simp [Role.segment])
  | output _ made =>
    obtain rfl := List.mem_singleton.mp among
    obtain ⟨_, members, _, rfl⟩ := outputArtifact_origin made
    exact apart _ rfl (by simp [Role.segment])
  | interface _ made =>
    obtain rfl := List.mem_singleton.mp among
    obtain ⟨_, members, _, rfl⟩ := interfaceArtifact_origin made
    exact apart _ rfl (by simp [Role.segment])
  | resolver _ _ made =>
    obtain ⟨parsed, arguments, returns, contract, taken, _, stated, rfl⟩ :=
      resolverArtifacts_origin made
    exact served (name_of_served taken stated among)
  | connection _ _ made =>
    obtain ⟨element, _, pages⟩ := connectionArtifacts_origin made
    obtain ⟨_, parsed, arguments, contract, taken, stated, rfl⟩ := pagesOf_origin pages
    rw [List.append_assoc] at among
    rcases List.mem_append.mp among with part | ofServed
    · simp only [connectionParts, List.mem_cons, List.not_mem_nil, or_false] at part
      rcases part with rfl | rfl | rfl | rfl
      all_goals exact apart _ rfl (by simp [Role.segment])
    · exact served (name_of_served taken stated ofServed)
  | @shared _ role made =>
    obtain rfl := List.mem_singleton.mp among
    refine apart _ made.named ?_
    have common := made.common
    cases role <;> simp [Role.isShared, Role.segment] at common ⊢

/-- A parse function that a run emits is known by its key. -/
theorem Phases.parses (phases : Phases job granted) (among : artifact ∈ phases.artifacts)
    (found : artifact.recipe? = some (builder, recipe)) :
    ∃ key parsed, Parses job granted key parsed ∧ artifact ∈ parsed ∧
      ∀ other ∈ parsed, other ∈ phases.artifacts := by
  obtain ⟨paged, group, made, member, whole, _⟩ := phases.grouped artifact among
  obtain ⟨key, parsed, parses, inside, within⟩ := made.parses member found
  exact ⟨key, parsed, parses, inside, fun other listed => whole other (within other listed)⟩

variable {phases : Phases job granted}

theorem Phases.recipe_unique (distinct : job.DistinctFields)
    (injective : Set.InjOn job.settings.compose granted) {twin : Artifact} {another : Recipe}
    (among : artifact ∈ phases.artifacts) (found : artifact.recipe? = some (builder, recipe))
    (also : twin ∈ phases.artifacts) (same : twin.recipe? = some (builder, another)) :
    recipe = another := by
  obtain ⟨key, parsed, parses, inside, _⟩ := phases.parses among found
  obtain ⟨other, others, parsesToo, insideToo, _⟩ := phases.parses also same
  obtain ⟨claimed, named, _, _⟩ := parses.origin inside found
  obtain ⟨claimedToo, namedToo, _, _⟩ := parsesToo.origin insideToo same
  obtain rfl : key = other := injective claimed claimedToo (named.symm.trans namedToo)
  obtain rfl := parses.unique distinct parsesToo
  exact parses.recipe_unique inside found insideToo same

theorem Phases.enum_known (injective : Set.InjOn job.settings.compose granted)
    {name : String} {values : List String} {directives : Directives}
    (defined : .enum name values directives ∈ job.schema.types)
    (claimed : Key.typeName .enum name ∈ granted) (among : artifact ∈ phases.artifacts)
    (named : artifact.name = job.settings.compose (.typeName .enum name)) :
    artifact = ⟨job.settings.compose (.typeName .enum name), .enum, name, values.map .variant⟩ := by
  obtain ⟨paged, group, made, member, _⟩ := phases.grouped artifact among
  obtain ⟨called, others, _, also, made⟩ := made.enum_of_name member named
  obtain ⟨granted, rfl⟩ := yields_enumArtifact.mp made
  obtain rfl : called = name := by simpa [Key.typeName, Key.ofType] using injective granted claimed named
  obtain ⟨⟩ := Schema.eq_of_name defined also rfl
  rfl

end Job

end Typewright
