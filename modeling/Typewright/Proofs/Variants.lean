import Typewright.Proofs.Files
import Typewright.Proofs.Reading
import Typewright.Proofs.Soundness

/-! The values of enums, as they are spelt, shown and read. The file of an enum matches variants and
values one to one, and a chain that reads an enum takes the texts that the file of that enum takes. -/
namespace Typewright

namespace Source

/-- The arms of a match between variants and the values that they stand for. -/
abbrev Arms := List (Ident × String)

namespace Arms

variable {arms : Arms} {variant : Ident} {value : String}

def shown? (arms : Arms) (variant : Ident) : Option String :=
  (arms.find? (·.1 = variant)).map (·.2)

def read? (arms : Arms) (value : String) : Option Ident :=
  (arms.find? (·.2 = value)).map (·.1)

theorem shown?_eq_some_iff (distinct : (arms.map (·.1)).Nodup) :
    arms.shown? variant = some value ↔ (variant, value) ∈ arms := by
  simp only [shown?, Option.map_eq_some_iff, find?_key_iff distinct]
  constructor
  · rintro ⟨_, ⟨listed, rfl⟩, rfl⟩
    exact listed
  · intro listed
    exact ⟨_, ⟨listed, rfl⟩, rfl⟩

theorem read?_eq_some_iff (distinct : (arms.map (·.2)).Nodup) :
    arms.read? value = some variant ↔ (variant, value) ∈ arms := by
  simp only [read?, Option.map_eq_some_iff, find?_key_iff distinct]
  constructor
  · rintro ⟨_, ⟨listed, rfl⟩, rfl⟩
    exact listed
  · intro listed
    exact ⟨_, ⟨listed, rfl⟩, rfl⟩

def declared (arms : Arms) (name : Ident) : List Token :=
  ["pub", "enum", name.text, "\x7b"].map Token.mark ++
    [Token.mark ","].intercalate (arms.map fun arm => [.mark arm.1.text]) ++ [Token.mark "\x7d"]

def listed (arms : Arms) : List Token :=
  ["pub", "const", "VALUES", ":", "&", "'static", "[", "&", "'static", "str", "]", "=", "&",
    "["].map Token.mark ++
    [Token.mark ","].intercalate (arms.map fun arm => [.literal arm.2]) ++
    [Token.mark "]"] ++ [Token.mark ";"]

def showing (arms : Arms) : List Token :=
  ["pub", "fn", "as_str", "(", "&", "self", ")", "->", "&", "'static", "str", "\x7b", "match",
    "self", "\x7b"].map Token.mark ++
    [Token.mark ","].intercalate (arms.map fun arm =>
      [.mark "Self", .mark "::", .mark arm.1.text, .mark "=>", .literal arm.2]) ++
    [Token.mark "\x7d"] ++ [Token.mark "\x7d"]

/-- The function that reads a text. The last arm refuses what the others leave. -/
def reading (arms : Arms) (refusal : List Token) : List Token :=
  ["fn", "from_str", "(", "s", ":", "&", "str", ")", "->", "Result", "<", "Self", ",", "Self", "::",
    "Err", ">", "\x7b", "match", "s", "\x7b"].map Token.mark ++
    [Token.mark ","].intercalate (
      (arms.map fun arm => Token.literal arm.2 :: ["=>", "Ok", "(", "Self", "::", arm.1.text,
        ")"].map Token.mark) ++
      [["other", "=>", "Err", "("].map Token.mark ++ refusal ++ [Token.mark ")"]]) ++
    [Token.mark "\x7d"] ++ [Token.mark "\x7d"]

/-- Source text declares, lists, shows and reads by the same arms. -/
structure Printed (arms : Arms) (tokens : List Token) : Prop where
  declares : ∃ name, arms.declared name <:+: tokens
  lists : arms.listed <:+: tokens
  shows : arms.showing <:+: tokens
  reads : ∃ refusal, arms.reading refusal <:+: tokens

section Print

variable (arms : Arms)

theorem declared_eq (name : Ident) : arms.declared name = Item.variantTokens name arms := rfl

theorem listed_eq : arms.listed = Item.valueTokens arms := rfl

theorem showing_eq : arms.showing = Item.showTokens arms := rfl

theorem reading_eq (schemaName : String) (error : ItemPath) :
    arms.reading (Item.unknownValue schemaName error) = Item.readTokens schemaName arms error := rfl

theorem printed_enumTokens (name : Ident) (schemaName : String) (error : ItemPath) :
    arms.Printed (Item.enumTokens name schemaName arms error) := by
  have held {part inner : List Token} (inside : part <:+: inner) : part <:+: braces inner :=
    List.infix_append_of_infix_left (List.infix_cons inside)
  have inherent {part : List Token} (inside : part <:+:
      outerDoc " Schema spelling of every value" ++ Item.valueTokens arms ++
      outerDoc " Schema spelling of this value" ++ Item.showTokens arms) :
      part <:+: Item.enumTokens name schemaName arms error := by
    iterate 2 refine List.infix_append_of_infix_left ?_
    refine List.infix_append_of_infix_right ?_
    exact List.infix_cons (List.infix_cons (held inside))
  refine ⟨⟨name, ?declares⟩, inherent ?lists, inherent ?shows,
    ⟨Item.unknownValue schemaName error, ?reads⟩⟩
  case declares =>
    rw [declared_eq]
    iterate 3 refine List.infix_append_of_infix_left ?_
    exact List.infix_append_of_infix_right List.infix_rfl
  case lists =>
    rw [listed_eq]
    iterate 2 refine List.infix_append_of_infix_left ?_
    exact List.infix_append_of_infix_right List.infix_rfl
  case shows =>
    rw [showing_eq]
    exact List.infix_append_of_infix_right List.infix_rfl
  case reads =>
    rw [reading_eq]
    refine List.infix_append_of_infix_right (List.infix_cons (held ?_))
    exact List.infix_append_of_infix_right List.infix_rfl

end Print

theorem Printed.mono {arms : Arms} {part tokens : List Token} (printed : arms.Printed part)
    (inside : part <:+: tokens) : arms.Printed tokens where
  declares := printed.declares.imp fun _ declared => declared.trans inside
  lists := printed.lists.trans inside
  shows := printed.shows.trans inside
  reads := printed.reads.imp fun _ read => read.trans inside

end Arms

theorem plainText_variantName (enumName value : String) :
    IsPlainText (Support.variantName enumName value) ∧
      '_' ∉ (Support.variantName enumName value).toList := by
  simp only [Support.variantName]
  split
  · exact ⟨plainText_upperCamel _, Text.underscore_not_mem_upperCamel _⟩
  · exact ⟨plainText_upperCamel _, Text.underscore_not_mem_upperCamel _⟩

/-- Every value gets an arm of its own, in the order of the values. -/
theorem variantTrees_ok {enumName : String} {seen values : List String} {arms : Arms}
    (made : Support.variantTrees enumName seen values = .ok arms) :
    arms.map (·.2) = values ∧
      (∀ arm ∈ arms, Ident.ofName (Support.variantName enumName arm.2) = .ok arm.1) ∧
      (values.map (Support.variantName enumName)).Nodup ∧
      ∀ value ∈ values, Support.variantName enumName value ∉ seen := by
  induction values generalizing seen arms with
  | nil =>
    obtain rfl := Except.ok.inj made
    simp
  | cons value rest ih =>
    rw [Support.variantTrees] at made
    by_cases again : Support.variantName enumName value ∈ seen
    · rw [if_pos again] at made
      contradiction
    · rw [if_neg again] at made
      obtain ⟨variant, spelt, made⟩ := bind_eq_ok_iff.mp made
      obtain ⟨later, following, same⟩ := bind_eq_ok_iff.mp made
      obtain rfl := Except.ok.inj same
      obtain ⟨values, each, distinct, unseen⟩ := ih following
      refine ⟨by rw [List.map_cons, values], List.forall_mem_cons.mpr ⟨spelt, each⟩, ?_, ?_⟩
      · refine List.nodup_cons.mpr ⟨fun listed => ?_, distinct⟩
        obtain ⟨other, among, same⟩ := List.mem_map.mp listed
        refine unseen other among ?_
        rw [same]
        exact List.mem_cons_self
      · refine List.forall_mem_cons.mpr ⟨again, fun other among => ?_⟩
        exact List.not_mem_of_not_mem_cons (unseen other among)

theorem nodup_variants {enumName : String} {arms : Arms}
    (each : ∀ arm ∈ arms, Ident.ofName (Support.variantName enumName arm.2) = .ok arm.1)
    (distinct : ((arms.map (·.2)).map (Support.variantName enumName)).Nodup) :
    (arms.map (·.1)).Nodup := by
  refine List.Nodup.map_on (fun arm among other amongToo same => ?_) (.of_map _ (.of_map _ distinct))
  obtain ⟨plain, bare⟩ := plainText_variantName enumName arm.2
  obtain ⟨plainToo, bareToo⟩ := plainText_variantName enumName other.2
  have spelt := each arm among
  rw [same] at spelt
  have named := Ident.eq_of_ofName plain plainToo bare bareToo spelt (each other amongToo)
  have values : arm.2 = other.2 := List.inj_on_of_nodup_map distinct
    (List.mem_map_of_mem among) (List.mem_map_of_mem amongToo) named
  exact Prod.ext same values

/-- How the file of an enum spells the values of the enum: its arms match them with distinct
variants, and showing and reading undo one another. -/
structure Spells (file : File) (artifact : Artifact) (arms : Arms) : Prop where
  printed : arms.Printed file.tokens
  spelt : ∀ arm ∈ arms, Ident.ofName (Support.variantName artifact.origin arm.2) = .ok arm.1
  values : arms.map (·.2) = artifact.variants
  distinctValues : artifact.variants.Nodup
  distinctVariants : (arms.map (·.1)).Nodup
  inverse : ∀ variant value, arms.shown? variant = some value ↔ arms.read? value = some variant
  shows : ∀ variant, (arms.shown? variant).isSome ↔ variant ∈ arms.map (·.1)
  reads : ∀ value, (arms.read? value).isSome ↔ value ∈ artifact.variants

theorem spells_of_arms {file : File} {artifact : Artifact} {arms : Arms}
    (printed : arms.Printed file.tokens)
    (spelt : ∀ arm ∈ arms, Ident.ofName (Support.variantName artifact.origin arm.2) = .ok arm.1)
    (values : arms.map (·.2) = artifact.variants)
    (distinct : (artifact.variants.map (Support.variantName artifact.origin)).Nodup) :
    Spells file artifact arms := by
  have distinctValues : artifact.variants.Nodup := .of_map _ distinct
  have distinctVariants : (arms.map (·.1)).Nodup := nodup_variants spelt (values ▸ distinct)
  have showsArm (variant : Ident) (value : String) :
      arms.shown? variant = some value ↔ (variant, value) ∈ arms :=
    Arms.shown?_eq_some_iff distinctVariants
  have readsArm (variant : Ident) (value : String) :
      arms.read? value = some variant ↔ (variant, value) ∈ arms :=
    Arms.read?_eq_some_iff (values ▸ distinctValues)
  refine ⟨printed, spelt, values, distinctValues, distinctVariants, ?inverse, ?shows, ?reads⟩
  case inverse =>
    intro variant value
    rw [showsArm, readsArm]
  case shows =>
    intro variant
    simp [Option.isSome_iff_exists, showsArm]
  case reads =>
    intro value
    simp [Option.isSome_iff_exists, readsArm, ← values]

namespace Support

variable {support : Support} {artifact : Artifact} {file : File} {documented : Documented}

theorem item_ok (made : support.item artifact = .ok documented) :
    ∃ item, documented = ⟨artifact.origin, item⟩ ∧
      (match artifact.kind with
        | .enum => support.enumItem artifact
        | .record => support.recordItem artifact
        | .interface => support.contractItem artifact
        | .function => support.functionItem artifact) = .ok item := by
  rw [Support.item] at made
  cases kind : artifact.kind with
  | enum | record | interface | function =>
    simp only [kind] at made
    obtain ⟨item, made, same⟩ := bind_eq_ok_iff.mp made
    exact ⟨item, (Except.ok.inj same).symm, made⟩

/-- An enum that is rendered has a file that spells its values. -/
theorem spells_of_render (kind : artifact.kind = .enum)
    (rendered : support.render artifact = .ok file) : ∃ arms, Spells file artifact arms := by
  obtain ⟨documented, made, rfl⟩ := render_ok rendered
  obtain ⟨item, rfl, shaped⟩ := item_ok made
  rw [kind] at shaped
  obtain ⟨name, _, shaped⟩ := bind_eq_ok_iff.mp shaped
  obtain ⟨error, _, shaped⟩ := bind_eq_ok_iff.mp shaped
  obtain ⟨arms, spelt, same⟩ := bind_eq_ok_iff.mp shaped
  obtain rfl := Except.ok.inj same
  obtain ⟨values, each, distinct, _⟩ := variantTrees_ok spelt
  refine ⟨arms, spells_of_arms ?_ each values distinct⟩
  exact (Arms.printed_enumTokens arms name artifact.origin error).mono
    (List.infix_append_of_infix_right List.infix_rfl)

end Support

end Source

def Artifact.chains (artifact : Artifact) : List Chain :=
  artifact.members.flatMap fun
    | .function ⟨_, _, .buildRecord _ fields⟩ => fields.map (·.chain)
    | _ => []

namespace Job

variable {job : Job} {granted : Set Key} {paged : Bool} {group : List Artifact}
  {artifact : Artifact} {definition : Function} {node enumName : String}
  {policy : Option Policy} {name : QualifiedName} {values : List String} {nullable : Bool}

theorem function?_of_parsedRecord {recordName parserName : QualifiedName} {parameter origin : String}
    {fields : List FieldCoercion}
    (among : artifact ∈ parsedRecord recordName parserName parameter origin fields)
    (listed : .function definition ∈ artifact.members) :
    artifact.function? = some definition := by
  simp only [parsedRecord, List.mem_cons, List.not_mem_nil, or_false] at among
  rcases among with rfl | rfl
  · simp at listed
  · obtain rfl : definition = _ := by simpa using listed
    rfl

theorem function?_of_served {arguments returns : TargetType} {container : String} {field : Field}
    {parsed : List Artifact} {contract : Artifact}
    (taken : (job.arguments container field).Yields granted (parsed, arguments))
    (stated : (job.contract container field arguments returns).Yields granted contract)
    (among : artifact ∈ parsed ++ [contract]) (listed : .function definition ∈ artifact.members) :
    artifact.function? = some definition := by
  rcases List.mem_append.mp among with ofParsed | ofContract
  · rcases arguments_origin taken with ⟨_, rfl, _⟩ | ⟨_, _, _, fields, _, rfl, _⟩
    · simp at ofParsed
    · exact function?_of_parsedRecord ofParsed listed
  · obtain rfl := List.mem_singleton.mp ofContract
    obtain ⟨_, source, _, rfl⟩ := contract_origin stated
    simp at listed

/-- No artifact of a run has two functions. -/
theorem Group.function?_eq (made : Group job granted paged group) (among : artifact ∈ group)
    (listed : .function definition ∈ artifact.members) :
    artifact.function? = some definition := by
  cases made with
  | enum _ made =>
    obtain rfl := List.mem_singleton.mp among
    obtain ⟨_, rfl⟩ := yields_enumArtifact.mp made
    simp at listed
  | input _ made =>
    obtain ⟨_, fields, _, rfl⟩ := inputArtifacts_origin made
    exact function?_of_parsedRecord among listed
  | output _ made =>
    obtain rfl := List.mem_singleton.mp among
    obtain ⟨_, members, each, rfl⟩ := outputArtifact_origin made
    obtain ⟨_, _, same, _⟩ := each _ listed
    contradiction
  | interface _ made =>
    obtain rfl := List.mem_singleton.mp among
    obtain ⟨_, members, each, rfl⟩ := interfaceArtifact_origin made
    obtain ⟨_, _, same, _⟩ := each _ listed
    contradiction
  | resolver _ _ made =>
    obtain ⟨parsed, arguments, returns, contract, taken, _, stated, rfl⟩ :=
      resolverArtifacts_origin made
    exact function?_of_served taken stated among listed
  | connection _ _ made =>
    obtain ⟨element, _, pages⟩ := connectionArtifacts_origin made
    obtain ⟨_, parsed, arguments, contract, taken, stated, rfl⟩ := pagesOf_origin pages
    rw [List.append_assoc] at among
    rcases List.mem_append.mp among with part | served
    · simp only [connectionParts, List.mem_cons, List.not_mem_nil, or_false] at part
      rcases part with rfl | rfl | rfl | rfl
      · simp at listed
      · simp at listed
      · simp at listed
      · obtain rfl : definition = _ := by simpa using listed
        rfl
    · exact function?_of_served taken stated served listed
  | shared made =>
    obtain rfl := List.mem_singleton.mp among
    have none := List.findSome?_eq_none_iff.mp made.plain _ listed
    contradiction

/-- A name whose values are read as those of an enum is the name of an enum. -/
theorem enum_of_baseRule {called : String} (rule : job.baseRule policy enumName = .parse called values) :
    policy.bind (·.representation) = none ∧
      ∃ directives, job.schema.get? enumName = some (.enum enumName values directives) := by
  rw [baseRule] at rule
  split at rule
  · contradiction
  next plain =>
    refine ⟨by simpa using plain, ?_⟩
    cases found : job.schema.get? enumName with
    | none => simp [found] at rule
    | some definition =>
      obtain ⟨_, own⟩ := Schema.get?_eq_some_iff.mp found
      simp only [found] at rule
      cases definition with
      | enum name values directives =>
        obtain ⟨rfl, rfl⟩ := BaseRule.parse.inj rule
        obtain rfl : name = enumName := own
        exact ⟨directives, rfl⟩
      | input record =>
        simp only at rule
        split at rule <;> contradiction
      | scalar _ _ | output _ | interface _ | union _ _ _ => contradiction

/-- A step that reads a generated enum carries the name and the values of an enum of the schema. -/
theorem enum_of_step {chain : Chain} {type : TypeRef}
    (made : (job.synthesize node type policy).Yields granted chain)
    (listed : .parseEnum enumName (.generated name) values nullable ∈ chain.steps) :
    ∃ directives, .enum enumName values directives ∈ job.schema.types ∧
      Key.typeName .enum enumName ∈ granted ∧
      name = job.settings.compose (.typeName .enum enumName) := by
  obtain ⟨_, _, steps, built, rfl⟩ := yields_synthesize.mp made
  obtain ⟨_, terminal, converts, others⟩ := stepsOf_origin built
  obtain rfl := (others _ listed).resolve_right (by simp [Step.names, Base.names])
  obtain ⟨target, resolved, ⟨_, _, same⟩ | ⟨_, rule, same⟩ | ⟨_, same, _⟩⟩ := terminal_cases converts
  · contradiction
  · obtain ⟨rfl, rfl, rfl, rfl⟩ := Step.parseEnum.inj same
    obtain ⟨plain, directives, found⟩ := enum_of_baseRule rule
    rw [baseUnder, plain] at resolved
    rcases resolveBase_cases resolved with ⟨_, _, scalar⟩ | ⟨definition, also, stands⟩
    · contradiction
    · obtain rfl := Option.some.inj (found.symm.trans also)
      cases stands with
      | enum _ claimed => exact ⟨directives, (Schema.get?_eq_some_iff.mp found).1, claimed, rfl⟩
  · contradiction

/-- A chain that an emitted function runs is synthesized, and the run emits whatever it names. -/
theorem Phases.synthesized_of_chain {phases : Phases job granted} {chain : Chain}
    (among : artifact ∈ phases.artifacts) (runs : chain ∈ artifact.chains) :
    (∃ node type policy, (job.synthesize node type policy).Yields granted chain) ∧
      ∀ name ∈ chain.names, ∃ other ∈ phases.artifacts, other.name = name := by
  obtain ⟨member, listed, runs⟩ := List.mem_flatMap.mp runs
  cases member with
  | function definition =>
    obtain ⟨params, returns, _ | _⟩ := definition
    next record fields =>
      obtain ⟨field, ofRecipe, rfl⟩ := List.mem_map.mp runs
      obtain ⟨_, _, made, member, _⟩ := phases.grouped artifact among
      have parses : artifact.recipe? = some (artifact.name, ⟨record, fields⟩) :=
        Artifact.recipe?_eq_some_iff.mpr ⟨rfl, params, returns, made.function?_eq member listed⟩
      obtain ⟨_, _, ofKey, inside, _⟩ := phases.parses among parses
      obtain ⟨_, _, synthesized, _⟩ := ofKey.origin inside parses
      exact ⟨synthesized field ofRecipe, fun name named =>
        Phases.closed among (references_of_recipe parses ofRecipe named)⟩
    next => simp at runs
  | variant _ | field _ _ | typeParam _ | method _ _ _ => simp at runs

theorem convert_parse_iff {registry : Registry} {path text : String} {target : Base} {out : Coerced} :
    registry.convert (.string text) path [.parseEnum enumName target values nullable] = .ok out ↔
      text ∈ values ∧ out = .enum enumName text := by
  simp only [Registry.convert_parseEnum, enumValue, Value.isNull, Value.text?, Bool.false_eq_true,
    if_false]
  by_cases listed : text ∈ values
  · simp [listed, eq_comm]
  · simp [listed]

open Source

/-- An enum is spelt, printed and read in one way. The file of an enum matches variants and values
one to one. A step of a run that reads a generated enum has the values of the artifact of that name
and the schema name of that artifact, and takes the texts that the file of this artifact reads. -/
theorem enums_agree :
    (∀ (support : Support) (artifact : Artifact) (file : File), artifact.kind = .enum →
      support.render artifact = .ok file → ∃ arms, Spells file artifact arms) ∧
    ∀ (job : Job) (artifacts : List Artifact), job.generate = .ok artifacts →
      ∀ artifact ∈ artifacts, ∀ chain ∈ artifact.chains, ∀ enumName name values nullable,
        .parseEnum enumName (.generated name) values nullable ∈ chain.steps →
        (∃ other ∈ artifacts, other.name = name) ∧
        ∀ other ∈ artifacts, other.name = name →
          other.kind = .enum ∧ other.origin = enumName ∧ other.variants = values ∧
          ∀ (support : Support) (file : File), support.render other = .ok file →
            ∃ arms, Spells file other arms ∧ ∀ (registry : Registry) path text out,
              registry.convert (.string text) path
                  [.parseEnum enumName (.generated name) values nullable] = .ok out ↔
                (arms.read? text).isSome ∧ out = .enum enumName text := by
  refine ⟨fun support artifact file => Support.spells_of_render, ?_⟩
  intro job artifacts generated artifact among chain runs enumName name values nullable listed
  obtain ⟨granted, injective, made⟩ := Draft.settle_ok generated
  obtain ⟨phases, rfl⟩ := emission_phases made
  obtain ⟨⟨_, _, _, synthesized⟩, emitted⟩ := Phases.synthesized_of_chain among runs
  obtain ⟨_, defined, claimed, rfl⟩ := enum_of_step synthesized listed
  refine ⟨emitted _ ?_, fun other also named => ?_⟩
  · exact List.mem_append_right _ (List.mem_flatMap.mpr ⟨_, listed, List.mem_singleton.mpr rfl⟩)
  · obtain rfl := phases.enum_known injective defined claimed also named
    refine ⟨rfl, rfl, variants_map_variant .., fun support file rendered => ?_⟩
    obtain ⟨arms, spells⟩ := Support.spells_of_render rfl rendered
    refine ⟨arms, spells, fun registry path text out => ?_⟩
    rw [convert_parse_iff, spells.reads, variants_map_variant]

def colorStep : Step :=
  .parseEnum "Color" (.generated ⟨"generated.enums", "Color"⟩) ["RED", "BLUE"] true

/-- The shop reads colors as the file of the colors does. -/
theorem enums_agree_shop :
    ∃ artifacts other file arms, shop.generate = .ok artifacts ∧ other ∈ artifacts ∧
      (Support.ofSettings shop.settings).render other = .ok file ∧ Spells file other arms ∧
      other.variants = ["RED", "BLUE"] ∧ ∀ (registry : Registry) path text out,
        registry.convert (.string text) path [colorStep] = .ok out ↔
          (arms.read? text).isSome ∧ out = .enum "Color" text := by
  have runs : (shop.generate.toOption.any fun artifacts =>
      (artifacts.any fun artifact => artifact.chains.any fun chain => decide (colorStep ∈ chain.steps)) &&
      artifacts.all fun other => other.name != ⟨"generated.enums", "Color"⟩ ||
        ((Support.ofSettings shop.settings).render other).isOk) = true := by
    decide +kernel
  obtain ⟨artifacts, generated, holds⟩ := exists_ok_of_any runs
  simp only [Bool.and_eq_true, List.any_eq_true, List.all_eq_true, Bool.or_eq_true, bne_iff_ne,
    decide_eq_true_eq] at holds
  obtain ⟨⟨artifact, among, chain, runs, listed⟩, renders⟩ := holds
  obtain ⟨⟨other, also, named⟩, agrees⟩ :=
    enums_agree.2 shop artifacts generated artifact among chain runs _ _ _ _ listed
  obtain ⟨_, _, values, reads⟩ := agrees other also named
  obtain ⟨file, rendered⟩ :=
    exists_ok_of_isOk ((renders other also).resolve_left (not_not_intro named))
  obtain ⟨arms, spells, same⟩ := reads _ file rendered
  exact ⟨artifacts, other, file, arms, generated, also, rendered, spells, values, same⟩

end Job

end Typewright
