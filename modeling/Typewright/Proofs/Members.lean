import Typewright.Proofs.Modules
import Typewright.Proofs.Rendering

/-! The members of records and interfaces, as their files spell them. They are spelt in snake case,
and nobody compares the spellings. So the members of a file have identifiers of their own just where
their names are distinct in snake case. -/
namespace Typewright

namespace Source

namespace Ident

/-- Escapes tell no two names in snake case together, as none of them ends in an underscore. -/
theorem snakeCase_eq_of_ofField {name other : String} {ident : Ident}
    (spelt : ofField name = .ok ident) (also : ofField other = .ok ident) :
    Text.snakeCase name = Text.snakeCase other := by
  have trailing {text more : String} (same : Text.snakeCase text ++ "_" = Text.snakeCase more) :
      False := by
    apply Text.getLast?_snakeCase more
    simp [← same]
  have bare := (bare_snakeCase spelt).symm.trans (bare_snakeCase also)
  split at bare
  next =>
    split at bare
    next => exact (String.append_left_inj _).mp bare
    next => exact (trailing bare).elim
  next =>
    split at bare
    next => exact (trailing bare.symm).elim
    next => exact bare

end Ident

abbrev Spelt (names : List String) (idents : List Ident) : Prop :=
  List.Forall₂ (fun name ident => Ident.ofField name = .ok ident) names idents

variable {names : List String} {idents : List Ident} {name : String} {ident : Ident}

theorem mem_iff_of_spelt (spelt : Spelt names idents) (own : Ident.ofField name = .ok ident) :
    ident ∈ idents ↔ Text.snakeCase name ∈ names.map Text.snakeCase := by
  constructor
  · intro listed
    obtain ⟨other, among, also⟩ := spelt.exists_of_mem_right listed
    exact List.mem_map.mpr ⟨other, among, Ident.snakeCase_eq_of_ofField also own⟩
  · intro listed
    obtain ⟨other, among, same⟩ := List.mem_map.mp listed
    obtain ⟨twin, inside, also⟩ := spelt.exists_of_mem_left among
    rw [Ident.ofField, same] at also
    obtain rfl : ident = twin := Except.ok.inj (own.symm.trans also)
    exact inside

/-- Identifiers are distinct just where the names are distinct in snake case. -/
theorem nodup_iff_of_spelt (spelt : Spelt names idents) :
    idents.Nodup ↔ (names.map Text.snakeCase).Nodup := by
  induction spelt with
  | nil => simp
  | cons own later ih =>
    rw [List.map_cons, List.nodup_cons, List.nodup_cons, mem_iff_of_spelt later own, ih]

namespace Support

variable {support : Support} {artifact : Artifact} {file : File}

theorem item_of_render (rendered : support.render artifact = .ok file) :
    ∃ item, (match artifact.kind with
        | .enum => support.enumItem artifact
        | .record => support.recordItem artifact
        | .interface => support.contractItem artifact
        | .function => support.functionItem artifact) = .ok item ∧ item.tokens <:+ file.tokens := by
  obtain ⟨documented, made, rfl⟩ := render_ok rendered
  obtain ⟨item, rfl, shaped⟩ := item_ok made
  exact ⟨item, shaped, List.suffix_append _ _⟩

theorem record_rendered (kind : artifact.kind = .record)
    (rendered : support.render artifact = .ok file) :
    ∃ name generics members, Item.recordTokens name generics members <:+ file.tokens ∧
      Spelt (artifact.fields.map (·.1)) (members.map (·.1)) := by
  obtain ⟨item, shaped, last⟩ := item_of_render rendered
  rw [kind] at shaped
  obtain ⟨name, _, shaped⟩ := bind_eq_ok_iff.mp shaped
  obtain ⟨generics, _, shaped⟩ := bind_eq_ok_iff.mp shaped
  obtain ⟨members, each, same⟩ := bind_eq_ok_iff.mp shaped
  obtain rfl := Except.ok.inj same
  refine ⟨name, generics, members, last, ?_⟩
  rw [Spelt, List.forall₂_map_left_iff, List.forall₂_map_right_iff]
  refine (mapM_eq_ok_iff.mp each).imp fun field member made => ?_
  obtain ⟨ident, spelt, made⟩ := bind_eq_ok_iff.mp made
  obtain ⟨_, _, same⟩ := bind_eq_ok_iff.mp made
  exact Except.ok.inj same ▸ spelt

theorem interface_rendered (kind : artifact.kind = .interface)
    (rendered : support.render artifact = .ok file) :
    ∃ name methods, Item.contractTokens name methods <:+ file.tokens ∧
      Spelt (artifact.methods.map (·.1)) (methods.map (·.name)) := by
  obtain ⟨item, shaped, last⟩ := item_of_render rendered
  rw [kind] at shaped
  obtain ⟨name, _, shaped⟩ := bind_eq_ok_iff.mp shaped
  obtain ⟨methods, each, same⟩ := bind_eq_ok_iff.mp shaped
  obtain rfl := Except.ok.inj same
  refine ⟨name, methods, last, ?_⟩
  rw [Spelt, List.forall₂_map_left_iff, List.forall₂_map_right_iff]
  refine (mapM_eq_ok_iff.mp each).imp fun field method made => ?_
  obtain ⟨ident, spelt, made⟩ := bind_eq_ok_iff.mp made
  obtain ⟨_, _, made⟩ := bind_eq_ok_iff.mp made
  obtain ⟨_, _, same⟩ := bind_eq_ok_iff.mp made
  exact Except.ok.inj same ▸ spelt

/-- The file of a parse function ends with a function that sets a field for each key. -/
theorem parser_rendered {builder : QualifiedName} {recipe : Recipe}
    (kind : artifact.kind = .function) (found : artifact.recipe? = some (builder, recipe))
    (rendered : support.render artifact = .ok file) :
    ∃ name input built error malformed fields,
      Item.parserTokens name input built error malformed fields <:+ file.tokens ∧
      Spelt (recipe.fields.map (·.key)) (fields.map (·.name)) := by
  obtain ⟨item, shaped, last⟩ := item_of_render rendered
  rw [kind] at shaped
  obtain ⟨_, params, returns, function⟩ := Artifact.recipe?_eq_some_iff.mp found
  cases functionItem_origin shaped with
  | @parser _ _ fields _ _ _ _ _ trees _ _ own _ _ _ _ _ each =>
    rw [function] at own
    obtain ⟨⟩ := Option.some.inj own
    refine ⟨_, _, _, _, _, trees, last, ?_⟩
    rw [Spelt, List.forall₂_map_left_iff, List.forall₂_map_right_iff]
    refine (mapM_eq_ok_iff.mp each).imp fun field tree made => ?_
    obtain ⟨ident, spelt, made⟩ := bind_eq_ok_iff.mp made
    obtain ⟨_, _, same⟩ := bind_eq_ok_iff.mp made
    exact Except.ok.inj same ▸ spelt
  | builder own =>
    rw [function] at own
    simp at own

end Support

end Source

namespace Job

open Source

variable {job : Job} {artifacts : List Artifact} {artifact : Artifact} {support : Support}
  {file : File}

/-- The struct, the trait or the parse function in the file of an emitted artifact has an identifier
for each member, in the order of the members, and no two of these are one just where no two members
are one in snake case. The members of a parse function are those of the record that it builds. -/
theorem identifiers_nodup_iff (generated : job.generate = .ok artifacts)
    (among : artifact ∈ artifacts) (rendered : support.render artifact = .ok file) :
    (artifact.kind = .record →
      ∃ name generics members, Item.recordTokens name generics members <:+ file.tokens ∧
        Spelt (artifact.fields.map (·.1)) (members.map (·.1)) ∧
        ((members.map (·.1)).Nodup ↔ ((artifact.fields.map (·.1)).map Text.snakeCase).Nodup)) ∧
    (artifact.kind = .interface →
      ∃ name methods, Item.contractTokens name methods <:+ file.tokens ∧
        Spelt (artifact.methods.map (·.1)) (methods.map (·.name)) ∧
        ((methods.map (·.name)).Nodup ↔
          ((artifact.methods.map (·.1)).map Text.snakeCase).Nodup)) ∧
    ∀ recipe, artifact.kind = .function → artifact.recipe? = some (artifact.name, recipe) →
      ∃ record ∈ artifacts, record.kind = .record ∧ record.name = recipe.record ∧
        ∃ name input built error malformed fields,
          Item.parserTokens name input built error malformed fields <:+ file.tokens ∧
          Spelt (record.fields.map (·.1)) (fields.map (·.name)) ∧
          ((fields.map (·.name)).Nodup ↔ ((record.fields.map (·.1)).map Text.snakeCase).Nodup) := by
  refine ⟨fun kind => ?_, fun kind => ?_, fun recipe kind found => ?_⟩
  · obtain ⟨name, generics, members, last, spelt⟩ := Support.record_rendered kind rendered
    exact ⟨name, generics, members, last, spelt, nodup_iff_of_spelt spelt⟩
  · obtain ⟨name, methods, last, spelt⟩ := Support.interface_rendered kind rendered
    exact ⟨name, methods, last, spelt, nodup_iff_of_spelt spelt⟩
  · obtain ⟨_, _, made⟩ := Draft.settle_ok generated
    obtain ⟨phases, rfl⟩ := emission_phases made
    obtain ⟨_, _, parses, inside, emitted⟩ := phases.parses among found
    obtain ⟨_, _, _, record, listed, ofRecord, called, fields⟩ := parses.origin inside found
    obtain ⟨name, input, built, error, malformed, trees, last, spelt⟩ :=
      Support.parser_rendered kind found rendered
    have keys : record.fields.map (·.1) = recipe.fields.map (·.key) := by simp [fields]
    rw [← keys] at spelt
    exact ⟨record, emitted record listed, ofRecord, called, name, input, built, error, malformed,
      trees, last, spelt, nodup_iff_of_spelt spelt⟩

/-- The two fields of a filter are two in its file. -/
theorem identifiers_nodup_shop :
    ∃ artifacts artifact file, shop.generate = .ok artifacts ∧ artifact ∈ artifacts ∧
      artifact.kind = .record ∧ artifact.fields.map (·.1) = ["color", "any"] ∧
      (Support.ofSettings shop.settings).render artifact = .ok file ∧
      ∃ name generics members, Item.recordTokens name generics members <:+ file.tokens ∧
        (members.map (·.1)).Nodup := by
  have runs : (shop.generate.toOption.any fun artifacts => artifacts.any fun artifact =>
      decide (artifact.kind = .record) && decide (artifact.fields.map (·.1) = ["color", "any"]) &&
      ((Support.ofSettings shop.settings).render artifact).isOk) = true := by
    decide +kernel
  obtain ⟨artifacts, generated, holds⟩ := exists_ok_of_any runs
  simp only [List.any_eq_true, Bool.and_eq_true, decide_eq_true_eq] at holds
  obtain ⟨artifact, among, ⟨kind, fields⟩, renders⟩ := holds
  obtain ⟨file, rendered⟩ := exists_ok_of_isOk renders
  obtain ⟨name, generics, members, last, _, distinct⟩ :=
    (identifiers_nodup_iff generated among rendered).1 kind
  have apart : ((artifact.fields.map (·.1)).map Text.snakeCase).Nodup := by
    rw [fields]
    decide +kernel
  exact ⟨artifacts, artifact, file, generated, among, kind, fields, rendered, name, generics,
    members, last, distinct.mpr apart⟩

/-- An input record with two fields that snake case spells alike. -/
def homonyms : Job where
  schema := .ofList [
    .input ⟨"Filter", [⟨"fooBar", .named "Int", [], .empty⟩, ⟨"foo_bar", .named "Int", [], .empty⟩],
      .ofList [⟨"generate", []⟩]⟩]
  settings := {}

/-- The homonyms are two in the schema, and one in the struct and in its parse function. -/
theorem identifiers_clash_homonyms :
    ∃ artifacts, homonyms.generate = .ok artifacts ∧
      (∃ artifact ∈ artifacts, ∃ file, artifact.kind = .record ∧
        artifact.fields.map (·.1) = ["fooBar", "foo_bar"] ∧
        (Support.ofSettings homonyms.settings).render artifact = .ok file ∧
        ∃ name generics members, Item.recordTokens name generics members <:+ file.tokens ∧
          ¬ (members.map (·.1)).Nodup) ∧
      ∃ artifact ∈ artifacts, ∃ recipe file, artifact.recipe? = some (artifact.name, recipe) ∧
        recipe.fields.map (·.key) = ["fooBar", "foo_bar"] ∧
        (Support.ofSettings homonyms.settings).render artifact = .ok file ∧
        ∃ name input built error malformed fields,
          Item.parserTokens name input built error malformed fields <:+ file.tokens ∧
          ¬ (fields.map (·.name)).Nodup := by
  have runs : (homonyms.generate.toOption.any fun artifacts =>
      (artifacts.any fun artifact => decide (artifact.kind = .record) &&
        decide (artifact.fields.map (·.1) = ["fooBar", "foo_bar"]) &&
        ((Support.ofSettings homonyms.settings).render artifact).isOk) &&
      artifacts.any fun artifact => decide (artifact.kind = .function) &&
        (artifact.recipe?.any fun entry => decide (entry.1 = artifact.name) &&
          decide (entry.2.fields.map (·.key) = ["fooBar", "foo_bar"])) &&
        ((Support.ofSettings homonyms.settings).render artifact).isOk) = true := by
    decide +kernel
  have alike : ¬ (["fooBar", "foo_bar"].map Text.snakeCase).Nodup := by decide +kernel
  obtain ⟨artifacts, generated, holds⟩ := exists_ok_of_any runs
  simp only [List.any_eq_true, Option.any_eq_true, Bool.and_eq_true, decide_eq_true_eq] at holds
  obtain ⟨⟨record, among, ⟨kind, fields⟩, renders⟩,
    parser, listed, ⟨ofFunction, ⟨builder, recipe⟩, found, rfl, keys⟩, also⟩ := holds
  obtain ⟨file, rendered⟩ := exists_ok_of_isOk renders
  obtain ⟨other, renderedToo⟩ := exists_ok_of_isOk also
  refine ⟨artifacts, generated, ⟨record, among, file, kind, fields, rendered, ?_⟩,
    parser, listed, recipe, other, found, keys, renderedToo, ?_⟩
  · obtain ⟨name, generics, members, last, spelt⟩ := Support.record_rendered kind rendered
    refine ⟨name, generics, members, last, ?_⟩
    rw [nodup_iff_of_spelt spelt, fields]
    exact alike
  · obtain ⟨name, input, built, error, malformed, trees, last, spelt⟩ :=
      Support.parser_rendered ofFunction found renderedToo
    refine ⟨name, input, built, error, malformed, trees, last, ?_⟩
    rw [nodup_iff_of_spelt spelt, keys]
    exact alike

end Job

end Typewright
