import Typewright.Proofs.Rendering

/-! Generated source names only items that exist: a run renders a file for each name that its
artifacts refer to, and one for the items that files lean on. -/
namespace Typewright

namespace Source

def itemKeywords : List String := ["enum", "struct", "trait", "fn"]

theorem infix_definition (before : List Token) (text : String) {keyword : String}
    (rest : List Token) (name : Ident) (opens : marks text = [.mark "pub", .mark keyword]) :
    [.mark "pub", .mark keyword, name.token] <:+: before ++ marks text ++ name.token :: rest :=
  ⟨before, rest, by simp [opens]⟩

theorem error_defined (error malformed : Ident) :
    [.mark "pub", .mark "enum", error.token] <:+: supportTokens error malformed := by
  iterate 3 refine List.infix_append_of_infix_left ?_
  exact List.infix_append_of_infix_right (infix_definition _ "pub enum" _ error rfl)

theorem malformed_defined (error malformed : Ident) :
    [.mark "pub", .mark "fn", malformed.token] <:+: supportTokens error malformed := by
  refine List.infix_append_of_infix_right (List.infix_append_of_infix_left ?_)
  exact infix_definition [] "pub fn" _ malformed rfl

namespace Item

def name : Item → Ident
  | .enum name .. | .record name .. | .contract name .. | .parser name .. | .builder name .. => name

def keyword : Item → String
  | .enum .. => "enum"
  | .record .. => "struct"
  | .contract .. => "trait"
  | .parser .. | .builder .. => "fn"

theorem keyword_mem (item : Item) : item.keyword ∈ itemKeywords := by
  cases item <;> simp [keyword, itemKeywords]

theorem defined (item : Item) :
    [.mark "pub", .mark item.keyword, item.name.token] <:+: item.tokens := by
  cases item with
  | enum name _ _ _ =>
    iterate 3 refine List.infix_append_of_infix_left ?_
    exact List.infix_append_of_infix_right (infix_definition [] "pub enum" _ name rfl)
  | record name _ _ =>
    exact List.infix_append_of_infix_left (infix_definition _ "pub struct" _ name rfl)
  | contract name _ => exact infix_definition [] "pub trait" _ name rfl
  | parser name _ _ _ _ _ =>
    iterate 3 refine List.infix_append_of_infix_left ?_
    exact infix_definition [] "pub fn" _ name rfl
  | builder name _ _ _ _ _ _ =>
    iterate 2 refine List.infix_append_of_infix_left ?_
    exact infix_definition [] "pub fn" _ name rfl

end Item

/-- The file holds the item of the name: it lies in the folder of the namespace, and defines in
public the identifier at the end of the path of the name. -/
def File.Defines (file : File) (name : QualifiedName) : Prop :=
  (∃ stem, file.name = filePath ⟨name.namespacePath, stem⟩) ∧
    ∃ path keyword, ItemPath.ofName name = .ok path ∧ keyword ∈ itemKeywords ∧
      [.mark "pub", .mark keyword, .mark path.item.text] <:+: file.tokens

theorem ItemPath.ofName_ok {name : QualifiedName} {path : ItemPath}
    (spelt : ItemPath.ofName name = .ok path) :
    name.segments.mapM Ident.ofName = .ok path.segments ∧
      Ident.ofName name.identifier = .ok path.item := by
  obtain ⟨segments, each, spelt⟩ := bind_eq_ok_iff.mp spelt
  obtain ⟨item, last, spelt⟩ := bind_eq_ok_iff.mp spelt
  obtain rfl := Except.ok.inj spelt
  exact ⟨each, last⟩

namespace Support

variable {support : Support} {artifact : Artifact} {file : File} {path : ItemPath}

theorem name_item {documented : Documented} (made : support.item artifact = .ok documented) :
    Ident.ofName artifact.name.identifier = .ok documented.item.name := by
  obtain ⟨item, rfl, shaped⟩ := item_ok made
  cases kind : artifact.kind with
  | enum | record =>
    rw [kind] at shaped
    obtain ⟨name, spelt, shaped⟩ := bind_eq_ok_iff.mp shaped
    obtain ⟨_, _, shaped⟩ := bind_eq_ok_iff.mp shaped
    obtain ⟨_, _, shaped⟩ := bind_eq_ok_iff.mp shaped
    obtain rfl := Except.ok.inj shaped
    exact spelt
  | interface =>
    rw [kind] at shaped
    obtain ⟨name, spelt, shaped⟩ := bind_eq_ok_iff.mp shaped
    obtain ⟨_, _, shaped⟩ := bind_eq_ok_iff.mp shaped
    obtain rfl := Except.ok.inj shaped
    exact spelt
  | function =>
    rw [kind] at shaped
    cases functionItem_origin shaped with
    | parser _ spelt _ _ _ _ _ => exact spelt
    | builder _ spelt _ _ _ _ _ _ => exact spelt

theorem defines_of_render (rendered : support.render artifact = .ok file)
    (spelt : ItemPath.ofName artifact.name = .ok path) : file.Defines artifact.name := by
  obtain ⟨documented, made, rfl⟩ := render_ok rendered
  refine ⟨⟨artifact.name.identifier, rfl⟩, path, documented.item.keyword, spelt,
    documented.item.keyword_mem, ?_⟩
  have named : documented.item.name = path.item :=
    Except.ok.inj ((name_item made).symm.trans (ItemPath.ofName_ok spelt).2)
  rw [← named]
  exact List.infix_append_of_infix_right documented.item.defined

def IsSource (support : Support) (artifacts : List Artifact) (file : File) : Prop :=
  file = support.file ∨ ∃ artifact ∈ artifacts, support.render artifact = .ok file

theorem supportFile_defines (settings : Settings) {name : QualifiedName}
    (helper : name = (Support.ofSettings settings).error ∨
      name = (Support.ofSettings settings).malformed)
    (spelt : ItemPath.ofName name = .ok path) :
    (Support.ofSettings settings).file.Defines name := by
  have plain (identifier space : String)
      (spelt : ItemPath.ofName ⟨space, identifier⟩ = .ok path)
      (ident : Ident.ofName identifier = .ok ⟨identifier⟩) : path.item = ⟨identifier⟩ :=
    Except.ok.inj ((ItemPath.ofName_ok spelt).2.symm.trans ident)
  rcases helper with rfl | rfl
  · have item := plain "CoercionError" _ spelt (by decide +kernel)
    refine ⟨⟨"coercion_error", rfl⟩, path, "enum", spelt, by simp [itemKeywords], ?_⟩
    rw [item]
    exact error_defined _ _
  · have item := plain "malformed" _ spelt (by decide +kernel)
    refine ⟨⟨"coercion_error", rfl⟩, path, "fn", spelt, by simp [itemKeywords], ?_⟩
    rw [item]
    exact malformed_defined _ _

theorem spelled_file (settings : Settings) (names : Set QualifiedName) (texts : Set String) :
    Spelled names texts (Support.ofSettings settings).file.tokens :=
  spelled_supportTokens rfl rfl

theorem spelled_ofFiles {files : List File} {trees : List ModuleTree}
    (made : ModuleTree.ofFiles files = .ok trees) (names : Set QualifiedName) (texts : Set String) :
    ∀ tree ∈ trees, Spelled names texts tree.file.tokens := by
  intro tree listed
  obtain ⟨folder, _, made⟩ := (mapM_eq_ok_iff.mp made).exists_of_mem_right listed
  obtain ⟨folders, eachFolder, made⟩ := bind_eq_ok_iff.mp made
  obtain ⟨files, eachFile, made⟩ := bind_eq_ok_iff.mp made
  obtain rfl := Except.ok.inj made
  have free {children : List String} {idents : List Ident}
      (each : children.mapM Ident.ofName = .ok idents) :
      ∀ ident ∈ idents, ident.token.isFree = true := by
    intro ident listed
    obtain ⟨child, _, spelt⟩ := (mapM_eq_ok_iff.mp each).exists_of_mem_right listed
    exact Ident.isFree_token spelt
  exact spelled_moduleFile (free eachFolder) (free eachFile)

end Support

end Source

namespace Job

open Source

variable {job : Job} {granted : Set Key} {phases : Phases job granted} {artifact : Artifact}
  {parts : List File}

/-- Whatever the file of an emitted artifact may name is an item of a source file of the run: an
artifact is emitted for it, or the support file defines it. -/
theorem Phases.known_defined
    (each : phases.artifacts.mapM (Support.ofSettings job.settings).render = .ok parts)
    (among : artifact ∈ phases.artifacts) {name : QualifiedName} {path : ItemPath}
    (known : name ∈ (Support.ofSettings job.settings).known artifact)
    (spelt : ItemPath.ofName name = .ok path) :
    ∃ source ∈ (Support.ofSettings job.settings).file :: parts,
      (Support.ofSettings job.settings).IsSource phases.artifacts source ∧ source.Defines name := by
  have emitted {other : Artifact} (listed : other ∈ phases.artifacts) (named : other.name = name) :
      ∃ source ∈ (Support.ofSettings job.settings).file :: parts,
        (Support.ofSettings job.settings).IsSource phases.artifacts source ∧
          source.Defines name := by
    obtain ⟨source, member, rendered⟩ :=
      (mapM_eq_ok_iff.mp each).exists_of_mem_left listed
    exact ⟨source, .tail _ member, .inr ⟨other, listed, rendered⟩,
      named ▸ Support.defines_of_render rendered (named ▸ spelt)⟩
  rcases known with listed | box | helper
  · obtain ⟨other, emits, named⟩ := phases.closed among listed
    exact emitted emits named
  · have made := valueBoxArtifact_origin phases.valueBoxMade
    have emits : phases.valueBox ∈ phases.artifacts := mem_artifacts.mpr (by simp)
    exact emitted emits (made.named.trans box.symm)
  · exact ⟨_, .head _, .inl rfl, Support.supportFile_defines job.settings helper spelt⟩

/-- Source text names only items that exist. The file of an artifact names what the artifact refers
to and the items that files lean on. In what a run renders, each of these is an item that a source
file defines. -/
theorem paths_defined :
    (∀ (support : Support) (artifact : Artifact) (file : File),
      support.render artifact = .ok file →
        Spelled (support.known artifact) {text | text ∈ artifact.texts} file.tokens) ∧
    ∀ (job : Job) (artifacts : List Artifact) (files : List File),
      job.generate = .ok artifacts →
      (Support.ofSettings job.settings).renderAll artifacts = .ok files →
      ∀ file ∈ files, Spelled
        {name | ∃ source ∈ files,
          (Support.ofSettings job.settings).IsSource artifacts source ∧ source.Defines name}
        {text | ∃ artifact ∈ artifacts,
          (Support.ofSettings job.settings).render artifact = .ok file ∧ text ∈ artifact.texts}
        file.tokens := by
  refine ⟨fun support artifact file => Support.spelled_render, ?_⟩
  intro job artifacts files generated rendered file listed
  obtain ⟨granted, injective, made⟩ := Draft.settle_ok generated
  obtain ⟨phases, rfl⟩ := emission_phases made
  obtain ⟨parts, trees, each, declared, rfl⟩ := Support.renderAll_ok rendered
  rcases List.mem_append.mp listed with source | module
  · rcases List.mem_cons.mp source with rfl | ofArtifact
    · exact Support.spelled_file job.settings _ _
    · obtain ⟨artifact, among, spelt⟩ :=
        (mapM_eq_ok_iff.mp each).exists_of_mem_right ofArtifact
      refine (Support.spelled_render spelt).mono (fun name known path settled => ?_)
        (fun text given => ⟨artifact, among, spelt, given⟩)
      obtain ⟨source, member, defines⟩ := Phases.known_defined each among known settled
      exact ⟨source, List.mem_append_left _ member, defines⟩
  · obtain ⟨tree, member, rfl⟩ := List.mem_map.mp module
    exact Support.spelled_ofFiles declared _ _ tree member

/-- A schema with an input record that is selected. The enum of its field comes along. -/
def pens : Job where
  schema := .ofList [
    .enum "Color" ["RED"] .empty,
    .input ⟨"Pen", [⟨"color", .named "Color", [], .empty⟩], .ofList [⟨"generate", []⟩]⟩]
  settings := {}

/-- Artifacts of the pens refer to one another, and all that their files name is defined. -/
theorem paths_defined_pens :
    ∃ artifacts files artifact file, pens.generate = .ok artifacts ∧
      (Support.ofSettings pens.settings).renderAll artifacts = .ok files ∧ artifact ∈ artifacts ∧
      (Support.ofSettings pens.settings).render artifact = .ok file ∧ artifact.references ≠ [] ∧
      Spelled ((Support.ofSettings pens.settings).known artifact) {text | text ∈ artifact.texts}
        file.tokens ∧
      ∀ file ∈ files, Spelled
        {name | ∃ source ∈ files,
          (Support.ofSettings pens.settings).IsSource artifacts source ∧ source.Defines name}
        {text | ∃ artifact ∈ artifacts,
          (Support.ofSettings pens.settings).render artifact = .ok file ∧ text ∈ artifact.texts}
        file.tokens := by
  have runs : (pens.generate.toOption.any fun artifacts =>
      artifacts.all (Support.ofSettings pens.settings).canRender &&
      artifacts.any fun artifact => !artifact.references.isEmpty) = true := by
    decide +kernel
  obtain ⟨artifacts, generated, holds⟩ := exists_ok_of_any runs
  simp only [Bool.and_eq_true, List.all_eq_true, List.any_eq_true, Bool.not_eq_true',
    List.isEmpty_eq_false_iff] at holds
  obtain ⟨each, artifact, among, refers⟩ := holds
  obtain ⟨files, rendered⟩ := exists_renderAll generated isOk_of_mem_default each
  obtain ⟨file, spelt⟩ := exists_ok_of_isOk (Bool.and_eq_true_iff.mp (each artifact among)).1
  exact ⟨artifacts, files, artifact, file, generated, rendered, among, spelt, refers,
    paths_defined.1 _ artifact file spelt, paths_defined.2 pens artifacts files generated rendered⟩

end Job

end Typewright
