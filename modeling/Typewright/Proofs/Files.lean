import Typewright.Proofs.DistinctKeys
import Typewright.Proofs.PathSteps
import Typewright.Proofs.Spelling

/-! The names of rendered files. Every file of a run but the module files is that of an artifact, or
of what all artifacts lean on; snake case may make two identifiers one, or make one the name of a
module file, and otherwise no file has the name of another. -/
namespace Typewright

/-- Two items of a run live where the runtime does. -/
theorem Role.runtime_cases {role : Role} (segment : role.segment = "runtime") :
    role = .valueBox ∨ role = .environment := by
  cases role with
  | typeName kind => cases kind <;> simp [Role.segment] at segment
  | _ => simp [Role.segment] at segment ⊢

theorem Settings.identifier_of_shared {settings : Settings} {key : Key}
    (shared : key.role.isShared = true) : settings.identifier key = key.bareIdentifier := by
  rw [identifier]
  split
  · rfl
  · rw [if_pos shared]

namespace Source

variable {files : List File}

theorem mem_foldersOf {folder text : String} {file : File} (some : folder ≠ "")
    (named : file.name = folder ++ "/" ++ Text.snakeCase text ++ ".rs") (among : file ∈ files) :
    folder ∈ foldersOf files := by
  refine mem_foldersOf_iff_entered.mpr ⟨some, file, among, ⟨folder, Text.snakeCase text, false⟩, ?_, rfl⟩
  rw [named, entriesOf_join (Text.slash_not_mem_snakeCase text)]
  exact .head _

theorem Support.render_ok {support : Support} {artifact : Artifact} {file : File}
    (rendered : support.render artifact = .ok file) :
    ∃ documented, support.item artifact = .ok documented ∧
      file = ⟨filePath artifact.name, documented.tokens⟩ := by
  rw [render] at rendered
  split at rendered
  next documented made => exact ⟨documented, made, (Except.ok.inj rendered).symm⟩
  next => contradiction

theorem name_render {support : Support} {artifact : Artifact} {file : File}
    (rendered : support.render artifact = .ok file) : file.name = filePath artifact.name := by
  obtain ⟨_, _, rfl⟩ := Support.render_ok rendered
  rfl

theorem names_of_mapM {support : Support} {artifacts : List Artifact} {parts : List File}
    (each : artifacts.mapM support.render = .ok parts) :
    parts.map File.name = artifacts.map (filePath ·.name) := by
  have same : List.Forall₂ (· = ·) (artifacts.map (filePath ·.name)) (parts.map File.name) := by
    rw [List.forall₂_map_left_iff, List.forall₂_map_right_iff]
    exact (mapM_eq_ok_iff.mp each).imp fun _ _ made => (name_render made).symm
  rw [List.forall₂_eq_eq_eq] at same
  exact same.symm

/-- A run that is rendered has the support file, the files of the artifacts, and the module files of
these. -/
theorem Support.renderAll_ok {support : Support} {artifacts : List Artifact}
    (rendered : support.renderAll artifacts = .ok files) :
    ∃ parts trees, artifacts.mapM support.render = .ok parts ∧
      ModuleTree.ofFiles (support.file :: parts) = .ok trees ∧
      files = support.file :: parts ++ trees.map ModuleTree.file := by
  obtain ⟨parts, each, made⟩ := bind_eq_ok_iff.mp rendered
  cases trees : ModuleTree.ofFiles (support.file :: parts) with
  | error cause => simp [trees, throw, throwThe, MonadExceptOf.throw] at made
  | ok found =>
    simp only [trees, pure, Except.pure, Except.ok.injEq] at made
    exact ⟨parts, found, each, trees, made.symm⟩

theorem filePath_mem {support : File} {sources : List File} {artifacts : List Artifact}
    (names : sources.map File.name = support.name :: artifacts.map (filePath ·.name))
    {artifact : Artifact} (among : artifact ∈ artifacts) :
    filePath artifact.name ∈ sources.map File.name := by
  rw [names]
  exact .tail _ (List.mem_map.mpr ⟨artifact, among, rfl⟩)

theorem names_renderAll {support : Support} {artifacts : List Artifact}
    (rendered : support.renderAll artifacts = .ok files) :
    ∃ sources : List File,
      sources.map File.name = support.file.name :: artifacts.map (filePath ·.name) ∧
      files.map File.name = sources.map File.name ++ (foldersOf sources).map (· ++ "/mod.rs") := by
  obtain ⟨parts, trees, each, made, rfl⟩ := Support.renderAll_ok rendered
  refine ⟨support.file :: parts, by simp [names_of_mapM each], ?_⟩
  rw [← folders_ofFiles made]
  simp [ModuleTree.file]

/-- Names that stand in paths whatever the schema. -/
theorem snakeCase_fixed : Text.snakeCase "mod" = "mod" ∧
    Text.snakeCase "coercion_error" = "coercion_error" ∧ Text.snakeCase "Present" = "present" ∧
    Text.snakeCase "ResolverEnv" = "resolver_env" := by
  decide +kernel

theorem Ident.ofName_fixed :
    ∀ text ∈ "generated" :: "coercion_error" :: Role.segments, ofName text = .ok ⟨text⟩ := by
  decide +kernel

theorem Ident.ofName_segment (role : Role) : ofName role.segment = .ok ⟨role.segment⟩ :=
  ofName_fixed _ (.tail _ (.tail _ role.segment_mem))

/-- Whether the artifact can be rendered, into a file that is called like an identifier. -/
def Support.canRender (support : Support) (artifact : Artifact) : Bool :=
  (support.render artifact).isOk && (Ident.ofName (Text.snakeCase artifact.name.identifier)).isOk

/-- A file that has the name of a module file is the file of an item called `mod`. -/
theorem snakeCase_eq_mod {folder another text : String}
    (same : folder ++ "/" ++ Text.snakeCase text ++ ".rs" = another ++ "/mod.rs") :
    folder = another ∧ Text.snakeCase text = "mod" := by
  have spelt := snakeCase_fixed.1
  have ending : another ++ "/mod.rs" = another ++ "/" ++ Text.snakeCase "mod" ++ ".rs" := by
    rw [spelt]
    simp [String.append_assoc]
  rw [ending, String.append_left_inj] at same
  obtain ⟨folders, texts⟩ := path_inj same
  exact ⟨folders, texts.trans spelt⟩

end Source

namespace Job

open Source

variable {job : Job} {artifacts : List Artifact} {files : List File} {artifact other : Artifact}

def Keyed (job : Job) (artifact : Artifact) : Prop :=
  ∃ key, artifact.name = job.settings.compose key

/-- Every artifact of a run has the name of a key, and the names are distinct if no output record
has two fields of one name. -/
theorem names_of_generate (generated : job.generate = .ok artifacts) :
    (∀ artifact ∈ artifacts, job.Keyed artifact) ∧
      (job.DistinctFields → (artifacts.map Artifact.name).Nodup) := by
  obtain ⟨granted, injective, made⟩ := Draft.settle_ok generated
  obtain ⟨phases, rfl⟩ := emission_phases made
  refine ⟨fun artifact among => ?_, fun distinct => phases.names_nodup distinct injective⟩
  obtain ⟨key, _, _, same⟩ := phases.labelled.exists_key among
  exact ⟨key, same⟩

theorem Keyed.exists_steps (keyed : job.Keyed artifact) :
    ∃ role, filePath artifact.name =
      pathOf (job.settings.fileSteps role artifact.name.identifier) := by
  obtain ⟨key, named⟩ := keyed
  have path : filePath artifact.name = filePath
      ⟨(job.settings.compose key).namespacePath, artifact.name.identifier⟩ := by rw [named]
  exact ⟨key.role, by rw [path, filePath_compose, Settings.pathOf_fileSteps]⟩

theorem supportFile_name (settings : Settings) : (Support.ofSettings settings).file.name =
    filePath ⟨(settings.compose (.shared .valueBox)).namespacePath, "coercion_error"⟩ := rfl

theorem supportFile_steps (settings : Settings) :
    (Support.ofSettings settings).file.name =
      pathOf (settings.fileSteps .valueBox "coercion_error") := by
  rw [Settings.pathOf_fileSteps, supportFile_name, filePath_compose, Key.role_shared]

/-- Every file of a run that is no module file is that of an artifact, or of what all lean on. -/
theorem steps_of_source {sources : List File} (keyed : ∀ artifact ∈ artifacts, job.Keyed artifact)
    (names : sources.map File.name =
      (Support.ofSettings job.settings).file.name :: artifacts.map (filePath ·.name))
    {file : File} (among : file ∈ sources) :
    ∃ role text, file.name = pathOf (job.settings.fileSteps role text) ∧
      (text = "coercion_error" ∨ ∃ artifact ∈ artifacts, text = artifact.name.identifier) := by
  have listed : file.name ∈ sources.map File.name := List.mem_map_of_mem among
  rw [names] at listed
  rcases List.mem_cons.mp listed with own | ofArtifact
  · exact ⟨_, _, own.trans (supportFile_steps job.settings), .inl rfl⟩
  · obtain ⟨artifact, emitted, path⟩ := List.mem_map.mp ofArtifact
    obtain ⟨role, steps⟩ := (keyed artifact emitted).exists_steps
    exact ⟨role, _, path.symm.trans steps, .inr ⟨artifact, emitted, rfl⟩⟩

/-- A run can be rendered if each artifact can, and the folders of the base namespace are called like
identifiers. -/
theorem exists_renderAll (generated : job.generate = .ok artifacts)
    (base : ∀ step ∈ job.settings.baseFolders, (Ident.ofName step).isOk = true)
    (each : ∀ artifact ∈ artifacts, (Support.ofSettings job.settings).canRender artifact = true) :
    ∃ files, (Support.ofSettings job.settings).renderAll artifacts = .ok files := by
  simp only [Support.canRender, Bool.and_eq_true] at each
  obtain ⟨parts, made⟩ := exists_mapM_ok fun artifact among =>
    exists_ok_of_isOk (each artifact among).1
  have names : ((Support.ofSettings job.settings).file :: parts).map File.name =
      (Support.ofSettings job.settings).file.name :: artifacts.map (filePath ·.name) := by
    rw [List.map_cons, names_of_mapM made]
  obtain ⟨trees, told⟩ : ∃ trees,
      ModuleTree.ofFiles ((Support.ofSettings job.settings).file :: parts) = .ok trees := by
    refine exists_ofFiles fun file among entry entered => ?_
    obtain ⟨role, text, path, origin⟩ := steps_of_source (names_of_generate generated).1 names among
    rw [path, Settings.mem_entriesOf_fileSteps] at entered
    obtain ⟨before, step, after, split, _, rfl⟩ := entered
    rcases Settings.fileSteps_cases split with ⟨rest, ofBase⟩ | ⟨_, rfl⟩ | ⟨_, rfl⟩
    · exact base step (by simp [ofBase])
    · rw [Ident.ofName_segment]
      rfl
    · rcases origin with rfl | ⟨artifact, emitted, rfl⟩
      · rw [snakeCase_fixed.2.1, Ident.ofName_fixed _ (.tail _ (.head _))]
        rfl
      · exact (each artifact emitted).2
  refine ⟨(Support.ofSettings job.settings).file :: parts ++ trees.map ModuleTree.file,
    bind_eq_ok_iff.mpr ⟨parts, made, ?_⟩⟩
  simp [told, pure, Except.pure]

theorem supportFile_ne (settings : Settings) (key : Key) :
    (Support.ofSettings settings).file.name ≠ filePath (settings.compose key) := by
  have composed : settings.compose key =
      ⟨(settings.compose key).namespacePath, settings.identifier key⟩ := rfl
  rw [composed, supportFile_name, Ne, filePath_eq_iff]
  rintro ⟨segments, spelt⟩
  obtain ⟨_, error, present, environment⟩ := snakeCase_fixed
  rcases Role.runtime_cases segments.symm with role | role
  · rw [Settings.identifier_of_shared (by rw [role]; rfl), Key.bareIdentifier, role] at spelt
    exact absurd (error.symm.trans (spelt.trans present)) (by decide)
  · rw [Settings.identifier_of_shared (by rw [role]; rfl), Key.bareIdentifier, role] at spelt
    exact absurd (error.symm.trans (spelt.trans environment)) (by decide)

theorem Keyed.exists_folder (keyed : job.Keyed artifact) :
    ∃ folder, folder ≠ "" ∧ filePath artifact.name =
      folder ++ "/" ++ Text.snakeCase artifact.name.identifier ++ ".rs" := by
  obtain ⟨key, named⟩ := keyed
  rw [named]
  exact ⟨job.settings.folderOf key.role, folderOf_ne_empty _ _, filePath_compose _⟩

theorem Keyed.filePath_eq_iff (keyed : job.Keyed artifact) (keyedToo : job.Keyed other) :
    filePath artifact.name = filePath other.name ↔
      artifact.name.namespacePath = other.name.namespacePath ∧
        Text.snakeCase artifact.name.identifier = Text.snakeCase other.name.identifier := by
  obtain ⟨key, named⟩ := keyed
  obtain ⟨twin, namedToo⟩ := keyedToo
  rw [named, namedToo, namespacePath_eq_iff]
  exact Typewright.filePath_eq_iff

/-- The files of the artifacts and of what they lean on. -/
theorem sources_nodup_iff (keyed : ∀ artifact ∈ artifacts, job.Keyed artifact)
    (distinct : artifacts.Nodup) :
    ((Support.ofSettings job.settings).file.name :: artifacts.map (filePath ·.name)).Nodup ↔
      ∀ artifact ∈ artifacts, ∀ other ∈ artifacts,
        artifact.name.namespacePath = other.name.namespacePath →
        Text.snakeCase artifact.name.identifier = Text.snakeCase other.name.identifier →
        artifact = other := by
  have support : (Support.ofSettings job.settings).file.name ∉ artifacts.map (filePath ·.name) := by
    intro among
    obtain ⟨artifact, among, same⟩ := List.mem_map.mp among
    obtain ⟨key, named⟩ := keyed artifact among
    exact supportFile_ne job.settings key (named ▸ same.symm)
  rw [List.nodup_cons, and_iff_right support]
  constructor
  · intro nodup artifact among other amongToo spaces spelt
    exact List.inj_on_of_nodup_map nodup among amongToo
      (((keyed artifact among).filePath_eq_iff (keyed other amongToo)).mpr ⟨spaces, spelt⟩)
  · intro apart
    refine distinct.map_on fun artifact among other amongToo same => ?_
    obtain ⟨spaces, spelt⟩ :=
      ((keyed artifact among).filePath_eq_iff (keyed other amongToo)).mp same
    exact apart artifact among other amongToo spaces spelt

/-- The module files stand apart from the others unless an artifact is called `mod`. -/
theorem modules_disjoint_iff (keyed : ∀ artifact ∈ artifacts, job.Keyed artifact)
    {sources : List File} (names : sources.map File.name =
      (Support.ofSettings job.settings).file.name :: artifacts.map (filePath ·.name)) :
    (∀ name ∈ sources.map File.name, name ∉ (foldersOf sources).map (· ++ "/mod.rs")) ↔
      ∀ artifact ∈ artifacts, Text.snakeCase artifact.name.identifier ≠ "mod" := by
  have called (folder text : String) (module : folder ++ "/" ++ Text.snakeCase text ++ ".rs" ∈
      (foldersOf sources).map (· ++ "/mod.rs")) : Text.snakeCase text = "mod" := by
    obtain ⟨other, _, same⟩ := List.mem_map.mp module
    exact (snakeCase_eq_mod same.symm).2
  constructor
  · intro apart artifact among spelt
    obtain ⟨folder, some, path⟩ := (keyed artifact among).exists_folder
    have listed := filePath_mem names among
    obtain ⟨file, source, same⟩ := List.mem_map.mp listed
    refine apart _ listed (List.mem_map.mpr ⟨folder, mem_foldersOf some (same.trans path) source, ?_⟩)
    rw [path, spelt]
    simp [String.append_assoc]
  · intro apart name listed module
    rw [names] at listed
    rcases List.mem_cons.mp listed with rfl | among
    · rw [supportFile_name, filePath_compose] at module
      have spelt := called _ _ module
      exact absurd (snakeCase_fixed.2.1.symm.trans spelt) (by decide)
    · obtain ⟨artifact, emitted, rfl⟩ := List.mem_map.mp among
      obtain ⟨folder, _, path⟩ := (keyed artifact emitted).exists_folder
      exact apart artifact emitted (called _ _ (path ▸ module))

/-- What keeps the file of every artifact apart from every other file: no other artifact in its part
of the namespace is spelt like it in snake case, and it is not called `mod`. -/
theorem names_nodup_iff (distinct : job.DistinctFields) (generated : job.generate = .ok artifacts)
    (rendered : (Support.ofSettings job.settings).renderAll artifacts = .ok files) :
    (files.map File.name).Nodup ↔
      (∀ artifact ∈ artifacts, ∀ other ∈ artifacts,
        artifact.name.namespacePath = other.name.namespacePath →
        Text.snakeCase artifact.name.identifier = Text.snakeCase other.name.identifier →
        artifact = other) ∧
      ∀ artifact ∈ artifacts, Text.snakeCase artifact.name.identifier ≠ "mod" := by
  obtain ⟨keyed, nodup⟩ := names_of_generate generated
  obtain ⟨sources, sourceNames, names⟩ := names_renderAll rendered
  have modules : ((foldersOf sources).map (· ++ "/mod.rs")).Nodup :=
    (nodup_foldersOf sources).map fun one two same => String.append_left_inj _ |>.mp same
  have disjoint := modules_disjoint_iff keyed sourceNames
  have apart := sources_nodup_iff keyed (nodup distinct).of_map
  rw [names, List.nodup_append, sourceNames, apart, ← sourceNames, ← disjoint, and_iff_right modules]
  refine and_congr_right fun _ => forall₂_congr fun name _ => ?_
  constructor
  · exact fun apart module => apart name module rfl
  · rintro apart _ module rfl
    exact apart module

def oneEnum (name : String) : Job where
  schema := .ofList [.enum name ["A"] (.ofList [⟨"generate", []⟩])]
  settings := {}

theorem oneEnum_distinctFields (name : String) : (oneEnum name).DistinctFields := by
  intro record member
  simp [oneEnum, Schema.ofList, Schema.add, Schema.put, Schema.empty] at member

theorem baseFolders_default : ({} : Settings).baseFolders = ["generated"] := by
  decide

theorem isOk_of_mem_default :
    ∀ step ∈ ({} : Settings).baseFolders, (Ident.ofName step).isOk = true := by
  rw [baseFolders_default, List.forall_mem_singleton, Ident.ofName_fixed _ (.head _)]
  rfl

/-- The files of an enum called `Color`. -/
theorem renderAll_oneEnum :
    ∃ artifacts files, (oneEnum "Color").generate = .ok artifacts ∧
      (Support.ofSettings {}).renderAll artifacts = .ok files ∧
      artifacts.map (fun artifact =>
          (artifact.name.namespacePath, Text.snakeCase artifact.name.identifier)) =
        [("generated.enums", "color"), ("generated.runtime", "present"),
          ("generated.runtime", "resolver_env")] := by
  have runs : ((oneEnum "Color").generate.toOption.any fun artifacts =>
      artifacts.all (Support.ofSettings {}).canRender &&
      artifacts.map (fun artifact =>
          (artifact.name.namespacePath, Text.snakeCase artifact.name.identifier)) ==
        [("generated.enums", "color"), ("generated.runtime", "present"),
          ("generated.runtime", "resolver_env")]) = true := by
    decide +kernel
  obtain ⟨artifacts, generated, holds⟩ := exists_ok_of_any runs
  simp only [Bool.and_eq_true, List.all_eq_true, beq_iff_eq] at holds
  obtain ⟨files, rendered⟩ := exists_renderAll generated isOk_of_mem_default holds.1
  exact ⟨artifacts, files, generated, rendered, holds.2⟩

theorem names_nodup_oneEnum :
    ∃ artifacts files, (oneEnum "Color").generate = .ok artifacts ∧
      (Support.ofSettings {}).renderAll artifacts = .ok files ∧ (files.map File.name).Nodup := by
  obtain ⟨artifacts, files, generated, rendered, names⟩ := renderAll_oneEnum
  refine ⟨artifacts, files, generated, rendered,
    (names_nodup_iff (oneEnum_distinctFields "Color") generated rendered).mpr ⟨?_, ?_⟩⟩
  · intro artifact among other amongToo spaces spelt
    have nodup : (artifacts.map fun artifact =>
        (artifact.name.namespacePath, Text.snakeCase artifact.name.identifier)).Nodup := by
      rw [names]
      decide
    exact List.inj_on_of_nodup_map nodup among amongToo (Prod.ext spaces spelt)
  · intro artifact among spelt
    have listed := List.mem_map_of_mem (f := fun artifact : Artifact =>
      (artifact.name.namespacePath, Text.snakeCase artifact.name.identifier)) among
    simp [names, spelt] at listed

/-- The file of an enum called `Mod` is that of the module which declares the enums. -/
theorem names_clash_oneEnum :
    (oneEnum "Mod").DistinctFields ∧ ∃ artifacts files,
      (oneEnum "Mod").generate = .ok artifacts ∧
      (Support.ofSettings {}).renderAll artifacts = .ok files ∧ ¬ (files.map File.name).Nodup := by
  refine ⟨oneEnum_distinctFields "Mod", ?_⟩
  have runs : ((oneEnum "Mod").generate.toOption.any fun artifacts =>
      artifacts.all (Support.ofSettings {}).canRender &&
      artifacts.any fun artifact => Text.snakeCase artifact.name.identifier == "mod") = true := by
    decide +kernel
  obtain ⟨artifacts, generated, holds⟩ := exists_ok_of_any runs
  simp only [Bool.and_eq_true, List.all_eq_true, List.any_eq_true, beq_iff_eq] at holds
  obtain ⟨each, artifact, among, spelt⟩ := holds
  obtain ⟨files, rendered⟩ := exists_renderAll generated isOk_of_mem_default each
  refine ⟨artifacts, files, generated, rendered, fun nodup => ?_⟩
  obtain ⟨sources, sourceNames, names⟩ := names_renderAll rendered
  rw [names, List.nodup_append] at nodup
  have apart := (modules_disjoint_iff (names_of_generate generated).1 sourceNames).mp
    fun name listed module => nodup.2.2 name listed name module rfl
  exact apart artifact among spelt

end Job

end Typewright
