import Typewright.Proofs.Reading
import Typewright.Proofs.Files

/-! The modules that module files declare. A module is declared by an identifier and found by the
word of it; an identifier that had to be escaped with an underscore is not what its file is called. -/
namespace Typewright

namespace Source

namespace Ident

variable {name word : String} {ident : Ident}

/-- The word of an identifier, without the prefix of raw ones. -/
def bare (ident : Ident) : String :=
  if "r#".toList.isPrefixOf ident.text.toList then String.ofList (ident.text.toList.drop 2)
  else ident.text

theorem bare_raw (raw : ident.text = "r#" ++ word) : ident.bare = word := by
  simp [bare, raw]

theorem bare_plain (plain : '#' ∉ ident.text.toList) : ident.bare = ident.text := by
  rw [bare, if_neg]
  intro raw
  refine plain ((List.isPrefixOf_iff_prefix.mp raw).subset ?_)
  decide

theorem slash_not_mem_bare (whole : '/' ∉ name.toList) (spelt : ofName name = .ok ident) :
    '/' ∉ ident.bare.toList := by
  have ofText (absent : '/' ∉ ident.text.toList) : '/' ∉ ident.bare.toList := by
    rw [bare]
    split
    · rw [String.toList_ofList]
      exact fun among => absent (List.mem_of_mem_drop among)
    · exact absent
  apply ofText
  rcases ofName_cases spelt with ⟨_, text⟩ | ⟨_, text⟩ | ⟨_, _, read, _⟩
  · simp [text, whole]
  · simp [text, whole]
  · obtain ⟨given, found, checked⟩ := Option.bind_eq_some_iff.mp read
    split at checked
    · obtain rfl := Option.some.inj checked
      exact fun among => whole (mem_of_lexemesFrom whole found (.head _) _ among)
    · contradiction

/-- A name in snake case stays but for words that have no escape. -/
theorem bare_snakeCase {text : String} (spelt : ofName (Text.snakeCase text) = .ok ident) :
    ident.bare = if Text.snakeCase text ∈ pathWords then Text.snakeCase text ++ "_"
      else Text.snakeCase text := by
  have plain := plainText_snakeCase text
  have noHash : '#' ∉ (Text.snakeCase text).toList := fun among => (plain _ among).2.2.2 rfl
  have same := text_of_plain plain spelt
  split
  next path =>
    rw [if_pos path] at same
    rw [bare_plain (by simp [same, noHash]), same]
  next noPath =>
    rw [if_neg noPath] at same
    split at same
    · exact bare_raw same
    · rw [bare_plain (by simp [same, noHash]), same]

end Ident

end Source

open Source in
theorem Role.bare_segment (role : Role) : (⟨role.segment⟩ : Ident).bare = role.segment := by
  have each : ∀ segment ∈ segments, (⟨segment⟩ : Ident).bare = segment := by decide
  exact each _ role.segment_mem

namespace Source

variable {files sources : List File} {trees : List ModuleTree} {folder : String} {ident : Ident}

/-- The module has a file in the folder, or a module file of its own. -/
def HasModule (files : List File) (folder : String) (ident : Ident) : Prop :=
  ∃ file ∈ files, file.name = folder ++ "/" ++ ident.bare ++ ".rs" ∨
    file.name = folder ++ "/" ++ ident.bare ++ "/mod.rs"

theorem mem_ofFolder_iff {held : Folder} {tree : ModuleTree}
    (made : ModuleTree.ofFolder folder held = .ok tree) :
    ident ∈ tree.folders ++ tree.files ↔
      ∃ child isFolder, child ∈ held.children isFolder ∧ Ident.ofName child = .ok ident := by
  have spelt {children : List String} {idents : List Ident}
      (each : children.mapM Ident.ofName = .ok idents) :
      ident ∈ idents ↔ ∃ child ∈ children, Ident.ofName child = .ok ident := by
    have related := mapM_eq_ok_iff.mp each
    constructor
    · exact fun listed => related.exists_of_mem_right listed
    · rintro ⟨child, among, made⟩
      obtain ⟨other, listed, same⟩ := related.exists_of_mem_left among
      exact Except.ok.inj (made.symm.trans same) ▸ listed
  obtain ⟨folders, ofFolders, made⟩ := bind_eq_ok_iff.mp made
  obtain ⟨files, ofFiles, same⟩ := bind_eq_ok_iff.mp made
  obtain rfl := Except.ok.inj same
  rw [List.mem_append, spelt ofFolders, spelt ofFiles]
  simp only [Bool.exists_bool, exists_or, Folder.children]
  exact or_comm

/-- The module files declare all that the files and folders below them are called. -/
theorem declared_iff (made : ModuleTree.ofFiles sources = .ok trees) :
    (∃ tree ∈ trees, tree.folder = folder ∧ ident ∈ tree.folders ++ tree.files) ↔
      folder ≠ "" ∧ ∃ file ∈ sources, ∃ entry ∈ entriesOf file.name, entry.folder = folder ∧
        Ident.ofName entry.child = .ok ident := by
  have children := (Folders.holds_ofFiles sources).children
  simp only [List.mem_flatMap] at children
  constructor
  · rintro ⟨tree, listed, rfl, declared⟩
    have inside : tree.folder ∈ foldersOf sources :=
      folders_ofFiles made ▸ List.mem_map_of_mem listed
    obtain ⟨child, isFolder, among, spelt⟩ :=
      (mem_ofFolder_iff (ofFolder_held made listed)).mp declared
    obtain ⟨file, source, entry⟩ := (children _ _ _).mp among
    exact ⟨(mem_foldersOf_iff_entered.mp inside).1, file, source, _, entry, rfl, spelt⟩
  · rintro ⟨some, file, source, entry, entered, rfl, spelt⟩
    have inside := mem_foldersOf_iff_entered.mpr ⟨some, file, source, entry, entered, rfl⟩
    rw [← folders_ofFiles made] at inside
    obtain ⟨tree, listed, under⟩ := List.mem_map.mp inside
    refine ⟨tree, listed, under, (mem_ofFolder_iff (ofFolder_held made listed)).mpr
      ⟨entry.child, entry.isFolder, (children _ _ _).mpr ⟨file, source, ?_⟩, spelt⟩⟩
    rwa [under]

end Source

namespace Settings

open Source

variable {settings : Settings} {role : Role} {file : File} {text folder step : String}
  {before after : List String} {sources files : List File} {ident : Ident}

def Places (settings : Settings) (sources : List File) : Prop :=
  ∀ file ∈ sources, ∃ role text, file.name = pathOf (settings.fileSteps role text)

theorem mem_foldersOf_iff (placed : settings.Places sources) :
    folder ∈ foldersOf sources ↔ folder ≠ "" ∧ ∃ file ∈ sources, ∃ role text before step after,
      file.name = pathOf (settings.fileSteps role text) ∧
      settings.fileSteps role text = before ++ step :: after ∧ before ≠ [] ∧
      folder = String.intercalate "/" before := by
  rw [mem_foldersOf_iff_entered]
  refine and_congr_right fun _ => exists_congr fun file => and_congr_right fun among => ?_
  constructor
  · rintro ⟨entry, listed, rfl⟩
    obtain ⟨role, text, named⟩ := placed file among
    rw [named, mem_entriesOf_fileSteps] at listed
    obtain ⟨before, step, after, split, some, rfl⟩ := listed
    exact ⟨role, text, before, step, after, named, split, some, rfl⟩
  · rintro ⟨role, text, before, step, after, named, split, some, rfl⟩
    rw [named]
    exact ⟨_, mem_entriesOf_fileSteps.mpr ⟨before, step, after, split, some, rfl⟩, rfl⟩

def Declares (sources files : List File) : Prop :=
  files.map File.name = sources.map File.name ++ (foldersOf sources).map (· ++ "/mod.rs")

theorem name_cases (placed : settings.Places sources) (declares : Declares sources files)
    (among : file ∈ files) :
    (∃ role text, file.name = pathOf (settings.fileSteps role text)) ∨
      ∃ role text before step after, settings.fileSteps role text = before ++ step :: after ∧
        before ≠ [] ∧ file.name = pathOf (before ++ ["mod"]) := by
  have listed : file.name ∈ files.map File.name := List.mem_map_of_mem among
  rw [declares, List.mem_append] at listed
  rcases listed with source | module
  · obtain ⟨other, among, same⟩ := List.mem_map.mp source
    obtain ⟨role, text, named⟩ := placed other among
    exact .inl ⟨role, text, same ▸ named⟩
  · obtain ⟨folder, listed, same⟩ := List.mem_map.mp module
    obtain ⟨_, _, _, role, text, before, step, after, _, split, some, rfl⟩ :=
      (mem_foldersOf_iff placed).mp listed
    exact .inr ⟨role, text, before, step, after, split, some, same ▸ (pathOf_mod some).symm⟩

theorem exists_module (declares : Declares sources files) (listed : folder ∈ foldersOf sources) :
    ∃ file ∈ files, file.name = folder ++ "/mod.rs" := by
  have named : folder ++ "/mod.rs" ∈ files.map File.name := by
    rw [declares]
    exact List.mem_append_right _ (List.mem_map_of_mem listed)
  exact List.mem_map.mp named

theorem exists_source (declares : Declares sources files) (among : file ∈ sources) :
    ∃ other ∈ files, other.name = file.name := by
  have named : file.name ∈ files.map File.name := by
    rw [declares]
    exact List.mem_append_left _ (List.mem_map_of_mem among)
  exact List.mem_map.mp named

/-- Steps from one folder lead to other steps unless they are spelt alike: the escape of a word is
no step. -/
theorem bare_eq_of_splits {other : Role} {twin : String} {rest : List String}
    (split : settings.fileSteps role text = before ++ step :: after)
    (spelt : Ident.ofName step = .ok ident)
    (leads : settings.fileSteps other twin = before ++ ident.bare :: rest) : ident.bare = step := by
  rcases fileSteps_cases split with ⟨_, ofBase⟩ | ⟨rfl, rfl⟩ | ⟨rfl, rfl⟩
  · rcases fileSteps_cases leads with ⟨_, same⟩ | ⟨same, _⟩ | ⟨same, _⟩
    · rw [ofBase] at same
      exact (List.cons.inj (List.append_cancel_left same)).1.symm
    · simp [same] at ofBase
    · simp [same] at ofBase
  · obtain rfl := Except.ok.inj ((Ident.ofName_segment role).symm.trans spelt)
    exact role.bare_segment
  · rcases fileSteps_cases leads with ⟨_, same⟩ | ⟨same, _⟩ | ⟨_, same⟩
    · simp at same
    · simp at same
    · have known := Ident.bare_snakeCase spelt
      split at known
      · have last := Text.getLast?_snakeCase twin
        simp [← same, known] at last
      · exact known

/-- What a module is found at: a step on the way to a file, or the module file of the folder. -/
theorem leads_of_hasModule (placed : settings.Places sources) (declares : Declares sources files)
    (some : before ≠ []) (whole : ∀ step ∈ before, '/' ∉ step.toList)
    (plain : '/' ∉ ident.bare.toList)
    (found : HasModule files (String.intercalate "/" before) ident) :
    ident.bare = "mod" ∨
      ∃ role text rest, settings.fileSteps role text = before ++ ident.bare :: rest := by
  have here : ∀ step ∈ before ++ [ident.bare], '/' ∉ step.toList := by
    simpa [or_imp, forall_and] using ⟨whole, plain⟩
  have below {steps : List String} (whole : ∀ step ∈ steps, '/' ∉ step.toList) :
      ∀ step ∈ steps ++ ["mod"], '/' ∉ step.toList := by
    simpa [or_imp, forall_and] using whole
  obtain ⟨file, listed, named⟩ := found
  have path : file.name = pathOf (before ++ [ident.bare]) ∨
      file.name = pathOf (before ++ [ident.bare] ++ ["mod"]) := by
    rw [pathOf_concat some, pathOf_mod (by simp), intercalate_concat _ _ some]
    exact named
  rcases name_cases placed declares listed with
    ⟨role, text, source⟩ | ⟨role, text, outer, step, after, split, someToo, module⟩
  · have wholeToo := settings.slash_not_mem_fileSteps role text
    have filled : settings.fileSteps role text ≠ [] := by simp [fileSteps]
    rcases path with path | path
    · have same := pathOf_inj filled (by simp) wholeToo here (source.symm.trans path)
      exact .inr ⟨role, text, [], same⟩
    · have same := pathOf_inj filled (by simp) wholeToo (below here) (source.symm.trans path)
      exact .inr ⟨role, text, ["mod"], by simpa using same⟩
  · have wholeToo : ∀ step ∈ outer, '/' ∉ step.toList := fun step inside =>
      settings.slash_not_mem_fileSteps role text step (split ▸ List.mem_append_left _ inside)
    rcases path with path | path
    · have same := pathOf_inj (by simp) (by simp) (below wholeToo) here (module.symm.trans path)
      exact .inl (List.singleton_inj.mp (List.append_inj' same rfl).2).symm
    · have same := pathOf_inj (by simp) (by simp) (below wholeToo) (below here)
        (module.symm.trans path)
      obtain rfl := (List.append_inj' same rfl).1
      exact .inr ⟨role, text, step :: after, by simpa using split⟩

/-- A module that is declared for a step has a file just if its word is the step, or the word is
`mod`: then it is the module file itself that is found. -/
theorem hasModule_iff (placed : settings.Places sources) (declares : Declares sources files)
    (among : file ∈ sources) (named : file.name = pathOf (settings.fileSteps role text))
    (split : settings.fileSteps role text = before ++ step :: after) (some : before ≠ [])
    (inside : String.intercalate "/" before ≠ "") (spelt : Ident.ofName step = .ok ident) :
    HasModule files (String.intercalate "/" before) ident ↔
      ident.bare = step ∨ ident.bare = "mod" := by
  have whole := settings.slash_not_mem_fileSteps role text
  rw [split] at whole
  have wholeBare : '/' ∉ ident.bare.toList := Ident.slash_not_mem_bare (whole step (by simp)) spelt
  constructor
  · intro found
    have wholeBefore : ∀ step ∈ before, '/' ∉ step.toList := fun step listed =>
      whole step (List.mem_append_left _ listed)
    rcases leads_of_hasModule placed declares some wholeBefore wholeBare found with
      module | ⟨_, _, _, leads⟩
    · exact .inr module
    · exact .inl (bare_eq_of_splits split spelt leads)
  · rintro (same | same)
    · rcases after with _ | ⟨next, after⟩
      · obtain ⟨source, listed, called⟩ := exists_source declares among
        refine ⟨source, listed, .inl ?_⟩
        rw [called, named, split, pathOf_concat some, same]
      · have longer : String.intercalate "/" (before ++ [step]) ≠ "" := by
          rw [intercalate_concat _ _ some]
          simp
        have folder : String.intercalate "/" (before ++ [step]) ∈ foldersOf sources :=
          (mem_foldersOf_iff placed).mpr ⟨longer, file, among, role, text, before ++ [step], next,
            after, named, by simpa using split, by simp, rfl⟩
        obtain ⟨module, listed, called⟩ := exists_module declares folder
        refine ⟨module, listed, .inr ?_⟩
        rw [called, intercalate_concat _ _ some, same]
    · have folder : String.intercalate "/" before ∈ foldersOf sources :=
        (mem_foldersOf_iff placed).mpr ⟨inside, file, among, role, text, before, step, after, named,
          split, some, rfl⟩
      obtain ⟨module, listed, called⟩ := exists_module declares folder
      refine ⟨module, listed, .inl ?_⟩
      rw [called, same, String.append_assoc, String.append_assoc]
      rfl

/-- Every step below a folder reads as a module of its name, or else as `mod`. -/
def KeepsSteps (settings : Settings) (sources : List File) : Prop :=
  ∀ file ∈ sources, ∀ role text before step after ident,
    file.name = pathOf (settings.fileSteps role text) →
    settings.fileSteps role text = before ++ step :: after →
    String.intercalate "/" before ≠ "" → Ident.ofName step = .ok ident →
    ident.bare = step ∨ ident.bare = "mod"

/-- Whether all declared modules are found hangs on how each step reads as a module. -/
theorem found_iff_keepsSteps {trees : List ModuleTree} (placed : settings.Places sources)
    (declares : Declares sources files) (made : ModuleTree.ofFiles sources = .ok trees) :
    (∀ tree ∈ trees, ∀ ident ∈ tree.folders ++ tree.files, HasModule files tree.folder ident) ↔
      settings.KeepsSteps sources := by
  constructor
  · intro found file among role text before step after ident named split inside spelt
    have some : before ≠ [] := by
      rintro rfl
      exact inside rfl
    have entry := mem_entriesOf_fileSteps.mpr ⟨before, step, after, split, some, rfl⟩
    obtain ⟨tree, listed, under, declared⟩ := (declared_iff made).mpr
      ⟨inside, file, among, _, named ▸ entry, rfl, spelt⟩
    have has := found tree listed ident declared
    rw [under] at has
    exact (hasModule_iff placed declares among named split some inside spelt).mp has
  · intro spells tree listed ident declared
    obtain ⟨inside, file, among, entry, held, under, spelt⟩ :=
      (declared_iff made).mp ⟨tree, listed, rfl, declared⟩
    obtain ⟨role, text, named⟩ := placed file among
    rw [named, mem_entriesOf_fileSteps] at held
    obtain ⟨before, step, after, split, some, rfl⟩ := held
    rw [← under] at inside ⊢
    exact (hasModule_iff placed declares among named split some inside spelt).mpr
      (spells file among role text before step after ident named split inside spelt)

end Settings

namespace Job

open Source

variable {job : Job} {artifacts : List Artifact} {files : List File} {artifact : Artifact}

/-- The folders of the base namespace, but for the first, read as modules of their names. One that is
called `r#mod` may stay: the file of its module is taken to be the module file that declares it. -/
def PlainFolders (settings : Settings) : Prop :=
  ∀ before step after, settings.baseFolders = before ++ step :: after →
    String.intercalate "/" before ≠ "" →
    ∀ ident, Ident.ofName step = .ok ident → ident.bare = step ∨ ident.bare = "mod"

/-- The steps of a run are kept when no artifact is called like a word without an escape. -/
theorem keepsSteps_of_plain {sources : List File}
    (keyed : ∀ artifact ∈ artifacts, job.Keyed artifact)
    (names : sources.map File.name =
      (Support.ofSettings job.settings).file.name :: artifacts.map (filePath ·.name))
    (words : ∀ artifact ∈ artifacts, Text.snakeCase artifact.name.identifier ∉ pathWords)
    (plain : PlainFolders job.settings) : job.settings.KeepsSteps sources := by
  intro file among role text before step after ident named split inside spelt
  rcases Settings.fileSteps_cases split with ⟨rest, ofBase⟩ | ⟨_, rfl⟩ | ⟨_, rfl⟩
  · exact plain before step rest ofBase inside ident spelt
  · obtain rfl := Except.ok.inj ((Ident.ofName_segment role).symm.trans spelt)
    exact .inl role.bare_segment
  · obtain ⟨other, twin, namedToo, origin⟩ := steps_of_source keyed names among
    have same := Settings.snakeCase_eq_of_pathOf (named.symm.trans namedToo)
    have noPath : Text.snakeCase text ∉ pathWords := by
      rw [same]
      rcases origin with rfl | ⟨artifact, emitted, rfl⟩
      · rw [snakeCase_fixed.2.1]
        decide
      · exact words artifact emitted
    have read := Ident.bare_snakeCase spelt
    rw [if_neg noPath] at read
    exact .inl read

/-- No word without an escape, followed by an underscore, is such a word or `mod`. -/
theorem escape_ne : ∀ word ∈ pathWords, word ++ "_" ≠ word ∧ word ++ "_" ≠ "mod" := by
  decide

/-- An artifact called like a word without an escape is declared under another name. -/
theorem not_mem_pathWords_of_keepsSteps {sources : List File} (keyed : job.Keyed artifact)
    (listed : filePath artifact.name ∈ sources.map File.name)
    (kept : job.settings.KeepsSteps sources) :
    Text.snakeCase artifact.name.identifier ∉ pathWords := by
  intro path
  obtain ⟨file, among, named⟩ := List.mem_map.mp listed
  obtain ⟨role, steps⟩ := keyed.exists_steps
  have spelt : Ident.ofName (Text.snakeCase artifact.name.identifier) =
      .ok ⟨Text.snakeCase artifact.name.identifier ++ "_"⟩ := by
    rw [Ident.ofName, if_pos path]
  have read := Ident.bare_snakeCase spelt
  rw [if_pos path] at read
  have inside : String.intercalate "/" (job.settings.baseFolders ++ [role.segment]) ≠ "" := by
    rw [← Settings.folderOf_eq]
    exact folderOf_ne_empty _ _
  have outcome := kept file among role artifact.name.identifier _ _ [] _ (named.trans steps) rfl
    inside spelt
  rw [read] at outcome
  exact outcome.elim (escape_ne _ path).1 (escape_ne _ path).2

theorem plainFolders_of_keepsSteps {sources : List File}
    (listed : (Support.ofSettings job.settings).file.name ∈ sources.map File.name)
    (kept : job.settings.KeepsSteps sources) : PlainFolders job.settings := by
  intro before step after split inside ident spelt
  obtain ⟨file, among, named⟩ := List.mem_map.mp listed
  have longer : job.settings.fileSteps .valueBox "coercion_error" =
      before ++ step :: (after ++ [Role.valueBox.segment, Text.snakeCase "coercion_error"]) := by
    simp [Settings.fileSteps, split]
  exact kept file among .valueBox "coercion_error" _ _ _ _
    (named.trans (supportFile_steps job.settings)) longer inside spelt

/-- In a run that is rendered, all declared modules are found if every step is kept. -/
theorem found_iff_keepsSteps_of_rendered (generated : job.generate = .ok artifacts)
    (rendered : (Support.ofSettings job.settings).renderAll artifacts = .ok files) :
    ∃ (sources : List File) (trees : List ModuleTree), files = sources ++ trees.map ModuleTree.file ∧
      sources.map File.name =
        (Support.ofSettings job.settings).file.name :: artifacts.map (filePath ·.name) ∧
      ((∀ tree ∈ trees, ∀ ident ∈ tree.folders ++ tree.files, HasModule files tree.folder ident) ↔
        job.settings.KeepsSteps sources) := by
  obtain ⟨keyed, _⟩ := names_of_generate generated
  obtain ⟨parts, trees, each, made, same⟩ := Support.renderAll_ok rendered
  have names : ((Support.ofSettings job.settings).file :: parts).map File.name =
      (Support.ofSettings job.settings).file.name :: artifacts.map (filePath ·.name) := by
    rw [List.map_cons, names_of_mapM each]
  generalize (Support.ofSettings job.settings).file :: parts = sources at *
  have placed : job.settings.Places sources := by
    intro file among
    obtain ⟨role, text, named, _⟩ := steps_of_source keyed names among
    exact ⟨role, text, named⟩
  have declares : Settings.Declares sources files := by
    rw [Settings.Declares, same, List.map_append, ← folders_ofFiles made, List.map_map, List.map_map]
    rfl
  exact ⟨sources, trees, same, names, Settings.found_iff_keepsSteps placed declares made⟩

/-- Every module that a module file declares has a file just if no artifact is called like a word
without an escape and the folders of the base namespace read as modules of their names. -/
theorem modules_found_iff (generated : job.generate = .ok artifacts)
    (rendered : (Support.ofSettings job.settings).renderAll artifacts = .ok files) :
    ∃ (sources : List File) (trees : List ModuleTree), files = sources ++ trees.map ModuleTree.file ∧
      sources.map File.name =
        (Support.ofSettings job.settings).file.name :: artifacts.map (filePath ·.name) ∧
      ((∀ tree ∈ trees, ∀ ident ∈ tree.folders ++ tree.files, HasModule files tree.folder ident) ↔
        (∀ artifact ∈ artifacts, Text.snakeCase artifact.name.identifier ∉ pathWords) ∧
          PlainFolders job.settings) := by
  obtain ⟨keyed, _⟩ := names_of_generate generated
  obtain ⟨sources, trees, same, names, found⟩ := found_iff_keepsSteps_of_rendered generated rendered
  refine ⟨sources, trees, same, names, found.trans ?_⟩
  constructor
  · intro kept
    refine ⟨fun artifact emitted => ?_, plainFolders_of_keepsSteps (by simp [names]) kept⟩
    exact not_mem_pathWords_of_keepsSteps (keyed artifact emitted) (filePath_mem names emitted) kept
  · rintro ⟨words, plain⟩
    exact keepsSteps_of_plain keyed names words plain

theorem modules_found_oneEnum :
    ∃ artifacts files, (oneEnum "Color").generate = .ok artifacts ∧
      (Support.ofSettings {}).renderAll artifacts = .ok files ∧
      ∃ (sources : List File) (trees : List ModuleTree), files = sources ++ trees.map ModuleTree.file ∧
        sources.map File.name = (Support.ofSettings {}).file.name :: artifacts.map (filePath ·.name) ∧
        ∀ tree ∈ trees, ∀ ident ∈ tree.folders ++ tree.files,
          HasModule files tree.folder ident := by
  have plain : PlainFolders (oneEnum "Color").settings := by
    intro before step after split inside
    rw [show (oneEnum "Color").settings.baseFolders = _ from baseFolders_default] at split
    rcases before with _ | ⟨_, before⟩
    · exact absurd rfl inside
    · simp at split
  obtain ⟨artifacts, files, generated, rendered, spelt⟩ := renderAll_oneEnum
  obtain ⟨sources, trees, same, names, found⟩ := modules_found_iff generated rendered
  refine ⟨artifacts, files, generated, rendered, sources, trees, same, names,
    found.mpr ⟨fun artifact among word => ?_, plain⟩⟩
  have listed := List.mem_map_of_mem (f := fun artifact : Artifact =>
    (artifact.name.namespacePath, Text.snakeCase artifact.name.identifier)) among
  rw [spelt] at listed
  have apart : ∀ entry ∈ [("generated.enums", "color"), ("generated.runtime", "present"),
      ("generated.runtime", "resolver_env")], entry.2 ∉ pathWords := by
    decide
  exact apart _ listed word

/-- The module of an enum called `Self` is declared as `self_`, and its file is `self.rs`. -/
theorem modules_lost_oneEnum :
    ∃ artifacts files, ∃ (tree : ModuleTree) (ident : Ident),
      (oneEnum "Self").generate = .ok artifacts ∧
      (Support.ofSettings {}).renderAll artifacts = .ok files ∧
      tree.file ∈ files ∧ ident ∈ tree.folders ++ tree.files ∧
      ¬ HasModule files tree.folder ident := by
  have runs : ((oneEnum "Self").generate.toOption.any fun artifacts =>
      artifacts.all (Support.ofSettings {}).canRender &&
      artifacts.any fun artifact =>
        decide (Text.snakeCase artifact.name.identifier ∈ pathWords)) = true := by
    decide +kernel
  obtain ⟨artifacts, generated, holds⟩ := exists_ok_of_any runs
  simp only [Bool.and_eq_true, List.all_eq_true, List.any_eq_true, decide_eq_true_eq] at holds
  obtain ⟨each, artifact, among, word⟩ := holds
  obtain ⟨files, rendered⟩ := exists_renderAll generated isOk_of_mem_default each
  obtain ⟨sources, trees, same, names, found⟩ := found_iff_keepsSteps_of_rendered generated rendered
  have lost : ¬ ∀ tree ∈ trees, ∀ ident ∈ tree.folders ++ tree.files,
      HasModule files tree.folder ident := by
    intro each
    exact not_mem_pathWords_of_keepsSteps ((names_of_generate generated).1 artifact among)
      (filePath_mem names among) (found.mp each) word
  push Not at lost
  obtain ⟨tree, made, ident, declared, lacks⟩ := lost
  refine ⟨artifacts, files, tree, ident, generated, rendered, ?_, declared, lacks⟩
  rw [same]
  exact List.mem_append_right _ (List.mem_map_of_mem made)

end Job

end Typewright
