import Mathlib.Logic.Relation
import Typewright.Proofs.Folders

/-! What the module files of any files declare. Each folder on the way to a file gets one module
file, which declares what the folder holds, so a chain of declared modules leads from the topmost
folder of a file to the file. -/
namespace Typewright.Source

variable {files : List File} {trees : List ModuleTree} {entry : Entry}
  {folder child name path stem : String}

def OnTheWay (files : List File) (folder : String) : Prop :=
  ∃ file ∈ files, ∃ rest, file.name = folder ++ "/" ++ rest ++ ".rs"

def HoldsFolder (files : List File) (folder child : String) : Prop :=
  '/' ∉ child.toList ∧ OnTheWay files (folder ++ "/" ++ child)

def HoldsFile (files : List File) (folder child : String) : Prop :=
  '/' ∉ child.toList ∧ ∃ file ∈ files, file.name = folder ++ "/" ++ child ++ ".rs"

theorem exists_pathSteps (s : String) : ∃ steps : List String, steps ≠ [] ∧
    s = String.intercalate "/" steps ∧ ∀ step ∈ steps, '/' ∉ step.toList :=
  ⟨Text.splitAt '/' s, Text.splitAt_ne_nil '/' s, (Text.intercalate_splitAt '/' s).symm,
    fun _ listed => Text.not_mem_of_mem_splitAt listed⟩

theorem eq_of_stem? (found : stem? name = some stem) : name = stem ++ ".rs" := by
  simp only [stem?] at found
  split at found
  next ending =>
    obtain ⟨front, joined⟩ := List.isSuffixOf_iff_suffix.mp ending
    obtain rfl := Option.some.inj found
    rw [← String.toList_inj]
    simp [← joined]
  next => contradiction

theorem entriesOf_cases (listed : entry ∈ entriesOf name) : entry.folder = "" ∨
    ∃ folder child, '/' ∉ child.toList ∧ name = folder ++ "/" ++ child ++ ".rs" ∧
      (entry = ⟨folder, child, false⟩ ∨ entry ∈ foldersAbove folder) := by
  rw [entriesOf] at listed
  split at listed
  next => contradiction
  next stem found =>
    cases split : Text.splitLast '/' stem with
    | none =>
      have topmost : foldersAbove "" = [] := foldersAbove_whole (by simp)
      simp only [split, Option.getD_none, topmost] at listed
      exact .inl (List.mem_singleton.mp listed ▸ rfl)
    | some halves =>
      obtain ⟨folder, child⟩ := halves
      obtain ⟨joined, whole⟩ := Text.splitLast_eq_some_iff.mp split
      simp only [split, Option.getD_some] at listed
      refine .inr ⟨folder, child, whole, ?_, List.mem_cons.mp listed⟩
      rw [eq_of_stem? found, ← String.toList_inj]
      simp [joined]

theorem mem_foldersAbove_iff : entry ∈ foldersAbove path ↔
    entry.isFolder = true ∧ '/' ∉ entry.child.toList ∧
      ∃ rest, path ++ "/" = entry.folder ++ "/" ++ entry.child ++ "/" ++ rest := by
  obtain ⟨steps, some, rfl, whole⟩ := exists_pathSteps path
  rw [mem_foldersAbove whole some]
  constructor
  · rintro ⟨before, step, after, rfl, inside, rfl⟩
    refine ⟨rfl, whole step (by simp), ?_⟩
    cases after with
    | nil => exact ⟨"", by rw [intercalate_concat _ _ inside, String.append_empty]⟩
    | cons next more =>
      refine ⟨String.intercalate "/" (next :: more) ++ "/", ?_⟩
      rw [String.intercalate_append_of_ne_nil inside (by simp), String.intercalate_cons_cons]
      simp only [String.append_assoc]
  · rintro ⟨kind, plain, rest, same⟩
    have left : Text.splitAt '/' (String.intercalate "/" steps ++ "/") = steps ++ [""] := by
      have ends : (String.intercalate "/" steps ++ "/").toList =
          (String.intercalate "/" steps).toList ++ '/' :: "".toList := by simp
      rw [Text.splitAt_append ends (by simp)]
      exact congrArg (· ++ [""]) ((Text.splitAt_intercalate some).trans
        (Text.flatMap_splitAt_of_whole whole))
    have right : Text.splitAt '/' (entry.folder ++ "/" ++ entry.child ++ "/" ++ rest) =
        Text.splitAt '/' entry.folder ++ entry.child :: Text.splitAt '/' rest := by
      have outer : (entry.folder ++ "/" ++ entry.child ++ "/" ++ rest).toList =
          (entry.folder ++ "/" ++ entry.child).toList ++ '/' :: rest.toList := by simp
      have inner : (entry.folder ++ "/" ++ entry.child).toList =
          entry.folder.toList ++ '/' :: entry.child.toList := by simp
      rw [Text.splitAt_join outer, Text.splitAt_append inner plain, List.append_assoc]
      rfl
    rcases List.eq_nil_or_concat' (Text.splitAt '/' rest) with none | ⟨later, last, ends⟩
    · exact absurd none (Text.splitAt_ne_nil '/' rest)
    · have split : steps ++ [""] =
          (Text.splitAt '/' entry.folder ++ entry.child :: later) ++ [last] := by
        rw [← left, same, right, ends]
        simp
      refine ⟨Text.splitAt '/' entry.folder, entry.child, later, (List.append_inj' split rfl).1,
        Text.splitAt_ne_nil '/' _, ?_⟩
      have folder : String.intercalate "/" (Text.splitAt '/' entry.folder) = entry.folder :=
        Text.intercalate_splitAt '/' entry.folder
      rw [folder, ← kind]

theorem file_mem_entriesOf_iff (some : folder ≠ "") :
    ⟨folder, child, false⟩ ∈ entriesOf name ↔
      '/' ∉ child.toList ∧ name = folder ++ "/" ++ child ++ ".rs" := by
  constructor
  · intro listed
    rcases entriesOf_cases listed with none | ⟨_, _, whole, named, same | above⟩
    · exact absurd none some
    · obtain ⟨rfl, rfl⟩ : folder = _ ∧ child = _ := by simpa using same
      exact ⟨whole, named⟩
    · exact absurd (mem_foldersAbove_iff.mp above).1 Bool.false_ne_true
  · rintro ⟨whole, rfl⟩
    rw [entriesOf_join whole]
    exact .head _

theorem folder_mem_entriesOf_iff (some : folder ≠ "") :
    ⟨folder, child, true⟩ ∈ entriesOf name ↔ '/' ∉ child.toList ∧
      ∃ rest, name = folder ++ "/" ++ child ++ "/" ++ rest ++ ".rs" := by
  constructor
  · intro listed
    rcases entriesOf_cases listed with none | ⟨_, last, _, named, same | above⟩
    · exact absurd none some
    · simp at same
    · obtain ⟨_, whole, rest, joined⟩ := mem_foldersAbove_iff.mp above
      refine ⟨whole, rest ++ last, ?_⟩
      rw [named, joined]
      simp only [String.append_assoc]
  · rintro ⟨whole, rest, rfl⟩
    obtain ⟨steps, filled, rfl, plain⟩ := exists_pathSteps rest
    rcases List.eq_nil_or_concat' steps with rfl | ⟨before, last, rfl⟩
    · contradiction
    · have plainLast : '/' ∉ last.toList := plain last (by simp)
      rcases before with _ | ⟨next, before⟩
      · rw [List.nil_append, String.intercalate_singleton, entriesOf_join plainLast]
        exact .tail _ (mem_foldersAbove_iff.mpr ⟨rfl, whole, "", by simp⟩)
      · have joined : folder ++ "/" ++ child ++ "/" ++
            String.intercalate "/" (next :: before ++ [last]) ++ ".rs" =
            folder ++ "/" ++ child ++ "/" ++ String.intercalate "/" (next :: before) ++ "/" ++
              last ++ ".rs" := by
          rw [intercalate_concat _ _ (by simp)]
          simp only [String.append_assoc]
        rw [joined, entriesOf_join plainLast]
        refine .tail _ (mem_foldersAbove_iff.mpr
          ⟨rfl, whole, String.intercalate "/" (next :: before) ++ "/", ?_⟩)
        simp only [String.append_assoc]

theorem mem_held_files_iff (some : folder ≠ "") :
    child ∈ ((Folders.ofFiles files).held folder).files ↔ HoldsFile files folder child := by
  have children := (Folders.holds_ofFiles files).children folder child false
  rw [Folder.children] at children
  simp only [children, List.mem_flatMap, file_mem_entriesOf_iff some, HoldsFile]
  constructor
  · rintro ⟨file, among, whole, named⟩
    exact ⟨whole, file, among, named⟩
  · rintro ⟨whole, file, among, named⟩
    exact ⟨file, among, whole, named⟩

theorem mem_held_folders_iff (some : folder ≠ "") :
    child ∈ ((Folders.ofFiles files).held folder).folders ↔ HoldsFolder files folder child := by
  have children := (Folders.holds_ofFiles files).children folder child true
  rw [Folder.children] at children
  simp only [children, List.mem_flatMap, folder_mem_entriesOf_iff some, HoldsFolder, OnTheWay]
  constructor
  · rintro ⟨file, among, whole, rest, named⟩
    exact ⟨whole, file, among, rest, named⟩
  · rintro ⟨whole, file, among, rest, named⟩
    exact ⟨file, among, whole, rest, named⟩

theorem onTheWay_iff : OnTheWay files folder ↔
    ∃ child, HoldsFile files folder child ∨ HoldsFolder files folder child := by
  constructor
  · rintro ⟨file, among, rest, named⟩
    obtain ⟨steps, some, rfl, whole⟩ := exists_pathSteps rest
    rcases steps with _ | ⟨child, _ | ⟨next, later⟩⟩
    · contradiction
    · exact ⟨child, .inl ⟨whole child (.head _), file, among, by simpa using named⟩⟩
    · refine ⟨child, .inr ⟨whole child (.head _), file, among,
        String.intercalate "/" (next :: later), ?_⟩⟩
      rw [named, String.intercalate_cons_cons]
      simp only [String.append_assoc]
  · rintro ⟨child, ⟨_, file, among, named⟩ | ⟨_, file, among, rest, named⟩⟩
    · exact ⟨file, among, child, named⟩
    · refine ⟨file, among, child ++ "/" ++ rest, ?_⟩
      rw [named]
      simp only [String.append_assoc]

theorem mem_foldersOf_iff_onTheWay :
    folder ∈ foldersOf files ↔ folder ≠ "" ∧ OnTheWay files folder := by
  rw [mem_foldersOf_iff_entered]
  refine and_congr_right fun some => ?_
  have entered : (∃ file ∈ files, ∃ entry ∈ entriesOf file.name, entry.folder = folder) ↔
      ∃ child isFolder, child ∈ ((Folders.ofFiles files).held folder).children isFolder := by
    simp only [(Folders.holds_ofFiles files).children, List.mem_flatMap]
    constructor
    · rintro ⟨file, among, entry, listed, rfl⟩
      exact ⟨entry.child, entry.isFolder, file, among, listed⟩
    · rintro ⟨child, isFolder, file, among, listed⟩
      exact ⟨file, among, _, listed, rfl⟩
  rw [entered, onTheWay_iff]
  refine exists_congr fun child => ?_
  rw [Bool.exists_bool, Folder.children, Folder.children, mem_held_files_iff some,
    mem_held_folders_iff some]

/-- The modules that are declared, read off from the tokens. -/
def modulesIn : List Token → List Ident
  | .mark "pub" :: .mark "mod" :: .mark name :: .mark ";" :: rest => ⟨name⟩ :: modulesIn rest
  | _ :: rest => modulesIn rest
  | [] => []

def exportsIn : List Token → List Ident
  | .mark "pub" :: .mark "use" :: .mark name :: .mark "::" :: .mark "*" :: .mark ";" :: rest =>
    ⟨name⟩ :: exportsIn rest
  | _ :: rest => exportsIn rest
  | [] => []

section Reading

variable {token next : Token} {rest : List Token}

theorem modulesIn_head (title : String) : modulesIn (fileHead title ++ rest) = modulesIn rest := rfl

theorem exportsIn_head (title : String) : exportsIn (fileHead title ++ rest) = exportsIn rest := rfl

theorem modulesIn_declare (ident : Ident) (rest : List Token) :
    modulesIn (ModuleTree.declare ident ++ rest) = [ident] ++ modulesIn rest := rfl

theorem exportsIn_exportAll (ident : Ident) (rest : List Token) :
    exportsIn (ModuleTree.exportAll ident ++ rest) = [ident] ++ exportsIn rest := rfl

theorem modulesIn_skip (apart : token ≠ .mark "pub" ∨ next ≠ .mark "mod") :
    modulesIn (token :: next :: rest) = modulesIn (next :: rest) := by
  rw [modulesIn]
  rintro _ _ first second
  exact apart.elim (· first) (· (List.cons.inj second).1)

theorem exportsIn_skip (apart : token ≠ .mark "pub" ∨ next ≠ .mark "use") :
    exportsIn (token :: next :: rest) = exportsIn (next :: rest) := by
  rw [exportsIn]
  rintro _ _ first second
  exact apart.elim (· first) (· (List.cons.inj second).1)

/-- Whatever the name of an export is, what follows it declares nothing. -/
theorem modulesIn_exportAll (ident : Ident) (rest : List Token) :
    modulesIn (ModuleTree.exportAll ident ++ rest) = [] ++ modulesIn rest :=
  calc modulesIn (ModuleTree.exportAll ident ++ rest)
    _ = modulesIn (.mark "use" :: ident.token :: .mark "::" :: .mark "*" :: .mark ";" :: rest) :=
      modulesIn_skip (.inr (by decide))
    _ = modulesIn (ident.token :: .mark "::" :: .mark "*" :: .mark ";" :: rest) :=
      modulesIn_skip (.inl (by decide))
    _ = modulesIn (.mark "::" :: .mark "*" :: .mark ";" :: rest) :=
      modulesIn_skip (.inr (by decide))
    _ = modulesIn rest := rfl

theorem exportsIn_declare (ident : Ident) (rest : List Token) :
    exportsIn (ModuleTree.declare ident ++ rest) = [] ++ exportsIn rest :=
  calc exportsIn (ModuleTree.declare ident ++ rest)
    _ = exportsIn (.mark "mod" :: ident.token :: .mark ";" :: rest) :=
      exportsIn_skip (.inr (by decide))
    _ = exportsIn (ident.token :: .mark ";" :: rest) := exportsIn_skip (.inl (by decide))
    _ = exportsIn (.mark ";" :: rest) := exportsIn_skip (.inr (by decide))
    _ = exportsIn rest := rfl

/-- A reader that goes on after each text reads the texts one after another. -/
theorem read_flatMap {read : List Token → List Ident} {write : Ident → List Token}
    {found : Ident → List Ident}
    (each : ∀ ident rest, read (write ident ++ rest) = found ident ++ read rest)
    (idents : List Ident) (rest : List Token) :
    read (idents.flatMap write ++ rest) = idents.flatMap found ++ read rest := by
  induction idents with
  | nil => rfl
  | cons ident later ih =>
    rw [List.flatMap_cons, List.append_assoc, each, ih, List.flatMap_cons, List.append_assoc]

theorem modulesIn_declarations (idents : List Ident) :
    modulesIn (idents.flatMap ModuleTree.declare ++ rest) = idents ++ modulesIn rest := by
  rw [read_flatMap modulesIn_declare, List.flatMap_singleton']

theorem modulesIn_exports (idents : List Ident) :
    modulesIn (idents.flatMap ModuleTree.exportAll) = [] := by
  rw [← List.append_nil (idents.flatMap _), read_flatMap modulesIn_exportAll]
  simp [modulesIn]

theorem exportsIn_declarations (idents : List Ident) :
    exportsIn (idents.flatMap ModuleTree.declare ++ rest) = exportsIn rest := by
  simp [read_flatMap exportsIn_declare]

theorem exportsIn_exports (idents : List Ident) :
    exportsIn (idents.flatMap ModuleTree.exportAll) = idents := by
  rw [← List.append_nil (idents.flatMap _), read_flatMap exportsIn_exportAll]
  simp [exportsIn]

theorem modulesIn_file (tree : ModuleTree) :
    modulesIn tree.file.tokens = tree.folders ++ tree.files := by
  rw [ModuleTree.file, List.append_assoc, modulesIn_head, modulesIn_declarations,
    modulesIn_exports, List.append_nil]

theorem exportsIn_file (tree : ModuleTree) : exportsIn tree.file.tokens = tree.files := by
  rw [ModuleTree.file, List.append_assoc, exportsIn_head, exportsIn_declarations,
    exportsIn_exports]

end Reading

/-- The file declares what the folder holds, each folder once and each file once, under the names
that these are escaped to, and exports the files. -/
def DeclaresHeld (files : List File) (folder : String) (module : File) : Prop :=
  ∃ folders sources : List String, folders.Nodup ∧ sources.Nodup ∧
    (∀ child, child ∈ folders ↔ HoldsFolder files folder child) ∧
    (∀ child, child ∈ sources ↔ HoldsFile files folder child) ∧
    (folders ++ sources).mapM Ident.ofName = .ok (modulesIn module.tokens) ∧
    sources.mapM Ident.ofName = .ok (exportsIn module.tokens)

def Opens (modules : List File) (outer inner : String) : Prop :=
  ∃ module ∈ modules, module.name = outer ++ "/mod.rs" ∧ ∃ child ident,
    '/' ∉ child.toList ∧ inner = outer ++ "/" ++ child ∧ Ident.ofName child = .ok ident ∧
      ident ∈ modulesIn module.tokens

section Trees

variable (made : ModuleTree.ofFiles files = .ok trees)
include made

theorem names_modules : (trees.map ModuleTree.file).map File.name =
    (foldersOf files).map (· ++ "/mod.rs") := by
  rw [← folders_ofFiles made]
  simp [ModuleTree.file]

theorem tree_of_onTheWay (some : folder ≠ "") (passed : OnTheWay files folder) :
    ∃ tree ∈ trees, tree.folder = folder := by
  have listed : folder ∈ trees.map (·.folder) := by
    rw [folders_ofFiles made]
    exact mem_foldersOf_iff_onTheWay.mpr ⟨some, passed⟩
  exact List.mem_map.mp listed

theorem declaresHeld_file {tree : ModuleTree} (listed : tree ∈ trees) :
    DeclaresHeld files tree.folder tree.file := by
  have inside : tree.folder ∈ foldersOf files :=
    folders_ofFiles made ▸ List.mem_map_of_mem listed
  have some := (mem_foldersOf_iff_onTheWay.mp inside).1
  have inOrder := (Folders.holds_ofFiles files).inOrder tree.folder
  obtain ⟨folders, eachFolder, rest⟩ := bind_eq_ok_iff.mp (ofFolder_held made listed)
  obtain ⟨sources, eachFile, same⟩ := bind_eq_ok_iff.mp rest
  have same := Except.ok.inj same
  refine ⟨((Folders.ofFiles files).held tree.folder).folders,
    ((Folders.ofFiles files).held tree.folder).files, (inOrder true).imp String.ne_of_lt,
    (inOrder false).imp String.ne_of_lt, fun _ => mem_held_folders_iff some,
    fun _ => mem_held_files_iff some, ?_, ?_⟩
  · rw [modulesIn_file, ← same, List.mapM_append, eachFolder, eachFile]
    rfl
  · rw [exportsIn_file, ← same]
    exact eachFile

theorem opens_child (some : folder ≠ "")
    (holds : HoldsFile files folder child ∨ HoldsFolder files folder child) :
    Opens (trees.map ModuleTree.file) folder (folder ++ "/" ++ child) := by
  obtain ⟨tree, listed, rfl⟩ := tree_of_onTheWay made some (onTheWay_iff.mpr ⟨child, holds⟩)
  obtain ⟨folders, sources, _, _, ofFolders, ofSources, declared, _⟩ := declaresHeld_file made listed
  have among : child ∈ folders ++ sources := by
    rw [List.mem_append, ofFolders, ofSources]
    exact holds.symm
  obtain ⟨ident, inside, spelt⟩ := (mapM_eq_ok_iff.mp declared).exists_of_mem_left among
  exact ⟨tree.file, List.mem_map_of_mem listed, rfl, child, ident, holds.elim (·.1) (·.1), rfl,
    spelt, inside⟩

/-- From folder to folder, all steps of a path are opened. -/
theorem opens_path {file : File} (among : file ∈ files) {steps : List String} (filled : steps ≠ [])
    (whole : ∀ step ∈ steps, '/' ∉ step.toList) (some : folder ≠ "")
    (named : file.name = folder ++ "/" ++ String.intercalate "/" steps ++ ".rs") :
    Relation.TransGen (Opens (trees.map ModuleTree.file)) folder
      (folder ++ "/" ++ String.intercalate "/" steps) := by
  induction steps generalizing folder with
  | nil => contradiction
  | cons step rest ih =>
    rw [List.forall_mem_cons] at whole
    cases rest with
    | nil =>
      rw [String.intercalate_singleton] at named ⊢
      exact .single (opens_child made some (.inl ⟨whole.1, file, among, named⟩))
    | cons next later =>
      have regrouped : folder ++ "/" ++ String.intercalate "/" (step :: next :: later) =
          folder ++ "/" ++ step ++ "/" ++ String.intercalate "/" (next :: later) := by
        rw [String.intercalate_cons_cons]
        simp only [String.append_assoc]
      rw [regrouped] at named ⊢
      have holds : HoldsFolder files folder step := ⟨whole.1, file, among, _, named⟩
      exact .head (opens_child made some (.inr holds))
        (ih (by simp) whole.2 (by simp) named)

end Trees

/-- Each folder on the way to a file gets one module file, which declares what the folder holds, and
so leads to every file below it. -/
theorem module_files_lead (made : ModuleTree.ofFiles files = .ok trees) :
    ((trees.map ModuleTree.file).map File.name).Nodup ∧
    (∀ name, name ∈ (trees.map ModuleTree.file).map File.name ↔
      ∃ folder, folder ≠ "" ∧ OnTheWay files folder ∧ name = folder ++ "/mod.rs") ∧
    (∀ module ∈ trees.map ModuleTree.file, ∀ folder, module.name = folder ++ "/mod.rs" →
      DeclaresHeld files folder module) ∧
    ∀ file ∈ files, ∀ folder rest, folder ≠ "" → file.name = folder ++ "/" ++ rest ++ ".rs" →
      Relation.TransGen (Opens (trees.map ModuleTree.file)) folder (folder ++ "/" ++ rest) := by
  refine ⟨?_, fun name => ?_, ?_, ?_⟩
  · rw [names_modules made]
    exact (nodup_foldersOf files).map fun _ _ same => String.append_left_inj _ |>.mp same
  · simp only [names_modules made, List.mem_map, mem_foldersOf_iff_onTheWay]
    constructor
    · rintro ⟨folder, ⟨some, passed⟩, rfl⟩
      exact ⟨folder, some, passed, rfl⟩
    · rintro ⟨folder, some, passed, rfl⟩
      exact ⟨folder, ⟨some, passed⟩, rfl⟩
  · rintro _ listed folder named
    obtain ⟨tree, among, rfl⟩ := List.mem_map.mp listed
    obtain rfl : tree.folder = folder := String.append_left_inj _ |>.mp named
    exact declaresHeld_file made among
  · intro file among folder rest some named
    obtain ⟨steps, filled, rfl, whole⟩ := exists_pathSteps rest
    exact opens_path made among filled whole some named

/-- Files at several depths. One shares its name with a folder, and one is called like a reserved
word. -/
def nested : List File := ["top/deep/er/leaf.rs", "top/deep.rs", "top/type.rs", "lone.rs"].map (⟨·, []⟩)

theorem module_files_lead_nested :
    ∃ trees, ModuleTree.ofFiles nested = .ok trees ∧
      trees = [⟨"top", [⟨"deep"⟩], [⟨"deep"⟩, ⟨"r#type"⟩]⟩, ⟨"top/deep", [⟨"er"⟩], []⟩,
        ⟨"top/deep/er", [], [⟨"leaf"⟩]⟩] ∧
      DeclaresHeld nested "top" (ModuleTree.file ⟨"top", [⟨"deep"⟩], [⟨"deep"⟩, ⟨"r#type"⟩]⟩) ∧
      Relation.TransGen (Opens (trees.map ModuleTree.file)) "top" "top/deep/er/leaf" := by
  have made : ModuleTree.ofFiles nested = .ok [⟨"top", [⟨"deep"⟩], [⟨"deep"⟩, ⟨"r#type"⟩]⟩,
      ⟨"top/deep", [⟨"er"⟩], []⟩, ⟨"top/deep/er", [], [⟨"leaf"⟩]⟩] := by
    decide +kernel
  obtain ⟨_, _, declares, leads⟩ := module_files_lead made
  exact ⟨_, made, rfl, declares _ (.head _) "top" rfl,
    leads _ (.head _) "top" "deep/er/leaf" (by decide) rfl⟩

end Typewright.Source
