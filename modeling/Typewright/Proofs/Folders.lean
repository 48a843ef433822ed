import Mathlib.Data.List.Induction
import Typewright.Proofs.Results
import Typewright.Proofs.Tables
import Typewright.Source.Files

/-! The folders on the way to files. The walk up from a file enters each folder into the one above
it; the folders of all files hold what was entered into them, each child once, and nothing else. Each
folder but the root gets one module tree. -/
namespace Typewright

theorem pairwise_insertOnce {text : String} {texts : List String}
    (sorted : texts.Pairwise (· < ·)) :
    (insertOnce (fun a b => a < b) text texts).Pairwise (· < ·) := by
  induction texts with
  | nil => simp [insertOnce]
  | cons first rest ih =>
    obtain ⟨above, later⟩ := List.pairwise_cons.mp sorted
    rw [insertOnce]
    split
    next => exact sorted
    next apart =>
      split
      next before =>
        refine List.pairwise_cons.mpr ⟨?_, sorted⟩
        rw [List.forall_mem_cons]
        have before : text < first := of_decide_eq_true before
        exact ⟨before, fun other among => String.lt_trans before (above other among)⟩
      next notBefore =>
        refine List.pairwise_cons.mpr ⟨fun other among => ?_, ih later⟩
        rcases mem_insertOnce.mp among with rfl | among
        · by_contra neither
          exact apart (String.le_antisymm (String.not_lt.mp neither)
            (String.not_lt.mp (by simpa using notBefore)))
        · exact above other among

theorem intercalate_concat (sep last : String) {steps : List String} (some : steps ≠ []) :
    sep.intercalate (steps ++ [last]) = sep.intercalate steps ++ sep ++ last := by
  rw [String.intercalate_append_of_ne_nil some (by simp), String.intercalate_singleton]

namespace Source

section Walk

variable {steps : List String} {entry : Entry}

theorem foldersAbove_eq (path : String) : foldersAbove path =
    match Text.splitLast '/' path with
    | none => []
    | some (above, child) => ⟨above, child, true⟩ :: foldersAbove above := by
  rw [foldersAbove]
  split <;> simp [*]

theorem foldersAbove_whole {step : String} (whole : '/' ∉ step.toList) : foldersAbove step = [] := by
  rw [foldersAbove_eq, Text.splitLast_eq_none whole]

theorem splitLast_concat {last : String} (some : steps ≠ []) (whole : '/' ∉ last.toList) :
    Text.splitLast '/' (String.intercalate "/" (steps ++ [last])) =
      .some (String.intercalate "/" steps, last) := by
  rw [Text.splitLast_eq_some_iff, intercalate_concat _ _ some]
  exact ⟨by simp, whole⟩

/-- The walk up from a place enters each folder on the way into the one before it. -/
theorem mem_foldersAbove (whole : ∀ step ∈ steps, '/' ∉ step.toList) (some : steps ≠ []) :
    entry ∈ foldersAbove (String.intercalate "/" steps) ↔
      ∃ before step after, steps = before ++ step :: after ∧ before ≠ [] ∧
        entry = ⟨String.intercalate "/" before, step, true⟩ := by
  induction steps using List.reverseRecOn with
  | nil => contradiction
  | append_singleton above last ih =>
    have wholeLast : '/' ∉ last.toList := whole last (by simp)
    have upper (inside : above ≠ []) := ih (fun step listed =>
      whole step (List.mem_append_left _ listed)) inside
    by_cases top : above = []
    · subst top
      rw [List.nil_append, String.intercalate_singleton, foldersAbove_whole wholeLast]
      constructor
      · rintro ⟨⟩
      · rintro ⟨before, step, after, split, inside, -⟩
        cases before with
        | nil => contradiction
        | cons => simp at split
    · rw [foldersAbove_eq, splitLast_concat top wholeLast, List.mem_cons, upper top]
      simp only [concat_eq_append_cons_iff]
      constructor
      · rintro (rfl | ⟨before, step, after, rfl, inside, rfl⟩)
        · exact ⟨above, last, [], .inl ⟨rfl, rfl, rfl⟩, top, rfl⟩
        · exact ⟨before, step, after ++ [last], .inr ⟨after, rfl, rfl⟩, inside, rfl⟩
      · rintro ⟨before, step, after, ⟨rfl, rfl, rfl⟩ | ⟨rest, rfl, rfl⟩, inside, rfl⟩
        · exact .inl rfl
        · exact .inr ⟨before, step, rest, rfl, inside, rfl⟩

end Walk

namespace Folder

def children (folder : Folder) : (isFolder : Bool) → List String
  | true => folder.folders
  | false => folder.files

theorem children_hold (folder : Folder) (entry : Entry) (isFolder : Bool) :
    (folder.hold entry).children isFolder =
      if entry.isFolder = isFolder then
        insertOnce (fun a b => a < b) entry.child (folder.children isFolder)
      else folder.children isFolder := by
  cases kind : entry.isFolder <;> cases isFolder <;> simp [hold, children, kind]

end Folder

namespace Folders

variable {folders : Folders} {entries : List Entry} {entry : Entry} {files : List File}

theorem held_enter (folders : Folders) (entry : Entry) (path : String) :
    (folders.enter entry).held path =
      if path = entry.folder then (folders.held path).hold entry else folders.held path := by
  rw [held, enter, Dict.get?_insert]
  split
  next same => rw [same, Option.getD_some]
  next => rfl

/-- The folders are those with an entry, and hold their entries: each child of a kind once, in
order. -/
structure Holds (folders : Folders) (entries : List Entry) : Prop where
  ascending : Dict.Ascending folders
  keys : ∀ path, path ∈ Dict.keys folders ↔ ∃ entry ∈ entries, entry.folder = path
  inOrder : ∀ path isFolder, ((folders.held path).children isFolder).Pairwise (· < ·)
  children : ∀ path child isFolder, child ∈ (folders.held path).children isFolder ↔
    ⟨path, child, isFolder⟩ ∈ entries

theorem holds_nil : Holds [] [] where
  ascending := .nil
  keys := by simp [Dict.keys]
  inOrder path isFolder := by cases isFolder <;> exact .nil
  children path child isFolder := by cases isFolder <;> simp [held, Dict.get?, Folder.children]

theorem Holds.enter (holds : folders.Holds entries) (entry : Entry) :
    (folders.enter entry).Holds (entries ++ [entry]) where
  ascending := holds.ascending.insert _ _
  keys path := by
    rw [Folders.enter, Dict.mem_keys_insert, holds.keys]
    simp [or_and_right, exists_or, or_comm, eq_comm]
  inOrder path isFolder := by
    have before := holds.inOrder path isFolder
    rw [held_enter]
    split
    next =>
      rw [Folder.children_hold]
      split
      next => exact pairwise_insertOnce before
      next => exact before
    next => exact before
  children path child isFolder := by
    obtain ⟨folder, name, kind⟩ := entry
    have before := holds.children path child isFolder
    rw [held_enter, List.mem_append, List.mem_singleton, ← before]
    split
    next here =>
      rw [Folder.children_hold]
      split
      next same => simp [here, ← same, or_comm]
      next apart => simp [Ne.symm apart]
    next elsewhere => simp [elsewhere]

theorem Holds.run (holds : folders.Holds entries) (later : List Entry) :
    (later.foldl Folders.enter folders).Holds (entries ++ later) := by
  induction later generalizing folders entries with
  | nil => rwa [List.append_nil]
  | cons entry rest ih =>
    rw [List.foldl_cons, ← List.singleton_append, ← List.append_assoc]
    exact ih (holds.enter entry)

theorem holds_ofFiles (files : List File) :
    (ofFiles files).Holds (files.flatMap fun file => entriesOf file.name) :=
  holds_nil.run _

end Folders

section Trees

variable {files : List File} {trees : List ModuleTree} {tree : ModuleTree} {folder child : String}

theorem stem?_append (stem : String) : stem? (stem ++ ".rs") = some stem := by
  simp [stem?]

theorem entriesOf_join (whole : '/' ∉ child.toList) :
    entriesOf (folder ++ "/" ++ child ++ ".rs") = ⟨folder, child, false⟩ :: foldersAbove folder := by
  have split : Text.splitLast '/' (folder ++ "/" ++ child) = some (folder, child) :=
    Text.splitLast_eq_some_iff.mpr ⟨by simp, whole⟩
  simp [entriesOf, stem?_append, split]

theorem folder_ofFolder {path : String} {held : Folder}
    (made : ModuleTree.ofFolder path held = .ok tree) : tree.folder = path := by
  obtain ⟨folders, _, made⟩ := bind_eq_ok_iff.mp made
  obtain ⟨files, _, made⟩ := bind_eq_ok_iff.mp made
  obtain rfl := Except.ok.inj made
  rfl

def foldersOf (files : List File) : List String :=
  (Dict.keys (Folders.ofFiles files)).filter (· ≠ "")

theorem folders_ofFiles (made : ModuleTree.ofFiles files = .ok trees) :
    trees.map (·.folder) = foldersOf files := by
  have same : List.Forall₂ (· = ·) (((Folders.ofFiles files).filter (·.1 ≠ "")).map Prod.fst)
      (trees.map (·.folder)) := by
    rw [List.forall₂_map_left_iff, List.forall₂_map_right_iff]
    exact (mapM_eq_ok_iff.mp made).imp fun _ _ made => (folder_ofFolder made).symm
  rw [List.forall₂_eq_eq_eq] at same
  rw [← same, foldersOf, Dict.keys, List.filter_map]
  rfl

theorem ofFolder_held (made : ModuleTree.ofFiles files = .ok trees)
    (listed : tree ∈ trees) :
    ModuleTree.ofFolder tree.folder ((Folders.ofFiles files).held tree.folder) = .ok tree := by
  obtain ⟨⟨path, folder⟩, among, made⟩ :=
    (mapM_eq_ok_iff.mp made).exists_of_mem_right listed
  have distinct := (Folders.holds_ofFiles files).ascending.nodup_keys
  have found := Dict.get?_of_mem distinct (List.mem_of_mem_filter among)
  rwa [folder_ofFolder made, Folders.held, found, Option.getD_some]

/-- Module trees can be made where all on the way to a file is called like an identifier. -/
theorem exists_ofFiles (named : ∀ file ∈ files, ∀ entry ∈ entriesOf file.name,
    (Ident.ofName entry.child).isOk = true) : ∃ trees, ModuleTree.ofFiles files = .ok trees := by
  refine exists_mapM_ok fun ⟨path, folder⟩ listed => ?_
  have holds := Folders.holds_ofFiles files
  have found := Dict.get?_of_mem holds.ascending.nodup_keys (List.mem_of_mem_filter listed)
  have spelt (isFolder : Bool) :
      ∃ idents, (folder.children isFolder).mapM Ident.ofName = .ok idents := by
    refine exists_mapM_ok fun child inside => exists_ok_of_isOk ?_
    have entered := (holds.children path child isFolder).mp (by rwa [Folders.held, found])
    obtain ⟨file, among, entry⟩ := List.mem_flatMap.mp entered
    exact named file among _ entry
  obtain ⟨folders, ofFolders⟩ := spelt true
  obtain ⟨files, ofFiles⟩ := spelt false
  exact ⟨⟨path, folders, files⟩,
    bind_eq_ok_iff.mpr ⟨_, ofFolders, bind_eq_ok_iff.mpr ⟨_, ofFiles, rfl⟩⟩⟩

theorem nodup_foldersOf (files : List File) : (foldersOf files).Nodup :=
  (Folders.holds_ofFiles files).ascending.nodup_keys.filter _

theorem mem_foldersOf_iff_entered : folder ∈ foldersOf files ↔
    folder ≠ "" ∧ ∃ file ∈ files, ∃ entry ∈ entriesOf file.name, entry.folder = folder := by
  rw [foldersOf, List.mem_filter, (Folders.holds_ofFiles files).keys, and_comm]
  simp only [List.mem_flatMap, decide_eq_true_eq]
  refine and_congr_right fun _ => ⟨?_, ?_⟩
  · rintro ⟨entry, ⟨file, among, listed⟩, under⟩
    exact ⟨file, among, entry, listed, under⟩
  · rintro ⟨file, among, entry, listed, under⟩
    exact ⟨entry, ⟨file, among, listed⟩, under⟩

end Trees

end Source

end Typewright
