import Typewright.Name.Ledger
import Typewright.Proofs.Folders
import Typewright.Proofs.Words

/-! The steps of paths. The file of an item lies in the folder of its role, which lies in the folders
of the base namespace; no step has a slash, so the name of a file tells its steps, and two items
share a file when they share a folder and their spelling in snake case. -/
namespace Typewright

def Settings.baseSteps (settings : Settings) : List String :=
  (Text.splitAt '.' settings.baseNamespace).filter (· ≠ "")

def Settings.folderOf (settings : Settings) (role : Role) : String :=
  String.intercalate "/" (settings.baseSteps ++ [role.segment])

/-- The parts of the base namespace, each for one role or more. -/
def Role.segments : List String := ["scalars", "enums", "inputs", "objects", "interfaces", "unions",
  "resolvers", "runtime", "pagination"]

theorem Role.segment_mem (role : Role) : role.segment ∈ segments := by
  cases role with
  | typeName kind => cases kind <;> decide
  | _ => decide

theorem Role.segment_plain (role : Role) : '.' ∉ role.segment.toList ∧ role.segment ≠ "" := by
  have each : ∀ segment ∈ segments, '.' ∉ segment.toList ∧ segment ≠ "" := by decide
  exact each _ role.segment_mem

section Paths

variable {settings : Settings} {key other : Key} {role : Role}

theorem namespacePath_eq_iff :
    (settings.compose key).namespacePath = (settings.compose other).namespacePath ↔
      key.role.segment = other.role.segment := by
  simp only [Settings.compose]
  split
  · rfl
  · simp [toString]

theorem segments_compose (text : String) :
    (⟨(settings.compose key).namespacePath, text⟩ : QualifiedName).segments =
      settings.baseSteps ++ [key.role.segment] := by
  obtain ⟨plain, filled⟩ := key.role.segment_plain
  simp only [QualifiedName.segments, Settings.baseSteps, Settings.compose]
  split
  next none =>
    have base : Text.splitAt '.' settings.baseNamespace = [""] := by
      rw [none]
      rfl
    rw [Text.splitAt_of_whole plain, base]
    simp [filled]
  next some =>
    have joined : (s!"{settings.baseNamespace}.{key.role.segment}").toList =
        settings.baseNamespace.toList ++ '.' :: key.role.segment.toList := by
      simp [toString]
    rw [Text.splitAt_append joined plain, List.filter_append]
    simp [filled]

theorem filePath_compose (text : String) :
    Source.filePath ⟨(settings.compose key).namespacePath, text⟩ =
      settings.folderOf key.role ++ "/" ++ Text.snakeCase text ++ ".rs" := by
  rw [Source.filePath, segments_compose, intercalate_concat _ _ (by simp), Settings.folderOf]
  simp [String.append_assoc]

theorem folderOf_ne_empty (settings : Settings) (role : Role) : settings.folderOf role ≠ "" := by
  have filled := role.segment_plain.2
  rw [Settings.folderOf]
  by_cases none : settings.baseSteps = []
  · simpa [none] using filled
  · rw [intercalate_concat _ _ none]
    simp

theorem segment_eq_of_folderOf {role other : Role}
    (same : settings.folderOf role = settings.folderOf other) : role.segment = other.segment := by
  rw [Settings.folderOf, Settings.folderOf] at same
  by_cases none : settings.baseSteps = []
  · simpa [none] using same
  · simpa [intercalate_concat _ _ none] using same

theorem splitAt_path (folder text : String) :
    Text.splitAt '/' (folder ++ "/" ++ Text.snakeCase text) =
      Text.splitAt '/' folder ++ [Text.snakeCase text] :=
  Text.splitAt_append (by simp) (Text.slash_not_mem_snakeCase text)

theorem path_inj {folder another text twin : String}
    (same : folder ++ "/" ++ Text.snakeCase text = another ++ "/" ++ Text.snakeCase twin) :
    folder = another ∧ Text.snakeCase text = Text.snakeCase twin := by
  have split := congrArg (Text.splitAt '/') same
  rw [splitAt_path, splitAt_path] at split
  obtain ⟨steps, last⟩ := List.append_inj' split (by simp)
  have folders := congrArg (String.intercalate (String.singleton '/')) steps
  rw [Text.intercalate_splitAt, Text.intercalate_splitAt] at folders
  exact ⟨folders, List.singleton_inj.mp last⟩

/-- Two items share a file when they share their part of the namespace and their spelling in snake
case. -/
theorem filePath_eq_iff {text twin : String} :
    Source.filePath ⟨(settings.compose key).namespacePath, text⟩ =
        Source.filePath ⟨(settings.compose other).namespacePath, twin⟩ ↔
      key.role.segment = other.role.segment ∧ Text.snakeCase text = Text.snakeCase twin := by
  rw [filePath_compose, filePath_compose, String.append_left_inj]
  constructor
  · intro same
    obtain ⟨folders, spelt⟩ := path_inj same
    exact ⟨segment_eq_of_folderOf folders, spelt⟩
  · rintro ⟨segments, spelt⟩
    rw [spelt, Settings.folderOf, segments, Settings.folderOf]

end Paths

namespace Source

def pathOf (steps : List String) : String := String.intercalate "/" steps ++ ".rs"

theorem pathOf_inj {steps others : List String} (some : steps ≠ []) (someToo : others ≠ [])
    (whole : ∀ step ∈ steps, '/' ∉ step.toList) (wholeToo : ∀ step ∈ others, '/' ∉ step.toList)
    (same : pathOf steps = pathOf others) : steps = others := by
  rw [pathOf, pathOf, String.append_left_inj] at same
  have split := congrArg (Text.splitAt '/') same
  rwa [show "/" = String.singleton '/' from rfl, Text.splitAt_intercalate some,
    Text.splitAt_intercalate someToo, Text.flatMap_splitAt_of_whole whole,
    Text.flatMap_splitAt_of_whole wholeToo] at split

theorem pathOf_concat {before : List String} (some : before ≠ []) (step : String) :
    pathOf (before ++ [step]) = String.intercalate "/" before ++ "/" ++ step ++ ".rs" := by
  rw [pathOf, intercalate_concat _ _ some]

theorem pathOf_mod {before : List String} (some : before ≠ []) :
    pathOf (before ++ ["mod"]) = String.intercalate "/" before ++ "/mod.rs" := by
  rw [pathOf_concat some, String.append_assoc, String.append_assoc]
  rfl

theorem mem_entriesOf_iff {steps : List String} {last : String} (some : steps ≠ [])
    (whole : ∀ step ∈ steps, '/' ∉ step.toList) (plain : '/' ∉ last.toList) {entry : Entry} :
    entry ∈ entriesOf (pathOf (steps ++ [last])) ↔
      ∃ before step after, steps ++ [last] = before ++ step :: after ∧ before ≠ [] ∧
        entry = ⟨String.intercalate "/" before, step, !after.isEmpty⟩ := by
  rw [entriesOf, pathOf, stem?_append]
  simp only [splitLast_concat some plain, Option.getD_some, List.mem_cons,
    mem_foldersAbove whole some, concat_eq_append_cons_iff]
  constructor
  · rintro (rfl | ⟨before, step, after, rfl, inside, rfl⟩)
    · exact ⟨steps, last, [], .inl ⟨rfl, rfl, rfl⟩, some, rfl⟩
    · exact ⟨before, step, after ++ [last], .inr ⟨after, rfl, rfl⟩, inside, by simp⟩
  · rintro ⟨before, step, after, ⟨rfl, rfl, rfl⟩ | ⟨rest, rfl, rfl⟩, inside, rfl⟩
    · exact .inl rfl
    · exact .inr ⟨before, step, rest, rfl, inside, by simp⟩

end Source

namespace Settings

def baseFolders (settings : Settings) : List String :=
  settings.baseSteps.flatMap (Text.splitAt '/')

theorem slash_not_mem_baseFolders (settings : Settings) :
    ∀ step ∈ settings.baseFolders, '/' ∉ step.toList := by
  intro step listed
  obtain ⟨_, _, inside⟩ := List.mem_flatMap.mp listed
  exact Text.not_mem_of_mem_splitAt inside

end Settings

theorem Role.segment_whole (role : Role) : '/' ∉ role.segment.toList := by
  have each : ∀ segment ∈ segments, '/' ∉ segment.toList := by decide
  exact each _ role.segment_mem

theorem Settings.folderOf_eq (settings : Settings) (role : Role) :
    settings.folderOf role = String.intercalate "/" (settings.baseFolders ++ [role.segment]) := by
  have split : Text.splitAt '/' (settings.folderOf role) =
      settings.baseFolders ++ [role.segment] := by
    refine (Text.splitAt_intercalate (by simp)).trans ?_
    rw [List.flatMap_append, List.flatMap_singleton, Text.splitAt_of_whole role.segment_whole]
    rfl
  rw [← split]
  exact (Text.intercalate_splitAt '/' _).symm

namespace Settings

open Source

variable {settings : Settings} {role : Role} {text step : String} {before after : List String}

def fileSteps (settings : Settings) (role : Role) (text : String) : List String :=
  settings.baseFolders ++ [role.segment] ++ [Text.snakeCase text]

theorem pathOf_fileSteps (settings : Settings) (role : Role) (text : String) :
    pathOf (settings.fileSteps role text) =
      settings.folderOf role ++ "/" ++ Text.snakeCase text ++ ".rs" := by
  rw [fileSteps, pathOf_concat (by simp), folderOf_eq]

theorem slash_not_mem_fileSteps (settings : Settings) (role : Role) (text : String) :
    ∀ step ∈ settings.fileSteps role text, '/' ∉ step.toList := by
  simp only [fileSteps, List.mem_append, List.mem_singleton]
  rintro step ((ofBase | rfl) | rfl)
  · exact settings.slash_not_mem_baseFolders step ofBase
  · exact role.segment_whole
  · exact Text.slash_not_mem_snakeCase text

/-- A step on the way to a file is a folder of the base, the folder of the role, or the file. -/
theorem fileSteps_cases (split : settings.fileSteps role text = before ++ step :: after) :
    (∃ rest, settings.baseFolders = before ++ step :: rest) ∨
      (before = settings.baseFolders ∧ step = role.segment) ∨
      (before = settings.baseFolders ++ [role.segment] ∧ step = Text.snakeCase text) := by
  rw [fileSteps, List.append_assoc, List.singleton_append] at split
  rcases List.append_eq_append_iff.mp split with ⟨more, rfl, same⟩ | ⟨more, same, later⟩
  · rcases more with _ | ⟨_, _ | ⟨_, more⟩⟩
    · obtain ⟨rfl, _⟩ := List.cons.inj same
      exact .inr (.inl ⟨by simp, rfl⟩)
    · simp only [List.cons_append, List.nil_append, List.cons.injEq] at same
      obtain ⟨rfl, rfl, _⟩ := same
      exact .inr (.inr ⟨rfl, rfl⟩)
    · simp at same
  · rcases more with _ | ⟨_, more⟩
    · obtain ⟨rfl, _⟩ := List.cons.inj later
      exact .inr (.inl ⟨by simpa using same.symm, rfl⟩)
    · obtain ⟨rfl, _⟩ := List.cons.inj later
      exact .inl ⟨more, same⟩

theorem snakeCase_eq_of_pathOf {other : Role} {twin : String}
    (same : pathOf (settings.fileSteps role text) = pathOf (settings.fileSteps other twin)) :
    Text.snakeCase text = Text.snakeCase twin := by
  have steps := pathOf_inj (by simp [fileSteps]) (by simp [fileSteps])
    (settings.slash_not_mem_fileSteps role text) (settings.slash_not_mem_fileSteps other twin) same
  rw [fileSteps, fileSteps] at steps
  exact List.singleton_inj.mp (List.append_inj' steps (by simp)).2

theorem mem_entriesOf_fileSteps {entry : Entry} :
    entry ∈ entriesOf (pathOf (settings.fileSteps role text)) ↔
      ∃ before step after, settings.fileSteps role text = before ++ step :: after ∧ before ≠ [] ∧
        entry = ⟨String.intercalate "/" before, step, !after.isEmpty⟩ := by
  refine mem_entriesOf_iff (by simp) (fun step listed => ?_) (Text.slash_not_mem_snakeCase text)
  exact settings.slash_not_mem_fileSteps role text step (List.mem_append_left _ listed)

end Settings

end Typewright
