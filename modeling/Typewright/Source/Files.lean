import Typewright.Source.Print
import Typewright.Source.Render

/-! The files of generated source, and the module tree that declares them. -/
namespace Typewright.Source

structure File where
  name : String
  tokens : List Token
deriving DecidableEq

def filePath (name : QualifiedName) : String :=
  String.intercalate "/" (name.segments ++ [Text.snakeCase name.identifier ++ ".rs"])

namespace Support

def render (support : Support) (artifact : Artifact) : Except Fault File :=
  match support.item artifact with
  | .ok documented => .ok ⟨filePath artifact.name, documented.tokens⟩
  | .error cause => .error (.unrenderable artifact.name cause)

/-- The file that holds what generated source leans on. Its two identifiers are plain words. -/
def file (support : Support) : File where
  name := filePath ⟨support.error.namespacePath, "coercion_error"⟩
  tokens := supportTokens ⟨support.error.identifier⟩ ⟨support.malformed.identifier⟩

end Support

structure Entry where
  folder : String
  child : String
  isFolder : Bool
deriving DecidableEq

/-- The folders on the way up from a place, each in the one above it. -/
def foldersAbove (path : String) : List Entry :=
  match _ : Text.splitLast '/' path with
  | none => []
  | some (above, child) => ⟨above, child, true⟩ :: foldersAbove above
termination_by path.length
decreasing_by exact Text.length_lt_of_splitLast ‹_›

def stem? (name : String) : Option String :=
  let ending := ".rs".toList
  let cs := name.toList
  if ending.isSuffixOf cs then some (String.ofList (cs.take (cs.length - ending.length))) else none

def entriesOf (name : String) : List Entry :=
  match stem? name with
  | none => []
  | some stem =>
    let (folder, child) := (Text.splitLast '/' stem).getD ("", stem)
    ⟨folder, child, false⟩ :: foldersAbove folder

structure Folder where
  folders : List String := []
  files : List String := []

/-- A name is kept once among the folders and once among the files. -/
def Folder.hold (folder : Folder) (entry : Entry) : Folder :=
  if entry.isFolder then
    { folder with folders := insertOnce (fun a b => a < b) entry.child folder.folders }
  else { folder with files := insertOnce (fun a b => a < b) entry.child folder.files }

abbrev Folders := Dict Folder

namespace Folders

/-- What a folder holds so far, which is nothing before anything was entered into it. -/
def held (folders : Folders) (path : String) : Folder := (Dict.get? folders path).getD {}

def enter (folders : Folders) (entry : Entry) : Folders :=
  Dict.insert entry.folder ((folders.held entry.folder).hold entry) folders

def ofFiles (files : List File) : Folders :=
  (files.flatMap fun file => entriesOf file.name).foldl enter []

end Folders

/-- What the module file of a folder declares: the folders in it and the files in it. The files are
exported as well. -/
structure ModuleTree where
  folder : String
  folders : List Ident
  files : List Ident
deriving DecidableEq

namespace ModuleTree

def ofFolder (path : String) (folder : Folder) : Except RenderFault ModuleTree := do
  let folders ← folder.folders.mapM Ident.ofName
  return ⟨path, folders, ← folder.files.mapM Ident.ofName⟩

/-- One tree for each folder on the way to a file, in order; the root is no folder. -/
def ofFiles (files : List File) : Except RenderFault (List ModuleTree) :=
  ((Folders.ofFiles files).filter (·.1 ≠ "")).mapM fun entry => ofFolder entry.1 entry.2

def declare (ident : Ident) : List Token := marks "pub mod" ++ [ident.token, .mark ";"]

def exportAll (ident : Ident) : List Token := marks "pub use" ++ ident.token :: marks ":: * ;"

def file (tree : ModuleTree) : File where
  name := tree.folder ++ "/mod.rs"
  tokens := fileHead " Generated module tree" ++ (tree.folders ++ tree.files).flatMap declare ++
    tree.files.flatMap exportAll

end ModuleTree

namespace Support

def renderAll (support : Support) (artifacts : List Artifact) : Except Fault (List File) := do
  let files := support.file :: (← artifacts.mapM support.render)
  match ModuleTree.ofFiles files with
  | .ok trees => return files ++ trees.map ModuleTree.file
  | .error cause => throw (.unrenderable ⟨"", "mod"⟩ cause)

end Support

end Typewright.Source
