import Workbench.OrderedMap
import Workbench.Uri
/-!
# Files

The files of a workspace, each under its uri. Folders are not kept: a
folder is there as long as some file lies below it. The entries of a folder
come in the order of their uris.
-/

namespace Workbench

/-- An entry of a folder. -/
structure FolderEntry where
  uri : Uri
  isFolder : Bool
deriving DecidableEq, Repr, Inhabited

/-- The last segment of an entry. -/
def FolderEntry.name (e : FolderEntry) : String := e.uri.name

/-- The texts of files, by uri. -/
structure FileTree where
  files : OrderedMap Uri String
deriving DecidableEq, Repr, Inhabited

namespace FileTree

/-- No files. -/
def empty : FileTree := ⟨.empty⟩

/-- Creates or replaces a file. -/
def insert (t : FileTree) (uri : Uri) (text : String) : FileTree := ⟨t.files.insert uri text⟩

/-- Removes a file. -/
def remove (t : FileTree) (uri : Uri) : FileTree := ⟨t.files.erase uri⟩

/-- The text of a file. -/
def read? (t : FileTree) (uri : Uri) : Option String := t.files.get? uri

/-- The message of a file that is not there. -/
def missingFile (uri : Uri) : String := uri.render ++ " does not exist"

/-- The message of a folder that is not there. -/
def missingFolder (uri : Uri) : String := uri.render ++ " is not a directory"

/-- What a file shows of itself in a folder: the file if it lies directly in
it, or the folder between them. -/
def entryOf? (folder file : Uri) : Option FolderEntry :=
  if file.scheme = folder.scheme ∧ file.host = folder.host then
    (folder.opening.isPrefixOf? file.path.toList).map fun rest =>
      if rest.contains '/' then
        ⟨folder.withPath (folder.opening ++ rest.takeWhile (· != '/')), true⟩
      else ⟨file, false⟩
  else none

/-- The items of a list, each where it comes first. -/
def distinct {α : Type} [BEq α] : List α → List α
  | [] => []
  | a :: rest => a :: (distinct rest).filter (!· == a)

/-- **The entries of a folder**, or none if nothing lies below it. -/
def list (t : FileTree) (folder : Uri) : List FolderEntry :=
  let found := (t.files.keys.mergeSort Uri.le).filterMap (entryOf? folder)
  (distinct found).mergeSort fun a b => Uri.le a.uri b.uri

/-! ## Loading a folder -/

/-- Which files of a folder are loaded. -/
structure Selection where
  /-- The endings of the names of files. -/
  extensions : List String
  /-- The names of folders that are passed over. -/
  exclude : List String
deriving DecidableEq, Repr, Inhabited

/-- Whether a name ends with one of the extensions. -/
def Selection.accepts (s : Selection) (name : String) : Bool :=
  s.extensions.any fun extension => extension.toList.isSuffixOf name.toList

/-- Whether a folder is entered: hidden and excluded ones are not. -/
def Selection.enters (s : Selection) (name : String) : Bool :=
  name.toList.head? != some '.' && !s.exclude.contains name

/-- The accepted files below a folder, at most `depth` folders deep; none if
the folders go deeper. -/
def collectTo (t : FileTree) (s : Selection) : Nat → Uri → Option (List Uri)
  | 0, _ => none
  | depth + 1, folder =>
    (t.list folder).foldlM (fun found entry =>
      if entry.isFolder then
        if s.enters entry.name then (collectTo t s depth entry.uri).map (found ++ ·) else some found
      else some (if s.accepts entry.name then found ++ [entry.uri] else found)) []

/-- The most slashes the path of any file has. -/
def depth (t : FileTree) : Nat :=
  (t.files.keys.map fun uri => uri.path.toList.count '/').foldl max 0

/-- **The accepted files below a folder.** A folder whose name is empty
contains itself, and no walk through it ends. -/
def collect? (t : FileTree) (s : Selection) (folder : Uri) : Option (List Uri) :=
  t.collectTo s (t.depth + 2) folder

end FileTree

/-! ## Where files are kept -/

/-- Where the files of a workspace are kept. -/
inductive Storage where
  | memory
  | disk
deriving DecidableEq, Repr, Inhabited

/-- Why a file or a folder could not be read. -/
inductive FileFault where
  | missing (message : String)
  /-- The uri names no place on a disk. -/
  | elsewhere (message : String)
  /-- A name holds a character that no name may hold. -/
  | badName
  /-- A name is longer than a disk allows. -/
  | longName
deriving DecidableEq, Repr, Inhabited

/-- The text of a fault. -/
def FileFault.message : FileFault → String
  | missing message => message
  | elsewhere message => message
  | badName => "file name contained an unexpected NUL byte"
  | longName => "File name too long (os error 36)"

/-- The kind of a fault, for tools. -/
def FileFault.kind : FileFault → String
  | missing _ => "NotFound"
  | elsewhere _ => "InvalidInput"
  | badName => "InvalidInput"
  | longName => "InvalidFilename"

/-- The bytes of a path on a disk that a uri stands for. -/
def Uri.diskPath? (u : Uri) : Option (List UInt8) :=
  if (u.host = "" ∨ u.host = "localhost") ∧ u.isRooted then some (unescape u.path.toList) else none

/-- The names of a path on a disk that lead below its root. -/
def diskNames (path : List UInt8) : List (List UInt8) :=
  (path.splitOnP (· == 0x2F)).filter fun name => !([[], [0x2E], [0x2E, 0x2E]].contains name)

/-- What keeps an empty disk from having a path: the first name is too long,
or nothing has it. -/
def emptyDiskFault (path : List UInt8) : FileFault :=
  if path.contains 0 then .badName
  else if path.length ≥ 4096 || (diskNames path).head?.any (·.length > 255) then .longName
  else .missing "No such file or directory (os error 2)"

/-- Files and where they are kept. -/
structure FileSystem where
  storage : Storage
  tree : FileTree
deriving DecidableEq, Repr, Inhabited

namespace FileSystem

/-- The fault of something that is not there. -/
def fault (s : FileSystem) (uri : Uri) (inMemory : Uri → String) : FileFault :=
  match s.storage with
  | .memory => .missing (inMemory uri)
  | .disk =>
    match uri.diskPath? with
    | some path => emptyDiskFault path
    | none => .elsewhere (uri.render ++ " is not a file uri")

/-- The text of a file. -/
def read (s : FileSystem) (uri : Uri) : Except FileFault String :=
  match s.tree.read? uri with
  | some text => .ok text
  | none => .error (s.fault uri FileTree.missingFile)

/-- The entries of a folder; there are always some. -/
def list (s : FileSystem) (uri : Uri) : Except FileFault (List FolderEntry) :=
  match s.tree.list uri with
  | [] => .error (s.fault uri FileTree.missingFolder)
  | entries => .ok entries

end FileSystem

end Workbench
