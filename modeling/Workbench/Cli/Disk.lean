import Workbench.FileTree
/-!
# Disks

The files and folders of a disk as a command finds them. A path is followed
name by name, so `..` leads out of a folder that has to be there.
-/

namespace Workbench

namespace Cli

/-- What keeps a path from being read. -/
inductive DiskFault where
  | missing
  /-- Something on the way is a file. -/
  | notFolder
  /-- The end of the path is a folder. -/
  | isFolder
  /-- A name, or the whole path, is longer than a disk allows. -/
  | tooLong
  /-- The path holds a character that no name may hold. -/
  | badName
deriving DecidableEq, Repr, Inhabited

/-- The text of a fault. -/
def DiskFault.message : DiskFault → String
  | missing => "No such file or directory (os error 2)"
  | notFolder => "Not a directory (os error 20)"
  | isFolder => "Is a directory (os error 21)"
  | tooLong => "File name too long (os error 36)"
  | badName => "file name contained an unexpected NUL byte"

/-- **The contents of a disk.** Files and folders are known by the names on
the way from the root. -/
structure Disk where
  files : List (List String × String)
  /-- Folders that are there even if no file is in them. -/
  folders : List (List String)
  /-- The folder that relative paths start in. -/
  here : List String
deriving DecidableEq, Repr, Inhabited

namespace Disk

/-- The text of a file. -/
def file? (d : Disk) (names : List String) : Option String := d.files.lookup names

/-- Whether there is a folder. -/
def isFolder (d : Disk) (names : List String) : Bool :=
  names.isEmpty || d.folders.any names.isPrefixOf ||
    d.files.any fun (file, _) => names.isPrefixOf file && names != file

/-- The longest name, in bytes. -/
def longestName : Nat := 255

/-- The longest path, in bytes. -/
def longestPath : Nat := 4095

/-- Follows one name. -/
def follow (d : Disk) (current : List String) (name : String) : Except DiskFault (List String) :=
  if !d.isFolder current then .error .notFolder
  else if name = "" ∨ name = "." then .ok current
  else if name = ".." then .ok current.dropLast
  else if name.utf8ByteSize > longestName then .error .tooLong
  else
    let next := current ++ [name]
    if d.isFolder next || (d.file? next).isSome then .ok next else .error .missing

/-- **Follows a path** to a file or a folder. -/
def resolve (d : Disk) (path : String) : Except DiskFault (List String) :=
  let names := (Text.splitAt '/' path.toList).map String.ofList
  if path.toList.any (·.toNat = 0) then .error .badName
  else if path.utf8ByteSize > longestPath then .error .tooLong
  else
    match path.toList with
    | [] => .error .missing
    | '/' :: _ => names.foldlM d.follow []
    | _ => names.foldlM d.follow d.here

/-- The text of the file at a path. -/
def read (d : Disk) (path : String) : Except DiskFault String :=
  (d.resolve path).bind fun names =>
    match d.file? names with
    | some text => .ok text
    | none => .error .isFolder

/-- The folder that a name leads to, which need not be there, and all folders
on the way. -/
def pass : List String × List (List String) → String → List String × List (List String)
  | (current, passed), name =>
    if name = "" ∨ name = "." then (current, passed)
    else if name = ".." then (current.dropLast, passed)
    else (current ++ [name], (current ++ [name]) :: passed)

/-- **Writes a file** at a path below a folder. The folders on the way come
to be, and a file that was there is replaced. -/
def write (d : Disk) (folder : List String) (path text : String) : Disk :=
  let names := (Text.splitAt '/' path.toList).map String.ofList
  let (place, passed) := names.foldl pass (folder, [])
  { d with
    files := d.files.filter (·.1 != place) ++ [(place, text)]
    folders := d.folders ++ passed.filter (· != place) }

/-- The files by their uris. -/
def tree (d : Disk) : FileTree :=
  d.files.foldl (fun tree (names, text) => tree.insert (.ofNames names) text) .empty

/-- The name of a file within a folder. -/
def nameWithin (d : Disk) (folder : List String) (uri : Uri) : String :=
  match d.files.find? fun (names, _) => Uri.ofNames names == uri with
  | some (names, _) => "/".intercalate (names.drop folder.length)
  | none => uri.render

end Disk

end Cli

end Workbench
