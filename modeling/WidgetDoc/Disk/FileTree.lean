import WidgetDoc.Disk
import WidgetDoc.Fields

/-!
# File trees

A finite tree of directories and files is a disk. Looking up a path walks it piece by piece; every
piece but a final name needs a directory to look into. What lies above the tree is not known: paths
that leave it find an empty directory, and so do absolute paths.
-/

namespace WidgetDoc

inductive FileTree where
  | file (content : List UInt8)
  | dir (entries : List (String × FileTree))

namespace FileTree

def kind : FileTree → EntryKind
  | file _ => .file
  | dir _ => .directory

def empty : FileTree := dir []

/-- The longest name of an entry, in bytes. -/
def maxName : Nat := 255

/-- The longest path, in bytes. -/
def maxPath : Nat := 4095

/-- Follows the pieces of a path; `above` are the directories that contain `here`. -/
def follow (above : List FileTree) (here : FileTree) : List String → Except DiskError FileTree
  | [] => .ok here
  | piece :: rest =>
    match here with
    | file _ => .error .notDirectory
    | dir entries =>
      if piece = "" ∨ piece = "." then follow above here rest
      else if piece = ".." then
        match above with
        | [] => follow [] empty rest
        | parent :: above => follow above parent rest
      else if maxName < piece.utf8ByteSize then .error .nameTooLong
      else match entries.lookup piece with
        | none => .error .notFound
        | some next => follow (here :: above) next rest

/-- The entry that a path names in a tree. -/
def find (tree : FileTree) (path : String) : Except DiskError FileTree :=
  if '\x00' ∈ path.toList then .error .nulByte
  else if path = "" then .error .notFound
  else if maxPath < path.utf8ByteSize then .error .nameTooLong
  else follow [] (if DiskPath.isAbsolute path then empty else tree) (DiskPath.pieces path)

/-- The bytes of an entry. -/
def content : FileTree → Except DiskError (List UInt8)
  | file bytes => .ok bytes
  | dir _ => .error .isDirectory

/-- The names in an entry. -/
def names : FileTree → Except DiskError (List String)
  | file _ => .error .notDirectory
  | dir entries => .ok (Fields.keys entries)

/-- The tree as a disk. -/
def disk (tree : FileTree) : Disk
  | .kind path => ((tree.find path).map kind : Except DiskError EntryKind)
  | .read path => ((tree.find path).bind content : Except DiskError (List UInt8))
  | .list path => ((tree.find path).bind names : Except DiskError (List String))

/-- Puts an entry below directories, which are made where they are missing. -/
def insert (entry : FileTree) : List String → FileTree → FileTree
  | [], _ => entry
  | name :: rest, tree =>
    let entries := match tree with
      | dir entries => entries
      | file _ => []
    dir (Fields.set name (insert entry rest ((entries.lookup name).getD empty)) entries)

def addFile (tree : FileTree) (path : String) (content : List UInt8) : FileTree :=
  insert (file content) (DiskPath.steps path) tree

/-- Adds a directory unless it is already there. -/
def addDir (tree : FileTree) (path : String) : FileTree :=
  match tree.find path with
  | .ok _ => tree
  | .error _ => insert empty (DiskPath.steps path) tree

end FileTree

end WidgetDoc
