import WidgetDoc.Disk.FileTree

/-!
# File systems

A file system is one finite tree of directories and files, and a program works in one of its
directories: relative paths start there and absolute ones at the top. Above the top there is only
the top. What a path leads to can always be read, however long the path is.
-/

namespace WidgetDoc

namespace FileTree

/-- What can be the name of an entry. -/
def IsName (name : String) : Prop :=
  name ≠ "" ∧ name ≠ "." ∧ name ≠ ".." ∧ '/' ∉ name.toList

instance (name : String) : Decidable (IsName name) :=
  inferInstanceAs (Decidable (_ ∧ _))

/-- In every directory the entries have names, and distinct ones. -/
inductive WellNamed : FileTree → Prop
  | file (content : List UInt8) : WellNamed (file content)
  | dir {entries : List (String × FileTree)} : Fields.Distinct entries →
      (∀ e ∈ entries, IsName e.1) → (∀ e ∈ entries, WellNamed e.2) → WellNamed (dir entries)

/-- The entry that names lead to, from directory to directory. -/
def below? : FileTree → List String → Option FileTree
  | tree, [] => some tree
  | file _, _ :: _ => none
  | dir entries, name :: rest => (entries.lookup name).bind fun next => next.below? rest

end FileTree

/-- An entry together with the directories that contain it, the nearest first. -/
structure Place where
  above : List FileTree
  here : FileTree

namespace Place

/-- Takes one piece of a path. -/
def enter (place : Place) (piece : String) : Except DiskError Place :=
  match place.here with
  | .file _ => .error .notDirectory
  | .dir entries =>
    if piece = "" ∨ piece = "." then .ok place
    else if piece = ".." then
      match place.above with
      | [] => .ok place
      | parent :: above => .ok ⟨above, parent⟩
    else match entries.lookup piece with
      | none => .error .notFound
      | some next => .ok ⟨place.here :: place.above, next⟩

def follow (place : Place) : List String → Except DiskError Place
  | [] => .ok place
  | piece :: rest => (place.enter piece).bind fun next => next.follow rest

end Place

structure FileSystem where
  top : FileTree
  /-- The names that lead from the top to the directory in which relative paths start. -/
  workingDirectory : List String
  wellNamed : top.WellNamed

namespace FileSystem

/-- Where a path starts, as the pieces that lead there from the top. -/
def start (fs : FileSystem) (absolute : Bool) : List String :=
  if absolute then [] else fs.workingDirectory

/-- The entry that pieces lead to, from where a path starts. -/
def locate (fs : FileSystem) (absolute : Bool) (pieces : List String) :
    Except DiskError FileTree :=
  (Place.follow ⟨[], fs.top⟩ (fs.start absolute ++ pieces)).map (·.here)

/-- The entry that a path names. -/
def find (fs : FileSystem) (path : String) : Except DiskError FileTree :=
  if path = "" then .error .notFound
  else fs.locate (DiskPath.isAbsolute path) (DiskPath.pieces path)

/-- The file system as a disk. -/
def disk (fs : FileSystem) : Disk
  | .kind path => ((fs.find path).map FileTree.kind : Except DiskError EntryKind)
  | .read path => ((fs.find path).bind FileTree.content : Except DiskError (List UInt8))
  | .list path => ((fs.find path).bind FileTree.names : Except DiskError (List String))

end FileSystem

end WidgetDoc
