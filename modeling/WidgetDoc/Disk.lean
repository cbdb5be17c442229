import WidgetDoc.Dialogue
import WidgetDoc.Text.Pieces

/-!
# Disks

What a program asks of a disk: what kind of entry a path names, the bytes of a file and the names in
a directory. Paths are texts with slashes, as programs receive them.
-/

namespace WidgetDoc

inductive DiskError where
  | notFound
  | notDirectory
  | isDirectory
  | nameTooLong
  | nulByte
  | other (text : String)
  deriving DecidableEq

/-- The wording of the system. -/
def DiskError.message : DiskError → String
  | notFound => "No such file or directory (os error 2)"
  | notDirectory => "Not a directory (os error 20)"
  | isDirectory => "Is a directory (os error 21)"
  | nameTooLong => "File name too long (os error 36)"
  | nulByte => "file name contained an unexpected NUL byte"
  | other text => text

inductive EntryKind where
  | file
  | directory
  deriving DecidableEq

inductive DiskCall where
  | kind (path : String)
  | read (path : String)
  | list (path : String)
  deriving DecidableEq

def DiskCall.Answer : DiskCall → Type
  | kind _ => Except DiskError EntryKind
  | read _ => Except DiskError (List UInt8)
  | list _ => Except DiskError (List String)

abbrev DiskDialogue := Dialogue DiskCall DiskCall.Answer

/-- A disk that does not change. -/
abbrev Disk := (c : DiskCall) → c.Answer

namespace Disk

def kind (path : String) : DiskDialogue (Except DiskError EntryKind) :=
  .question (DiskCall.kind path)

def read (path : String) : DiskDialogue (Except DiskError (List UInt8)) :=
  .question (DiskCall.read path)

def list (path : String) : DiskDialogue (Except DiskError (List String)) :=
  .question (DiskCall.list path)

end Disk

namespace DiskPath

def isAbsolute (path : String) : Bool :=
  path.toList.head? == some '/'

/-- The text between slashes, empty pieces included. -/
def pieces (path : String) : List String :=
  (Text.pieces '/' path.toList).map String.ofList

/-- The pieces that lead somewhere: neither empty nor a dot. -/
def steps (path : String) : List String :=
  (pieces path).filter fun p => p ≠ "" ∧ p ≠ "."

/-- A part of a path as the system reads it. -/
inductive Component where
  | top
  | here
  | parent
  | name (s : String)
  deriving DecidableEq

def Component.ofStep (step : String) : Component :=
  if step = ".." then .parent else .name step

/-- What comes before the steps: the top if the path is absolute, or a dot that it starts with. -/
def start (path : String) : List Component :=
  if isAbsolute path then [.top]
  else if (pieces path).head? = some "." then [.here] else []

/-- The components of a path; a dot is one at the start only. -/
def components (path : String) : List Component :=
  start path ++ (steps path).map .ofStep

/-- A relative path below a base; exactly one slash parts them unless the base is empty. -/
def join (base path : String) : String :=
  if base = "" ∨ base.toList.getLast? = some '/' then base ++ path else base ++ "/" ++ path

end DiskPath

end WidgetDoc
