import WidgetDoc.Disk
import WidgetDoc.Probe
import WidgetDoc.Text.Utf8

/-!
# Probing a disk

A local probe answers probe calls from below a root directory. Paths that could lead out of the root
are refused before the disk is asked; what is reported stays relative to the root.
-/

namespace WidgetDoc

structure LocalProbe where
  root : String
  maxDepth : Nat

namespace LocalProbe

/-- Whether a path is absolute or climbs. -/
def escapes (path : String) : Bool :=
  (DiskPath.components path).any fun c => c == .top || c == .parent

/-- The path on the disk of a path below the root. -/
def resolve (p : LocalProbe) (path : String) : Except ProbeError String :=
  if escapes path then .error (.invalidInput ("path '" ++ path ++ "' escapes the probe root"))
  else .ok (DiskPath.join p.root path)

/-- A disk error about a path as a probe error. -/
def failure (path : String) : DiskError → ProbeError
  | .notFound => .notFound path
  | e => .failed (path ++ ": " ++ e.message)

/-- How a path is reported: without slashes at its end, and as a dot if nothing is left. -/
def shown (path : String) : String :=
  let trimmed := (path.toList.reverse.dropWhile (· == '/')).reverse
  if trimmed = [] then "." else String.ofList trimmed

/-- How an entry of a directory is reported. -/
def shownEntry (directory name : String) : String :=
  if directory = "." then name else directory ++ "/" ++ name

/-- The name in a reported path: its last component, or all of it if that is no name. -/
def shownName (path : String) : String :=
  match (DiskPath.components path).getLast? with
  | some (.name s) => s
  | _ => path

/-- The results of a dialogue for every item, up to the first that fails. -/
def collect {α β ε : Type} (visit : α → DiskDialogue (Except ε β)) :
    List α → DiskDialogue (Except ε (List β))
  | [] => .done (.ok [])
  | x :: xs =>
    (visit x).bind fun r =>
      match r with
      | .error e => .done (.error e)
      | .ok y => (collect visit xs).map fun rest => rest.map (y :: ·)

/-- The nodes in a directory to a depth, in the order of their names. -/
def walk (path reported : String) : Nat → DiskDialogue (Except ProbeError (List TreeNode))
  | 0 => .done (.ok [])
  | depth + 1 =>
    (Disk.list path).bind fun listing =>
      match listing with
      | .error e => .done (.error (failure reported e))
      | .ok names =>
        collect (fun name =>
          let path := DiskPath.join path name
          let reported := shownEntry reported name
          (Disk.kind path).bind fun kind =>
            match kind with
            | .error e => .done (.error (failure reported e))
            | .ok .file => .done (.ok (.file name reported))
            | .ok .directory =>
              (walk path reported depth).map fun children => children.map (.dir name reported ·))
          (names.mergeSort fun a b => decide (a ≤ b))

def fetchTree (p : LocalProbe) (root : String) (depth : Nat) :
    DiskDialogue (Except ProbeError TreeNode) :=
  match p.resolve root with
  | .error e => .done (.error e)
  | .ok path =>
    let reported := shown root
    let name := shownName reported
    (Disk.kind path).bind fun kind =>
      match kind with
      | .error e => .done (.error (failure reported e))
      | .ok .file => .done (.ok (.file name reported))
      | .ok .directory =>
        (walk path reported (min depth p.maxDepth)).map fun children =>
          children.map (.dir name reported ·)

def fetchFile (p : LocalProbe) (path : String) : DiskDialogue (Except ProbeError FileContent) :=
  match p.resolve path with
  | .error e => .done (.error e)
  | .ok full =>
    (Disk.read full).map fun content =>
      match content with
      | .error e => .error (failure path e)
      | .ok bytes => .ok ⟨shown path, Text.Utf8.decodeLossy bytes⟩

/-- The answer to a probe call. -/
def answer (p : LocalProbe) : (c : ProbeCall) → DiskDialogue c.Answer
  | .tree root depth => p.fetchTree root depth
  | .file path => p.fetchFile path

end LocalProbe

end WidgetDoc
