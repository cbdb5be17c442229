import WidgetDoc.Command.Arguments
import WidgetDoc.Command.Run

/-!
# The command line

Runs an invocation against the disk of the machine and prints what it yields.
-/

namespace WidgetDoc.Main

def diskError : IO.Error → DiskError
  | .noFileOrDirectory .. => .notFound
  | .inappropriateType .. => .notDirectory
  | e => .other (toString e)

def attempt {α : Type} (action : IO α) : IO (Except DiskError α) := do
  match ← action.toBaseIO with
  | .ok a => return .ok a
  | .error e => return .error (diskError e)

def kindOf (path : String) : IO EntryKind := do
  let metadata ← (System.mkFilePath [path]).metadata
  return match metadata.type with
    | .dir => .directory
    | _ => .file

def read (path : String) : IO (Except DiskError (List UInt8)) := do
  match ← attempt (kindOf path) with
  | .error e => return .error e
  | .ok .directory => return .error .isDirectory
  | .ok .file => attempt (return (← IO.FS.readBinFile path).toList)

def names (path : String) : IO (List String) := do
  let entries ← (System.mkFilePath [path]).readDir
  return entries.toList.map fun e => e.fileName

/-- Answers a call from the disk of the machine. -/
def answer : (c : DiskCall) → IO c.Answer
  | .kind path => attempt (kindOf path)
  | .read path => read path
  | .list path => attempt (names path)

def usage : String :=
  "usage: a2ui [--config PATH] check DOC | eval EXPR | render DOC | query DOC --id QUERY ... | "
    ++ "dispatch DOC ACTION"

def run (invocation : Invocation) : IO UInt32 := do
  match ← Dialogue.runIn answer (ExceptT.run invocation.run) with
  | .ok output =>
    IO.println output.pretty
    return 0
  | .error e =>
    IO.eprintln ("error: " ++ e.message)
    return 1

end WidgetDoc.Main

open WidgetDoc

def main (args : List String) : IO UInt32 := do
  match Invocation.ofArguments args with
  | .ok invocation => Main.run invocation
  | .error .help =>
    IO.println Main.usage
    return 0
  | .error .version =>
    IO.println "a2ui 0.1.0"
    return 0
  | .error .usage =>
    IO.eprintln Main.usage
    return 2
