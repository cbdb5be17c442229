import WidgetDoc.Dialogue
import WidgetDoc.Json

/-!
# Hosts

What actions ask of the host that shows a widget. Updates and runs may be refused; a message to the
log is never refused.
-/

namespace WidgetDoc

structure HostError where
  capability : String
  reason : String
  deriving DecidableEq

def HostError.message (e : HostError) : String :=
  "host capability '" ++ e.capability ++ "' failed: " ++ e.reason

/-- What a host reports about a node that ran. -/
structure RunOutcome where
  ok : Bool
  error : Option String
  deriving DecidableEq

namespace RunOutcome

def success : RunOutcome := ⟨true, none⟩

def toJson (o : RunOutcome) : Json :=
  .object (("ok", .bool o.ok) :: match o.error with
    | some e => [("error", .string e)]
    | none => [])

/-- An optional text; null counts as absent. -/
def error? : Option Json → Option (Option String)
  | none => some none
  | some .null => some none
  | some (.string s) => some (some s)
  | some _ => none

/-- An outcome is an object, or an array of its two parts, of which the second may be missing. -/
def ofJson? : Json → Option RunOutcome
  | .object fields =>
    match fields.lookup "ok" with
    | some (.bool ok) => (error? (fields.lookup "error")).map fun e => ⟨ok, e⟩
    | _ => none
  | .array [.bool ok] => some ⟨ok, none⟩
  | .array [.bool ok, e] => (error? (some e)).map fun e => ⟨ok, e⟩
  | _ => none

end RunOutcome

inductive HostCall where
  | updateParam (node key : String) (value : Json)
  | updateInput (node key : String) (value : Json)
  | runNode (node : String)
  | log (message : String)

namespace HostCall

def Answer : HostCall → Type
  | updateParam .. => Except HostError Unit
  | updateInput .. => Except HostError Unit
  | runNode _ => Except HostError RunOutcome
  | log _ => Unit

def failure? {α : Type} : Except HostError α → Option HostError
  | .error e => some e
  | .ok _ => none

/-- The error with which a host refused a call, if it did. -/
def refusal? : (c : HostCall) → c.Answer → Option HostError
  | updateParam .. => failure? (α := Unit)
  | updateInput .. => failure? (α := Unit)
  | runNode _ => failure? (α := RunOutcome)
  | log _ => fun _ => none

/-- The answer of a host that grants every call. -/
def granted : (c : HostCall) → c.Answer
  | updateParam .. => (.ok () : Except HostError Unit)
  | updateInput .. => (.ok () : Except HostError Unit)
  | runNode _ => (.ok .success : Except HostError RunOutcome)
  | log _ => ()

end HostCall

/-- A host whose answers depend on the call only. -/
abbrev Host := (c : HostCall) → c.Answer

abbrev HostDialogue := Dialogue HostCall HostCall.Answer

end WidgetDoc
