import WidgetDoc.Document.Schema
import WidgetDoc.Proofs.Nesting
import WidgetDoc.Value

/-!
# All violations of a document

A document is visited part by part, in the order in which it is checked. The role of a part says
what has to stand there and which parts are visited below it; of a value with the wrong shape there
are none. A fault does not stop the visits, and `Document.violations` lists the faults of all of
them.
-/

namespace WidgetDoc

namespace Schema

/-- What a part of a document is taken for. An id comes with the ids of the records before it, and a
part of an expression with the location that leads to it from the outermost expression. -/
inductive Role where
  | document
  | version
  | view
  | viewType
  | children
  | exprs
  | expr (within : Location)
  | args (operator : String) (within : Location)
  | actions
  | actionId (earlier : List String)
  | step
  | stepId
  | stepKind
  | steps (field : String)
  | queries
  | query (earlier : List String)
  | queryId (earlier : List String)
  | queryKind
  | queryInput
  | queryTarget
  deriving DecidableEq

/-- A part of a value, with the steps that lead to it. -/
structure Part where
  steps : Location
  role : Role
  found : Value

def isObject (found : Value) : Bool :=
  (found.bind Json.object?).isSome

def isArray (found : Value) : Bool :=
  (found.bind Json.array?).isSome

def isText (found : Value) : Bool :=
  (found.bind Json.string?).isSome

/-- The text that was found; without one, the empty text. -/
def textOf (found : Value) : String :=
  (found.bind Json.string?).getD ""

def idsOf (items : List Json) : List String :=
  items.map fun x => textOf (x.field? "id")

/-! ## What has to stand at a part -/

def demand (holds : Bool) (f : Fault) : Option Fault :=
  if holds then none else some f

/-- An id is a text that is not empty and none of the ids before it. -/
def idFault? (missing : Fault) (duplicate : String → Fault) (earlier : List String) (id : String) :
    Option Fault :=
  if id = "" then some missing else demand (id ∉ earlier) (duplicate id)

def versionFault? : Value → Option Fault
  | none => some .versionMissing
  | some j => demand (textOf (some j) = Document.version) (.versionUnsupported j)

def viewFault? : Value → Option Fault
  | none => some .viewMissing
  | some j => demand (isObject (some j)) .viewNotObject

/-- What is wrong with what was found at a part. -/
def Role.fault? (found : Value) : Role → Option Fault
  | document => demand (isObject found) .rootNotObject
  | version => versionFault? found
  | view => viewFault? found
  | viewType => demand (textOf found ≠ "") .viewType
  | children => demand (isArray found) .childrenNotArray
  | exprs => demand (isObject found) .exprsNotObject
  | expr _ => none
  | args operator within =>
    demand (found matches some .null || isArray found)
      (.expr ⟨within ++ [.field "args"], operator⟩)
  | actions => demand (isArray found) .actionsNotArray
  | actionId earlier => idFault? .actionId .duplicateAction earlier (textOf found)
  | step => demand (isObject found) .stepNotObject
  | stepId => demand (found.isNone || isText found) .stepId
  | stepKind => demand (textOf found ≠ "") .actionKind
  | steps field => demand (isArray found) (.stepsNotArray field)
  | queries => demand (isArray found) .queriesNotArray
  | query _ => demand (isObject found) .queryNotObject
  | queryId earlier => idFault? .queryId .duplicateQuery earlier (textOf found)
  | queryKind =>
    demand (textOf found ∈ QueryKind.all.map QueryKind.name) (.queryKind (textOf found))
  | queryInput => demand found.isSome .queryInput
  | queryTarget => demand (isText found) .queryTarget

/-! ## Which parts are visited -/

namespace Part

/-- A field that is visited even if it is missing. -/
def field (fields : List (String × Json)) (key : String) (role : Role) : Part :=
  ⟨[.field key], role, fields.lookup key⟩

/-- A field that is visited if it is there. -/
def fieldIfAny (fields : List (String × Json)) (key : String) (role : Role) : List Part :=
  (fields.lookup key).toList.map fun x => ⟨[.field key], role, some x⟩

def eachField (fields : List (String × Json)) (role : String → Role) : List Part :=
  fields.map fun f => ⟨[.field f.1], role f.1, some f.2⟩

def eachItem (items : List Json) (role : Nat → Role) : List Part :=
  items.zipIdx.map fun p => ⟨[.index p.2], role p.2, some p.1⟩

/-- The parts of records, each of which knows the ids of the records before it. -/
def eachRecord (items : List Json) (parts : Nat → List String → Json → List Part) : List Part :=
  items.zipIdx.flatMap fun p => parts p.2 (idsOf (items.take p.2)) p.1

/-- An action is visited for its id first and then as a step. -/
def action (i : Nat) (earlier : List String) (x : Json) : List Part :=
  [⟨[.index i, .field "id"], .actionId earlier, x.field? "id"⟩, ⟨[.index i], .step, some x⟩]

def query (i : Nat) (earlier : List String) (x : Json) : List Part :=
  [⟨[.index i], .query earlier, some x⟩]

/-- The place of the target of a query. -/
def target (fields : List (String × Json)) : Part :=
  ⟨[.field "output", .field "into"], .queryTarget,
    (fields.lookup "output").bind fun output => output.field? "into"⟩

end Part

namespace Role

open Schema.Part

def partsOfObject (fields : List (String × Json)) : Role → List Part
  | document =>
    [field fields "specVersion" version, field fields "view" view]
      ++ fieldIfAny fields "computed" exprs ++ fieldIfAny fields "actions" actions
      ++ fieldIfAny fields "queries" queries
  | view =>
    field fields "type" viewType :: fieldIfAny fields "props" exprs
      ++ fieldIfAny fields "text" (expr []) ++ fieldIfAny fields "children" children
  | exprs => eachField fields fun _ => expr []
  | expr within =>
    match Expr.operatorName? fields with
    | some operator => fieldIfAny fields "args" (args operator within)
    | none => eachField fields fun key => expr (within ++ [.field key])
  | step =>
    [field fields "id" stepId, field fields "kind" stepKind]
      ++ fieldIfAny fields "input" (expr []) ++ fieldIfAny fields "if" (expr [])
      ++ fieldIfAny fields "steps" (steps "steps") ++ fieldIfAny fields "then" (steps "then")
  | query earlier =>
    [field fields "id" (queryId earlier), field fields "kind" queryKind,
      field fields "input" queryInput] ++ fieldIfAny fields "input" (expr []) ++ [target fields]
  | _ => []

def partsOfArray (items : List Json) : Role → List Part
  | children => eachItem items fun _ => view
  | expr within => eachItem items fun i => expr (within ++ [.index i])
  | args _ within => eachItem items fun i => expr (within ++ [.field "args", .index i])
  | actions => eachRecord items action
  | steps _ => eachItem items fun _ => step
  | queries => eachRecord items Part.query
  | _ => []

/-- The parts of what was found that are visited below it, in order. -/
def parts (found : Value) (role : Role) : List Part :=
  match found with
  | some (.object fields) => role.partsOfObject fields
  | some (.array items) => role.partsOfArray items
  | _ => []

end Role

/-! ## The visits -/

/-- A part that stands below a value, or that is missing there. -/
structure Part.Below (whole : Json) (p : Part) : Prop where
  steps_ne_nil : p.steps ≠ []
  standsAt : ∀ x, p.found = some x → whole.StandsAt p.steps x

def Part.AllBelow (whole : Json) (ps : List Part) : Prop :=
  ∀ p ∈ ps, p.Below whole

namespace Part

theorem Below.sizeOf_lt {whole : Json} {p : Part} (h : p.Below whole) :
    sizeOf p.found < sizeOf (some whole) := by
  cases hfound : p.found with
  | none =>
      have hwhole : 0 < sizeOf whole := by cases whole <;> simp +arith
      simp only [Option.none.sizeOf_spec, Option.some.sizeOf_spec]
      omega
  | some x =>
      have hx := (h.standsAt x hfound).sizeOf_lt h.steps_ne_nil
      simp only [Option.some.sizeOf_spec]
      omega

@[simp] theorem allBelow_nil (whole : Json) : AllBelow whole [] := by
  simp [AllBelow]

theorem allBelow_cons {whole : Json} {p : Part} {ps : List Part} :
    AllBelow whole (p :: ps) ↔ p.Below whole ∧ AllBelow whole ps :=
  List.forall_mem_cons

theorem allBelow_append {whole : Json} {ps qs : List Part} :
    AllBelow whole (ps ++ qs) ↔ AllBelow whole ps ∧ AllBelow whole qs :=
  List.forall_mem_append

section Object

variable (fields : List (String × Json))

theorem below_field (key : String) (role : Role) :
    (field fields key role).Below (.object fields) :=
  ⟨List.cons_ne_nil _ _, fun _ hx => .of_field? hx⟩

theorem below_fieldIfAny (key : String) (role : Role) :
    AllBelow (.object fields) (fieldIfAny fields key role) := by
  intro p hp
  obtain ⟨x, hx, rfl⟩ := List.mem_map.mp hp
  have hpart := below_field fields key role
  rwa [field, Option.mem_toList.mp hx] at hpart

theorem below_eachField (role : String → Role) :
    AllBelow (.object fields) (eachField fields role) := by
  intro p hp
  obtain ⟨f, hf, rfl⟩ := List.mem_map.mp hp
  refine ⟨List.cons_ne_nil _ _, ?_⟩
  rintro x ⟨⟩
  exact Json.StandsAt.root.field hf

theorem below_target : (target fields).Below (.object fields) := by
  refine ⟨List.cons_ne_nil _ _, fun x hx => ?_⟩
  obtain ⟨output, houtput, hinto⟩ := Option.bind_eq_some_iff.mp hx
  have hpart : (Json.object fields).StandsAt [.field "output"] output := .of_field? houtput
  exact hpart.trans (.of_field? hinto)

end Object

section Array

variable (items : List Json)

theorem below_eachItem (role : Nat → Role) : AllBelow (.array items) (eachItem items role) := by
  intro p hp
  obtain ⟨⟨x, i⟩, hx, rfl⟩ := List.mem_map.mp hp
  refine ⟨List.cons_ne_nil _ _, ?_⟩
  rintro x ⟨⟩
  exact Json.StandsAt.root.item (List.mk_mem_zipIdx_iff_getElem?.mp hx)

theorem below_eachRecord {parts : Nat → List String → Json → List Part}
    (h : ∀ i earlier x, (Json.array items).StandsAt [.index i] x →
      AllBelow (.array items) (parts i earlier x)) :
    AllBelow (.array items) (eachRecord items parts) := by
  intro p hp
  obtain ⟨⟨x, i⟩, hx, hp⟩ := List.mem_flatMap.mp hp
  exact h _ _ _ (Json.StandsAt.root.item (List.mk_mem_zipIdx_iff_getElem?.mp hx)) p hp

theorem below_action {i : Nat} {x : Json} (hx : (Json.array items).StandsAt [.index i] x)
    (earlier : List String) : AllBelow (.array items) (action i earlier x) := by
  simp only [action, allBelow_cons, allBelow_nil, and_true]
  refine ⟨⟨List.cons_ne_nil _ _, fun id hid => hx.trans (.of_field? hid)⟩,
    List.cons_ne_nil _ _, ?_⟩
  rintro _ ⟨⟩
  exact hx

theorem below_query {i : Nat} {x : Json} (hx : (Json.array items).StandsAt [.index i] x)
    (earlier : List String) : AllBelow (.array items) (query i earlier x) := by
  simp only [query, allBelow_cons, allBelow_nil, and_true]
  refine ⟨List.cons_ne_nil _ _, ?_⟩
  rintro _ ⟨⟩
  exact hx

end Array

end Part

namespace Role

open Schema.Part

theorem below_partsOfObject (fields : List (String × Json)) (role : Role) :
    AllBelow (.object fields) (role.partsOfObject fields) := by
  cases role with
  | expr within =>
      rw [partsOfObject]
      split
      · exact below_fieldIfAny fields _ _
      · exact below_eachField fields _
  | exprs => exact below_eachField fields fun _ => expr []
  | document | view | step | query earlier =>
      simp [partsOfObject, allBelow_append, allBelow_cons, below_field, below_fieldIfAny,
        below_target]
  | _ => simp [partsOfObject]

theorem below_partsOfArray (items : List Json) (role : Role) :
    AllBelow (.array items) (role.partsOfArray items) := by
  have hitems := below_eachItem items
  cases role with
  | actions => exact below_eachRecord items fun i earlier x hx => below_action items hx earlier
  | queries => exact below_eachRecord items fun i earlier x hx => below_query items hx earlier
  | children | expr within | args operator within | steps field =>
      rw [partsOfArray]
      exact hitems _
  | _ => simp [partsOfArray]

theorem exists_below_of_mem_parts {found : Value} {role : Role} {p : Part}
    (h : p ∈ role.parts found) : ∃ whole, found = some whole ∧ p.Below whole := by
  match found with
  | some (.object fields) => exact ⟨_, rfl, below_partsOfObject fields role p h⟩
  | some (.array items) => exact ⟨_, rfl, below_partsOfArray items role p h⟩
  | none | some .null | some (.bool _) | some (.number _) | some (.string _) => simp [parts] at h

theorem sizeOf_lt_of_mem_parts {found : Value} {role : Role} {p : Part}
    (h : p ∈ role.parts found) : sizeOf p.found < sizeOf found := by
  obtain ⟨whole, rfl, hp⟩ := exists_below_of_mem_parts h
  exact hp.sizeOf_lt

end Role

/-- A part of a document that is visited: where it is, what it is taken for and what stands there. -/
structure Visit where
  location : Location
  role : Role
  found : Value

namespace Visit

def violation? (v : Visit) : Option ValidationError :=
  (v.role.fault? v.found).map fun f => ⟨f, v.location⟩

end Visit

/-- The visit of a part and, after it, of the parts below it. -/
def visits (here : Location) (role : Role) (found : Value) : List Visit :=
  ⟨here, role, found⟩ :: (role.parts found).attach.flatMap fun p =>
    visits (here ++ p.1.steps) p.1.role p.1.found
termination_by sizeOf found
decreasing_by exact Role.sizeOf_lt_of_mem_parts p.2

theorem visits_eq (here : Location) (role : Role) (found : Value) :
    visits here role found = ⟨here, role, found⟩ :: (role.parts found).flatMap fun p =>
      visits (here ++ p.steps) p.role p.found := by
  rw [visits]
  simp only [List.flatMap_subtype, List.unattach_attach]

theorem standsAt_of_mem_visits {raw : Json} {here : Location} {role : Role} {found : Value}
    (h : ∀ x, found = some x → raw.StandsAt here x) {v : Visit} (hv : v ∈ visits here role found) :
    ∀ x, v.found = some x → raw.StandsAt v.location x := by
  induction here, role, found using visits.induct with
  | case1 here role found ih =>
      rw [visits_eq, List.mem_cons, List.mem_flatMap] at hv
      obtain rfl | ⟨p, hp, hv⟩ := hv
      · exact h
      · obtain ⟨whole, rfl, hbelow⟩ := Role.exists_below_of_mem_parts hp
        exact ih ⟨p, hp⟩ (fun x hx => (h whole rfl).trans (hbelow.standsAt x hx)) hv

end Schema

namespace Document

open Schema

def visits (raw : Json) : List Visit :=
  Schema.visits [] .document (some raw)

/-- All violations of the schema, in the order of the visits. -/
def violations (raw : Json) : List ValidationError :=
  (visits raw).filterMap Visit.violation?

theorem standsAt_of_mem_visits {raw x : Json} {v : Visit} (hv : v ∈ visits raw)
    (hx : v.found = some x) : raw.StandsAt v.location x := by
  refine Schema.standsAt_of_mem_visits (fun y hy => ?_) hv x hx
  exact Option.some.inj hy ▸ .root

end Document

end WidgetDoc
