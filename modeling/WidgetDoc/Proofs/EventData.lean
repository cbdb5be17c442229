import WidgetDoc.Proofs.HostInfluence

/-!
# Events are data

A name that no action of the document bears is taken for a kind of step, and the event for its
input. Such a dispatch does one deed at most, and the fields of the event and the id of the node
settle which one. No expression is evaluated: a text that spells a binding and an object that spells
an operator reach the host, or the state, as they are.
-/

namespace WidgetDoc

/-! ## Values without a text -/

theorem Decimal.format_ne_empty (style : Style) (d : Decimal) : format style d ≠ "" := by
  rw [format, ne_eq, ← String.toList_eq_nil_iff, String.toList_ofList]
  split
  · exact List.cons_ne_nil _ _
  · split_ifs <;> simp

namespace Number

theorem repr_ne_empty (n : Int) : n.repr ≠ "" := by
  cases n with
  | ofNat m => exact Nat.repr_ne_empty
  | negSucc m => simp [Int.repr]

theorem literal_ne_empty (n : Number) : n.literal ≠ "" := by
  cases n with
  | integer n fits => exact repr_ne_empty n
  | double x => exact Decimal.format_ne_empty _ _

theorem display_ne_empty (n : Number) : n.display ≠ "" := by
  cases n with
  | integer n fits => exact literal_ne_empty (.integer n fits)
  | double x =>
      rw [display]
      split
      · split
        · exact repr_ne_empty _
        · exact literal_ne_empty _
      · exact literal_ne_empty _

end Number

/-- Only what is missing, null or the empty string has no text. -/
theorem Value.display_eq_empty_iff {v : Value} :
    v.display = "" ↔ v = none ∨ v = some .null ∨ v = some (.string "") := by
  cases v with
  | none => simp [display]
  | some j =>
      cases j with
      | null => simp [display]
      | string s => simp [display]
      | number n => simp [display, Number.display_ne_empty]
      | bool b => cases b <;> simp [display, Json.compact, Json.atom]
      | array items => simp [display, Json.compact]
      | object fields => simp [display, Json.compact]

/-! ## What an event tells a kind -/

/-- What a step reads of its input: texts of fields, of which an empty one counts as missing, and
the value to carry. -/
structure EventData where
  node : String
  key : String
  path : String
  message : String
  value : Json

namespace EventData

/-- The fields of an event. One that names no node means the own node. -/
def ofEvent (event : Option Json) (own : String) : EventData where
  node := match Value.field? event "nodeId" with
    | none => own
    | some .null => own
    | some (.string "") => own
    | some id => Value.display (some id)
  key := Value.display (Value.field? event "key")
  path := Value.display (Value.field? event "path")
  message := Value.display (Value.field? event "message")
  value := (Value.field? event "value").getD .null

/-- What a kind does with the data: an update needs a node and a key, a run a node, a message a
text and a write a path. Kinds that are made of steps have none to run. -/
def deed (data : EventData) (kind : String) : Deed :=
  if kind = "state.updateNodeParam" ∨ kind = "setParam" then
    if data.key = "" ∨ data.node = "" then .nothing
    else .call (.updateParam data.node data.key data.value)
  else if kind = "state.updateNodeInput" then
    if data.key = "" ∨ data.node = "" then .nothing
    else .call (.updateInput data.node data.key data.value)
  else if kind = "actions.runPluginNode" ∨ kind = "runNode" then
    if data.node = "" then .nothing else .call (.runNode data.node)
  else if kind = "ui.toast" then
    if data.message = "" then .nothing else .call (.log data.message)
  else if kind = "state.setUiState" then
    if data.path = "" then .nothing else .write data.path data.value
  else .nothing

theorem node_ofEvent (event : Option Json) (own : String) :
    (ofEvent event own).node =
      if Value.display (Value.field? event "nodeId") = "" then own
      else Value.display (Value.field? event "nodeId") := by
  rw [ofEvent]
  split
  · next h => simp [h, Value.display]
  · next h => simp [h, Value.display]
  · next h => simp [h, Value.display]
  · next id hnull hempty h =>
      have hid : Value.display (some id) ≠ "" := by
        rw [ne_eq, Value.display_eq_empty_iff]
        simpa using ⟨hnull, hempty⟩
      rw [h, if_neg hid]

end EventData

/-- What a kind reads when it is dispatched in a scope. -/
def ActionScope.eventData (scope : ActionScope) : EventData :=
  .ofEvent scope.event (Value.display (DotPath.get? scope.node "id"))

theorem Effect.nodeId?_event (scope : ActionScope) :
    nodeId? scope.node scope.event =
      if scope.eventData.node = "" then none else some scope.eventData.node := by
  rw [ActionScope.eventData, EventData.node_ofEvent, nodeId?, textField]
  split_ifs <;> simp_all

theorem Effect.updateDeed_event (call : String → String → Json → HostCall) (scope : ActionScope) :
    updateDeed call scope.node scope.event =
      if scope.eventData.key = "" ∨ scope.eventData.node = "" then .nothing
      else .call (call scope.eventData.node scope.eventData.key scope.eventData.value) := by
  have hkey : textField scope.event "key" = scope.eventData.key := rfl
  rw [updateDeed, nodeId?_event, hkey]
  by_cases hk : scope.eventData.key = ""
  · simp only [hk, if_true, true_or]
  · by_cases hn : scope.eventData.node = ""
    · simp only [hk, hn, if_true, if_false, or_true]
    · simp only [hk, hn, if_false, or_self]
      rfl

theorem Effect.runDeed_event (scope : ActionScope) :
    deed scope.node scope.event .runNode =
      if scope.eventData.node = "" then .nothing else .call (.runNode scope.eventData.node) := by
  rw [deed, nodeId?_event]
  split_ifs <;> rfl

theorem ActionKind.ofName_of_not_mem {kind : String} (h : kind ∉ Fields.keys table) :
    ofName kind = unknown := by
  rw [ofName, Fields.lookup_eq_none_iff.mpr h, Option.getD_none]

theorem ActionKind.mem_table_iff {kind : String} : kind ∈ Fields.keys table ↔
    kind = "sequence" ∨ kind = "conditional" ∨ kind = "state.updateNodeParam" ∨
      kind = "setParam" ∨ kind = "state.updateNodeInput" ∨ kind = "state.setUiState" ∨
      kind = "actions.runPluginNode" ∨ kind = "runNode" ∨ kind = "ui.toast" := by
  simp [table, Fields.keys]

theorem EventData.deed_of_not_mem (data : EventData) {kind : String}
    (h : kind ∉ Fields.keys ActionKind.table) : data.deed kind = .nothing := by
  simp only [ActionKind.mem_table_iff, not_or] at h
  simp only [deed, h, or_self, if_false]

theorem Action.runKind_eq_perform (scope : ActionScope) (uiState : Json) (kind : String) :
    runKind scope uiState kind = (scope.eventData.deed kind).perform uiState := by
  by_cases hkind : kind ∈ Fields.keys ActionKind.table
  · have hparam := congrArg (Deed.perform uiState) (Effect.updateDeed_event .updateParam scope)
    have hinput := congrArg (Deed.perform uiState) (Effect.updateDeed_event .updateInput scope)
    have hrun := congrArg (Deed.perform uiState) (Effect.runDeed_event scope)
    rcases ActionKind.mem_table_iff.mp hkind with
      rfl | rfl | rfl | rfl | rfl | rfl | rfl | rfl | rfl
    -- The kinds made of steps: a name alone brings none.
    · rfl
    · rfl
    · exact hparam
    · exact hparam
    · exact hinput
    · rfl
    · exact hrun
    · exact hrun
    · rfl
  · rw [runKind, ActionKind.ofName_of_not_mem hkind, EventData.deed_of_not_mem _ hkind]
    rfl

/-! ## Dispatching an event -/

/-- How a deed ends with a host that gives these answers. -/
def Deed.outcome (host : Host) (deed : Deed) : Except DispatchError Unit :=
  match deed.call? with
  | none => .ok ()
  | some c =>
    match c.refusal? (host c) with
    | none => .ok ()
    | some e => .error (.host e)

theorem Deed.runFrom_perform (deed : Deed) (uiState : Json) (host : RememberingHost)
    (past : List HostCall) :
    (deed.perform uiState).runFrom host past =
      (past ++ deed.call?.toList, ⟨deed.stateAfter uiState, deed.outcome (host past)⟩) := by
  cases deed with
  | nothing => simp [perform, Dialogue.runFrom, call?, outcome, stateAfter, RunEnd.success]
  | write path value =>
      simp [perform, Dialogue.runFrom, call?, outcome, stateAfter, RunEnd.success]
  | call c =>
      cases hrefusal : c.refusal? (host past c) with
      | none =>
          simp [perform, Dialogue.runFrom, call?, outcome, stateAfter, hrefusal, RunEnd.success]
      | some e =>
          simp [perform, Dialogue.runFrom, call?, outcome, stateAfter, hrefusal, RunEnd.failure]

theorem Deed.outcome_ne_eval (host : Host) (deed : Deed) (e : EvalError) :
    deed.outcome host ≠ .error (.eval e) := by
  rw [outcome]
  split
  · exact nofun
  · split <;> exact nofun

namespace Document

theorem action?_eq_none_iff {d : Document} {name : String} :
    d.action? name = none ↔ ∀ a ∈ d.actions, a.id ≠ name := by
  simp [action?]

theorem dispatch_eq_perform {d : Document} {name : String} (h : ∀ a ∈ d.actions, a.id ≠ name)
    (scope : ActionScope) (uiState : Json) :
    d.dispatch scope uiState name = (scope.eventData.deed name).perform uiState := by
  rw [dispatch, action?_eq_none_iff.mpr h]
  exact Action.runKind_eq_perform scope uiState name

/-- A dispatch of a name that no action bears does the deed that the event tells the kind of this
name: it makes the call of this deed or none, changes the state by its write or not at all, and
fails only if the host refuses the call. Nothing else in the scope or the document has a part in
it. -/
theorem dispatch_event (d : Document) (scope : ActionScope) (uiState : Json) {name : String}
    (hname : ∀ a ∈ d.actions, a.id ≠ name) (host : RememberingHost) :
    let run := (d.dispatch scope uiState name).runFrom host []
    let deed := scope.eventData.deed name
    run.1 = deed.call?.toList ∧ run.1.length ≤ 1 ∧
      run.2.uiState = deed.stateAfter uiState ∧
      run.2.result = deed.outcome (host []) ∧ (∀ e, run.2.result ≠ .error (.eval e)) ∧
      ∀ (d' : Document) (scope' : ActionScope), (∀ a ∈ d'.actions, a.id ≠ name) →
        scope'.event = scope.event →
        Value.display (DotPath.get? scope'.node "id") =
          Value.display (DotPath.get? scope.node "id") →
        (d'.dispatch scope' uiState name).runFrom host [] = run := by
  intro run deed
  have hrun : run = (deed.call?.toList, ⟨deed.stateAfter uiState, deed.outcome (host [])⟩) := by
    dsimp only [run, deed]
    rw [dispatch_eq_perform hname, Deed.runFrom_perform, List.nil_append]
  refine ⟨?_, ?_, ?_, ?_, ?_, ?_⟩
  · rw [hrun]
  · rw [hrun]
    exact Option.length_toList_le
  · rw [hrun]
  · rw [hrun]
  · rw [hrun]
    exact deed.outcome_ne_eval (host [])
  · intro d' scope' hname' hevent hown
    have hdata : scope'.eventData = scope.eventData := by
      rw [ActionScope.eventData, ActionScope.eventData, hevent, hown]
    dsimp only [run]
    rw [dispatch_eq_perform hname', dispatch_eq_perform hname, hdata]

end Document

/-- A scope whose event spells bindings and an operator. -/
def spellingScope (secret : String) : ActionScope :=
  let reading : Json := .string "${node.secret}"
  ⟨.object [("id", .string "n"), ("secret", .string secret)], .empty, .empty,
    some (.object [("nodeId", .string ""), ("key", reading),
      ("value", .object [("op", .string "concat"), ("args", .array [reading])])])⟩

theorem Document.dispatch_event_spelling :
    let run (secret : String) :=
      (saving.dispatch (spellingScope secret) .empty "setParam").runFrom busyHost []
    (∀ a ∈ saving.actions, a.id ≠ "setParam") ∧
      (run "a").1 = [.updateParam "n" "${node.secret}"
        (.object [("op", .string "concat"), ("args", .array [.string "${node.secret}"])])] ∧
      (run "a").2.uiState = .empty ∧ (run "a").2.result = .ok () ∧ run "b" = run "a" := by
  intro run
  have hname : ∀ a ∈ saving.actions, a.id ≠ "setParam" := by decide
  obtain ⟨hcalls, -, hstate, hresult, -, hother⟩ :=
    dispatch_event saving (spellingScope "a") .empty hname busyHost
  exact ⟨hname, hcalls, hstate, hresult, hother saving (spellingScope "b") hname rfl rfl⟩

end WidgetDoc
