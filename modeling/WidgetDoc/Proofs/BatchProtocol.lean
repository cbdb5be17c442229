import WidgetDoc.Proofs.BatchLog
import WidgetDoc.Proofs.LiveSession

/-!
# The protocol of a batch

Whoever runs a batch has its probe called, hears of every answer as soon as it is there, and is
handed the state once if the batch succeeds. `announceQueries` is the batch with these messages. All
that they tell is in the end of the batch and in its calls: the reports make its log, and the state
that is handed over is the one that the log has led to.
-/

namespace WidgetDoc

/-- What passes between a batch and whoever runs it. -/
inductive BatchMessage where
  | probe (c : ProbeCall)
  | ran (id : String) (found : Bool)
  | commit (uiState : Json)

namespace BatchMessage

def Answer : BatchMessage → Type
  | probe c => c.Answer
  | ran .. => Unit
  | commit _ => Unit

def call? : BatchMessage → Option ProbeCall
  | probe c => some c
  | _ => none

def report? : BatchMessage → Option (String × Bool)
  | ran id found => some (id, found)
  | _ => none

def committed? : BatchMessage → Option Json
  | commit uiState => some uiState
  | _ => none

/-- Replies to a batch by means of a probe, which may remember the calls before. -/
def reply (probe : RememberingProbe) (past : List BatchMessage) :
    (m : BatchMessage) → m.Answer
  | .probe c => probe (past.filterMap call?) c
  | .ran .. => ()
  | .commit _ => ()

theorem call?_probes (calls : List ProbeCall) :
    (calls.map probe).filterMap call? = calls := by
  rw [List.filterMap_map]
  exact List.filterMap_some

theorem report?_probes (calls : List ProbeCall) : (calls.map probe).filterMap report? = [] := by
  rw [List.filterMap_map, List.filterMap_eq_nil_iff]
  intro c _
  rfl

theorem committed?_probes (calls : List ProbeCall) :
    (calls.map probe).filterMap committed? = [] := by
  rw [List.filterMap_map, List.filterMap_eq_nil_iff]
  intro c _
  rfl

end BatchMessage

abbrev BatchDialogue := Dialogue BatchMessage BatchMessage.Answer

def announceCalls {α : Type} (d : ProbeDialogue α) : BatchDialogue α :=
  d.through fun c => .ask (.probe c) .done

/-- Runs queries, reports every answer and at the end hands over the state. -/
def announceQueries (queries : List Query) (scope : QueryScope) (uiState : Json) :
    List String → BatchDialogue (Except QueryError Unit)
  | [] => .ask (.commit uiState) fun _ => .done (.ok ())
  | id :: ids =>
    match queries.find? fun q => q.id == id with
    | none => announceQueries queries scope uiState ids
    | some q =>
      match q.input.eval (scope.context uiState) 0 with
      | .error e => .done (.error (.input id e))
      | .ok input =>
        (announceCalls (Query.ask input q.kind)).bind fun found =>
          .ask (.ran id found) fun _ => announceQueries queries scope (q.record uiState found) ids

/-! ## What the messages tell -/

theorem runFrom_announceCalls {α : Type} (probe : RememberingProbe) (past : List BatchMessage)
    (d : ProbeDialogue α) :
    ∃ calls, (d.runFrom probe (past.filterMap BatchMessage.call?)).1 =
        past.filterMap BatchMessage.call? ++ calls ∧
      (announceCalls d).runFrom (BatchMessage.reply probe) past =
        (past ++ calls.map .probe, (d.runFrom probe (past.filterMap BatchMessage.call?)).2) := by
  induction d generalizing past with
  | done a => exact ⟨[], by simp [Dialogue.runFrom, announceCalls, Dialogue.through]⟩
  | ask c next ih =>
      obtain ⟨calls, hcalls, hrun⟩ :=
        ih (probe (past.filterMap BatchMessage.call?) c) (past ++ [BatchMessage.probe c])
      have hpast : (past ++ [BatchMessage.probe c]).filterMap BatchMessage.call? =
          past.filterMap BatchMessage.call? ++ [c] := by
        rw [List.filterMap_append]
        rfl
      rw [hpast] at hcalls hrun
      refine ⟨c :: calls, ?_, ?_⟩
      · rw [Dialogue.runFrom, hcalls, List.append_assoc, List.singleton_append]
      · rw [List.map_cons, List.append_cons]
        exact hrun

/-- Messages that tell the calls of a batch and its end. -/
structure Tells (messages : List BatchMessage) (calls : List ProbeCall) (b : BatchEnd) : Prop where
  calls : messages.filterMap BatchMessage.call? = calls
  log : messages.filterMap BatchMessage.report? = b.ran
  commits : messages.filterMap BatchMessage.committed? = b.result.toOption.toList

theorem Tells.answer {messages : List BatchMessage} {calls : List ProbeCall} {b : BatchEnd}
    (h : Tells messages calls b) (asked : List ProbeCall) (id : String) (found : Bool) :
    Tells (asked.map .probe ++ .ran id found :: messages) (asked ++ calls)
      { b with ran := (id, found) :: b.ran } := by
  constructor
  · rw [List.filterMap_append, BatchMessage.call?_probes, ← h.calls]
    rfl
  · rw [List.filterMap_append, BatchMessage.report?_probes, ← h.log]
    rfl
  · rw [List.filterMap_append, BatchMessage.committed?_probes, ← h.commits]
    rfl

theorem runFrom_announceQueries (queries : List Query) (scope : QueryScope)
    (probe : RememberingProbe) (uiState : Json) (ids : List String) (past : List BatchMessage) :
    ∃ messages calls b, Tells messages calls b ∧
      (runQueries queries scope uiState ids).runFrom probe (past.filterMap BatchMessage.call?) =
        (past.filterMap BatchMessage.call? ++ calls, b) ∧
      (announceQueries queries scope uiState ids).runFrom (BatchMessage.reply probe) past =
        (past ++ messages, b.result.map fun _ => ()) := by
  -- The probe may look at all calls since the batch began, so the messages of the past stay open.
  induction ids generalizing uiState past with
  | nil =>
      refine ⟨[.commit uiState], [], ⟨[], .ok uiState⟩, ⟨rfl, rfl, rfl⟩, ?_, rfl⟩
      rw [List.append_nil]
      rfl
  | cons id ids ih =>
      cases hknown : queries.find? fun q => q.id == id with
      | none =>
          rw [runQueries_of_unknown hknown, announceQueries, hknown]
          exact ih uiState past
      | some q =>
          obtain rfl := id_of_find? hknown
          rw [announceQueries, hknown]
          cases hinput : q.input.eval (scope.context uiState) 0 with
          | error e =>
              rw [runQueries_of_fault hknown hinput]
              refine ⟨[], [], ⟨[], .error (.input q.id e)⟩, ⟨rfl, rfl, rfl⟩, ?_, ?_⟩
              · rw [List.append_nil]
                rfl
              · rw [List.append_nil]
                simp only [hinput]
                rfl
          | ok input =>
              rw [runQueries_of_input hknown hinput]
              simp only [hinput, Dialogue.runFrom_bind, Dialogue.runFrom_map]
              obtain ⟨asked, hasked, hannounced⟩ :=
                runFrom_announceCalls probe past (Query.ask input q.kind)
              rw [hasked, hannounced]
              generalize ((Query.ask input q.kind).runFrom probe _).2 = found
              obtain ⟨messages, calls, b, htells, hrun, htalk⟩ :=
                ih (q.record uiState found)
                  (past ++ asked.map BatchMessage.probe ++ [BatchMessage.ran q.id found])
              have hpast : (past ++ asked.map BatchMessage.probe ++
                  [BatchMessage.ran q.id found]).filterMap BatchMessage.call? =
                    past.filterMap BatchMessage.call? ++ asked := by
                rw [List.filterMap_append, List.filterMap_append, BatchMessage.call?_probes]
                exact List.append_nil _
              rw [hpast] at hrun
              refine ⟨_, _, _, htells.answer asked q.id found, ?_, ?_⟩
              · rw [hrun, List.append_assoc]
              · rw [Dialogue.runFrom, htalk, List.append_assoc, List.append_assoc,
                  List.singleton_append]

/-- Whatever the probe answers, the messages of a batch tell its calls and its end, and the batch
ends in one of two ways. Either every known id has been reported, in order, and the state that the
reports have led to is handed over once; or nothing is handed over, because of the first id whose
input cannot be evaluated against the state of the reports before it. -/
theorem batch_protocol (queries : List Query) (scope : QueryScope) (uiState : Json)
    (ids : List String) (probe : RememberingProbe) :
    let talk := (announceQueries queries scope uiState ids).runFrom (BatchMessage.reply probe) []
    let log := talk.1.filterMap BatchMessage.report?
    let commits := talk.1.filterMap BatchMessage.committed?
    (∃ calls b, (runQueries queries scope uiState ids).runFrom probe [] = (calls, b) ∧
      Tells talk.1 calls b ∧ talk.2 = b.result.map fun _ => ()) ∧
    ((talk.2 = .ok () ∧ commits = [replay queries uiState log] ∧
        Answered queries scope uiState ids log) ∨
      ∃ before id after q e, ids = before ++ id :: after ∧
        queries.find? (fun q => q.id == id) = some q ∧ talk.2 = .error (.input id e) ∧
        commits = [] ∧ Answered queries scope uiState before log ∧
        q.input.eval (scope.context (replay queries uiState log)) 0 = .error e) := by
  intro talk log commits
  obtain ⟨messages, calls, b, htells, hrun, htalk⟩ :=
    runFrom_announceQueries queries scope probe uiState ids []
  change (runQueries queries scope uiState ids).runFrom probe [] = (calls, b) at hrun
  have hmessages : talk = (messages, b.result.map fun _ => ()) := htalk
  have hlawful : BatchEnd.Lawful queries scope uiState ids b := by
    have halways := (runQueries_lawful queries scope uiState ids).runFrom probe []
    rwa [hrun] at halways
  have hend : talk.2 = b.result.map fun _ => () := congrArg Prod.snd hmessages
  have htold : Tells talk.1 calls b := by rwa [hmessages]
  have hlog : log = b.ran := htold.log
  have hcommits : commits = b.result.toOption.toList := htold.commits
  refine ⟨⟨calls, b, hrun, htold, hend⟩, ?_⟩
  rw [hlog, hcommits, hend]
  cases hlawful with
  | committed answered => exact .inl ⟨rfl, rfl, answered⟩
  | @faulted before after q log e stop known answered fault =>
      exact .inr ⟨before, q.id, after, q, e, stop, known, rfl, rfl, answered, fault⟩

end WidgetDoc
