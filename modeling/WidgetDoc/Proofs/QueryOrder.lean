import WidgetDoc.Proofs.Batch
import WidgetDoc.Proofs.Reading
import WidgetDoc.Proofs.Results

/-!
# Batches in any order

Queries that do not read the state are answered alike wherever they stand in a batch. If moreover
they record their answers apart from each other, then the order in which a batch asks them does not
matter: it succeeds or fails as before, gives the same answers and commits the same state.
-/

namespace WidgetDoc

theorem QueryScope.resolve_context (scope : QueryScope) {path : List String}
    (h : path.head? ≠ some "uiState") (u v : Json) :
    (scope.context u).resolve path = (scope.context v).resolve path := by
  cases path with
  | nil => rfl
  | cons name rest =>
      have hname : name ≠ "uiState" := fun e => h (congrArg some e)
      have hroot : (scope.context u).root? name = (scope.context v).root? name := by
        simp only [Context.root?, if_neg hname]
        rfl
      rw [Context.resolve, Context.resolve, hroot]

namespace Query

/-- No binding in the input of the query starts at the state. -/
def ReadsNoState (q : Query) : Prop :=
  ∀ b ∈ q.input.bindings, b.path.head? ≠ some "uiState"

instance (q : Query) : Decidable q.ReadsNoState :=
  inferInstanceAs (Decidable (∀ b ∈ q.input.bindings, b.path.head? ≠ some "uiState"))

/-- The answer to a query, if its input can be evaluated. -/
def answer (q : Query) (scope : QueryScope) (probe : Probe) (uiState : Json) :
    Except EvalError Bool :=
  (q.input.eval (scope.context uiState) 0).map fun input => (ask input q.kind).run probe

/-- What is reported as the answer to a query whose input can be evaluated. -/
def found (q : Query) (scope : QueryScope) (probe : Probe) (uiState : Json) : Bool :=
  (q.answer scope probe uiState).toOption.getD false

theorem ReadsNoState.answer_eq {q : Query} (h : q.ReadsNoState) (scope : QueryScope)
    (probe : Probe) (u v : Json) : q.answer scope probe u = q.answer scope probe v := by
  have heval : q.input.eval (scope.context u) 0 = q.input.eval (scope.context v) 0 :=
    Expr.eval_congr (fun b hb => scope.resolve_context (h b hb) u v) 0
  rw [answer, answer, heval]

/-! ## What paths show of recorded answers -/

/-- What paths show once the answer to a query has been recorded. -/
def overwrite (q : Query) (found : Bool) (before : List String → Option Json) :
    List String → Option Json :=
  if DotPath.segments q.target = [] then before
  else Json.overwrite (.bool found) (DotPath.segments q.target) before

theorem show?_record (q : Query) (uiState : Json) (found : Bool) :
    (q.record uiState found).show? = q.overwrite found uiState.show? := by
  rw [record, overwrite]
  split
  · next hpath => rw [DotPath.set_of_nil hpath]
  · next hpath => rw [DotPath.set_eq_write hpath, Json.show?_write]

theorem show?_recordAll (uiState : Json) (answers : List (Query × Bool)) :
    (recordAll uiState answers).show? =
      answers.foldl (fun before a => a.1.overwrite a.2 before) uiState.show? := by
  induction answers generalizing uiState with
  | nil => rfl
  | cons a answers ih => rw [recordAll_cons, ih, List.foldl_cons, show?_record]

theorem Apart.overwrite_comm {q q' : Query} (h : q.Apart q') (found found' : Bool)
    (before : List String → Option Json) :
    q'.overwrite found' (q.overwrite found before) =
      q.overwrite found (q'.overwrite found' before) := by
  simp only [overwrite]
  by_cases hpath : DotPath.segments q.target = []
  · simp only [if_pos hpath]
  · by_cases hpath' : DotPath.segments q'.target = []
    · simp only [if_pos hpath']
    · simp only [if_neg hpath, if_neg hpath']
      exact Json.overwrite_comm (h hpath hpath').symm _ _ _

/-- The same answers recorded in another order give the same state. -/
theorem recordAll_perm {uiState : Json} (h : uiState.WellFormed)
    {answers answers' : List (Query × Bool)} (hperm : answers.Perm answers')
    (hapart : ∀ a ∈ answers, ∀ a' ∈ answers, a ≠ a' → a.1.Apart a'.1) :
    (recordAll uiState answers).same (recordAll uiState answers') = true := by
  have hcomm : ∀ a ∈ answers, ∀ a' ∈ answers, ∀ before,
      a'.1.overwrite a'.2 (a.1.overwrite a.2 before) =
        a.1.overwrite a.2 (a'.1.overwrite a'.2 before) := by
    intro a ha a' ha' before
    -- A query that is asked again records the same answer again.
    by_cases heq : a = a'
    · rw [heq]
    · exact (hapart a ha a' ha' heq).overwrite_comm a.2 a'.2 before
  have hshow : (recordAll uiState answers).show? = (recordAll uiState answers').show? := by
    rw [show?_recordAll, show?_recordAll]
    exact hperm.foldl_eq' hcomm uiState.show?
  exact (Json.matches_of_show? (recordAll_wellFormed h answers)
    (recordAll_wellFormed h answers') hshow).2

end Query

/-! ## Answers that do not depend on the state -/

/-- The end of a batch that reports and records answers to the given queries. -/
def BatchEnd.answered (uiState : Json) (asked : List Query) (found : Query → Bool) : BatchEnd :=
  ⟨asked.map fun q => (q.id, found q),
    .ok (Query.recordAll uiState (asked.map fun q => (q, found q)))⟩

theorem BatchEnd.answered_cons (uiState : Json) (q : Query) (asked : List Query)
    (found : Query → Bool) :
    answered uiState (q :: asked) found =
      let b := answered (q.record uiState (found q)) asked found
      { b with ran := (q.id, found q) :: b.ran } :=
  rfl

section Answers

variable {queries : List Query} {scope : QueryScope} {probe : Probe}

/-- A query that the batch cannot answer lets it fail. -/
theorem succeeds_answer_of_runQueries {ids : List String} {uiState : Json}
    (hunread : ∀ q ∈ requested queries ids, q.ReadsNoState)
    (h : Succeeds ((runQueries queries scope uiState ids).run probe).result) :
    ∀ q ∈ requested queries ids, Succeeds (q.answer scope probe uiState) := by
  induction ids generalizing uiState with
  | nil => simp [requested]
  | cons id ids ih =>
      cases hknown : queries.find? fun q => q.id == id with
      | none =>
          rw [runQueries_of_unknown hknown] at h
          rw [requested_cons_of_unknown hknown] at hunread ⊢
          exact ih hunread h
      | some q =>
          rw [requested_cons_of_known hknown] at hunread ⊢
          obtain ⟨-, hrest⟩ := List.forall_mem_cons.mp hunread
          cases hinput : q.input.eval (scope.context uiState) 0 with
          | error e =>
              rw [runQueries_of_fault hknown hinput] at h
              obtain ⟨committed, ⟨⟩⟩ := h
          | ok input =>
              rw [runQueries_of_input hknown hinput, Dialogue.run_bind, Dialogue.run_map] at h
              refine List.forall_mem_cons.mpr ⟨?_, fun r hr => ?_⟩
              · rw [Query.answer, hinput]
                exact succeeds_ok _
              · rw [(hrest r hr).answer_eq scope probe uiState]
                exact ih hrest h r hr

/-- A batch all of whose queries can be answered reports the answers and records them. -/
theorem run_runQueries {ids : List String} {uiState : Json}
    (hunread : ∀ q ∈ requested queries ids, q.ReadsNoState) (u : Json)
    (h : ∀ q ∈ requested queries ids, Succeeds (q.answer scope probe u)) :
    (runQueries queries scope uiState ids).run probe =
      .answered uiState (requested queries ids) fun q => q.found scope probe u := by
  induction ids generalizing uiState with
  | nil => rfl
  | cons id ids ih =>
      cases hknown : queries.find? fun q => q.id == id with
      | none =>
          rw [requested_cons_of_unknown hknown] at hunread h ⊢
          rw [runQueries_of_unknown hknown, ih hunread h]
      | some q =>
          rw [requested_cons_of_known hknown] at hunread h ⊢
          obtain ⟨hq, hrest⟩ := List.forall_mem_cons.mp hunread
          obtain ⟨⟨found, hanswer⟩, hanswers⟩ := List.forall_mem_cons.mp h
          have hfound : q.found scope probe u = found := by
            rw [Query.found, hanswer]
            rfl
          rw [hq.answer_eq scope probe u uiState] at hanswer
          obtain ⟨input, hinput, hask⟩ := map_eq_ok_iff.mp hanswer
          rw [runQueries_of_input hknown hinput, Dialogue.run_bind, Dialogue.run_map, hask,
            ih hrest hanswers, BatchEnd.answered_cons, hfound]

theorem succeeds_runQueries_iff {ids : List String} {uiState : Json}
    (hunread : ∀ q ∈ requested queries ids, q.ReadsNoState) :
    Succeeds ((runQueries queries scope uiState ids).run probe).result ↔
      ∀ q ∈ requested queries ids, Succeeds (q.answer scope probe uiState) := by
  constructor
  · exact succeeds_answer_of_runQueries hunread
  · intro hanswers
    rw [run_runQueries hunread uiState hanswers]
    exact succeeds_ok _

end Answers

/-- A batch of independent queries may ask them in any order, each as often as before. It succeeds
or not as before; if it does, then every query is answered alike and the same state is committed,
whatever the state was at the start. -/
theorem runQueries_perm (queries : List Query) (scope : QueryScope) (probe : Probe)
    {uiState : Json} (hstate : uiState.WellFormed) {ids ids' : List String}
    (hids : ids.Perm ids') (hunread : ∀ q ∈ requested queries ids, q.ReadsNoState)
    (hapart : ∀ q ∈ requested queries ids, ∀ q' ∈ requested queries ids, q ≠ q' → q.Apart q') :
    let b := (runQueries queries scope uiState ids).run probe
    let b' := (runQueries queries scope uiState ids').run probe
    (Succeeds b.result ↔ Succeeds b'.result) ∧
      ∀ committed, b.result = .ok committed → ∃ (committed' : Json) (found : Query → Bool),
        b'.result = .ok committed' ∧ committed.same committed' = true ∧
        b.ran = (requested queries ids).map (fun q => (q.id, found q)) ∧
        b'.ran = (requested queries ids').map fun q => (q.id, found q) := by
  intro b b'
  have hasked := requested_perm queries hids
  have hunread' : ∀ q ∈ requested queries ids', q.ReadsNoState := fun q hq =>
    hunread q (hasked.mem_iff.mpr hq)
  constructor
  · rw [succeeds_runQueries_iff hunread, succeeds_runQueries_iff hunread']
    exact ⟨fun h q hq => h q (hasked.mem_iff.mpr hq), fun h q hq => h q (hasked.mem_iff.mp hq)⟩
  · intro committed hcommitted
    have hanswers := (succeeds_runQueries_iff hunread).mp ⟨committed, hcommitted⟩
    have hanswers' : ∀ q ∈ requested queries ids', Succeeds (q.answer scope probe uiState) :=
      fun q hq => hanswers q (hasked.mem_iff.mpr hq)
    let found (q : Query) : Bool := q.found scope probe uiState
    have hb : b = .answered uiState (requested queries ids) found :=
      run_runQueries hunread uiState hanswers
    have hb' : b' = .answered uiState (requested queries ids') found :=
      run_runQueries hunread' uiState hanswers'
    rw [hb] at hcommitted
    cases hcommitted
    rw [hb, hb']
    refine ⟨_, found, rfl, ?_, rfl, rfl⟩
    refine Query.recordAll_perm hstate (hasked.map _) ?_
    intro a ha a' ha' hne
    obtain ⟨q, hq, rfl⟩ := List.mem_map.mp ha
    obtain ⟨q', hq', rfl⟩ := List.mem_map.mp ha'
    exact hapart q hq q' hq' fun heq => hne (by rw [heq])

/-- Queries that record answers side by side, and one that records none. -/
def fileQueries : List Query :=
  [⟨"main", .fileExists, .object [("path", .text "main.txt")], "files.main"⟩,
    ⟨"notes", .fileExists,
      .object [("path", .binding ⟨"${node.notes}", ["node", "notes"], none⟩)], "files..notes"⟩,
    ⟨"idle", .dirNonEmpty, .null, "."⟩]

/-- A probe that finds one file. -/
def mainProbe : Probe
  | .file path =>
    (if path = "main.txt" then .ok ⟨path, ""⟩ else .error (.notFound path) :
      Except ProbeError FileContent)
  | .tree root _ => (.error (.notFound root) : Except ProbeError TreeNode)

theorem runQueries_perm_files :
    let scope : QueryScope := ⟨.object [("notes", .string "notes.txt")], .empty, .empty⟩
    let uiState : Json := .object [("files", .array [.null])]
    let ids := ["main", "notes", "main", "idle", "none"]
    let ids' := ["notes", "idle", "main", "none", "main"]
    uiState.WellFormed ∧ ids.Perm ids' ∧
      (∀ q ∈ requested fileQueries ids, q.ReadsNoState) ∧
      (∀ q ∈ requested fileQueries ids, ∀ q' ∈ requested fileQueries ids, q ≠ q' → q.Apart q') ∧
      ∃ committed committed',
        ((runQueries fileQueries scope uiState ids).run mainProbe).result = .ok committed ∧
        ((runQueries fileQueries scope uiState ids').run mainProbe).result = .ok committed' ∧
        committed.same committed' = true := by
  intro scope uiState ids ids'
  have hstate : uiState.WellFormed := by
    simp [uiState, Json.WellFormed, Json.WellFormedFields, Json.WellFormedItems, Fields.Distinct,
      Fields.keys]
  have hids : ids.Perm ids' := by decide
  have hunread : ∀ q ∈ requested fileQueries ids, q.ReadsNoState := by decide +kernel
  have hother : ∀ q ∈ requested fileQueries ids, ∀ q' ∈ requested fileQueries ids,
      q.id ≠ q'.id → q.Apart q' := by decide +kernel
  have hapart : ∀ q ∈ requested fileQueries ids, ∀ q' ∈ requested fileQueries ids,
      q ≠ q' → q.Apart q' := fun q hq q' hq' hne =>
    hother q hq q' hq' fun hid => hne (eq_of_mem_requested hq hq' hid)
  obtain ⟨-, hsame⟩ :=
    runQueries_perm fileQueries scope mainProbe hstate hids hunread hapart
  obtain ⟨committed', -, hcommitted', hsame, -⟩ := hsame _ rfl
  exact ⟨hstate, hids, hunread, hapart, _, committed', rfl, hcommitted', hsame⟩

end WidgetDoc
