import WidgetDoc.Proofs.Batch

/-!
# Batches in parts

A batch may be cut anywhere: to ask two lists of queries in one batch is to ask the first list and,
if that succeeds, the second one on the state that the first has committed. Ids without a query may
be put in or left out anywhere.
-/

namespace WidgetDoc

/-- Goes on after a batch that succeeded, from the state that it commits. The answers of both parts
are reported. -/
def BatchEnd.andThen (b : BatchEnd) (next : Json → ProbeDialogue BatchEnd) :
    ProbeDialogue BatchEnd :=
  match b.result with
  | .ok committed => (next committed).map fun c => { c with ran := b.ran ++ c.ran }
  | .error _ => .done b

section AndThen

variable {b : BatchEnd} (next : Json → ProbeDialogue BatchEnd)

theorem BatchEnd.andThen_of_error {e : QueryError} (h : b.result = .error e) :
    b.andThen next = .done b := by
  rw [andThen, h]

theorem BatchEnd.andThen_of_ok {committed : Json} (h : b.result = .ok committed) :
    b.andThen next = (next committed).map fun c => { c with ran := b.ran ++ c.ran } := by
  rw [andThen, h]

theorem BatchEnd.andThen_of_unasked (uiState : Json) :
    BatchEnd.andThen ⟨[], .ok uiState⟩ next = next uiState :=
  Dialogue.bind_done (next uiState)

theorem BatchEnd.andThen_cons (answer : String × Bool) (b : BatchEnd) :
    BatchEnd.andThen { b with ran := answer :: b.ran } next =
      (b.andThen next).map fun c => { c with ran := answer :: c.ran } := by
  obtain ⟨ran, result⟩ := b
  cases result with
  | error e => rfl
  | ok committed =>
      rw [andThen_of_ok next rfl, andThen_of_ok next rfl, Dialogue.map, Dialogue.map, Dialogue.map,
        Dialogue.bind_assoc]
      rfl

end AndThen

variable (queries : List Query) (scope : QueryScope)

theorem runQueries_append (uiState : Json) (xs ys : List String) :
    runQueries queries scope uiState (xs ++ ys) =
      (runQueries queries scope uiState xs).bind fun b =>
        b.andThen fun committed => runQueries queries scope committed ys := by
  induction xs generalizing uiState with
  | nil =>
      rw [List.nil_append, runQueries, Dialogue.bind, BatchEnd.andThen_of_unasked]
  | cons id xs ih =>
      rw [List.cons_append]
      cases hknown : queries.find? fun q => q.id == id with
      | none => rw [runQueries_of_unknown hknown, runQueries_of_unknown hknown, ih]
      | some q =>
          cases hinput : q.input.eval (scope.context uiState) 0 with
          | error e =>
              rw [runQueries_of_fault hknown hinput, runQueries_of_fault hknown hinput]
              rfl
          | ok input =>
              rw [runQueries_of_input hknown hinput, runQueries_of_input hknown hinput,
                Dialogue.bind_assoc]
              congr 1
              funext found
              rw [ih, Dialogue.map, Dialogue.map, Dialogue.bind_assoc, Dialogue.bind_assoc]
              congr 1
              funext b
              -- The answer stands before those of the first part, so before those of both.
              exact (BatchEnd.andThen_cons _ (q.id, found) b).symm

theorem runQueries_requested (uiState : Json) (ids : List String) :
    runQueries queries scope uiState ((requested queries ids).map (·.id)) =
      runQueries queries scope uiState ids := by
  induction ids generalizing uiState with
  | nil => rfl
  | cons id ids ih =>
      cases hknown : queries.find? fun q => q.id == id with
      | none => rw [requested_cons_of_unknown hknown, runQueries_of_unknown hknown, ih]
      | some q =>
          obtain rfl := id_of_find? hknown
          rw [requested_cons_of_known hknown, List.map_cons]
          simp only [runQueries, hknown, ih]

/-- A batch of two lists ends and asks like the batch of the first list if that one fails. Otherwise
it goes on like the batch of the second list on the state that the first one commits. Ids without a
query make no difference, wherever they stand. -/
theorem runQueries_in_parts :
    (∀ (uiState : Json) (xs ys : List String) (probe : Probe),
      let first := runQueries queries scope uiState xs
      let whole := runQueries queries scope uiState (xs ++ ys)
      (∀ e, (first.run probe).result = .error e →
        whole.run probe = first.run probe ∧
          whole.transcript probe = first.transcript probe) ∧
      ∀ committed, (first.run probe).result = .ok committed →
        let second := runQueries queries scope committed ys
        whole.run probe =
            ⟨(first.run probe).ran ++ (second.run probe).ran, (second.run probe).result⟩ ∧
          whole.transcript probe = first.transcript probe ++ second.transcript probe) ∧
    ∀ (uiState : Json) (ids ids' : List String), requested queries ids = requested queries ids' →
      runQueries queries scope uiState ids = runQueries queries scope uiState ids' := by
  constructor
  · intro uiState xs ys probe first whole
    have hwhole : whole = first.bind fun b =>
        b.andThen fun committed => runQueries queries scope committed ys :=
      runQueries_append queries scope uiState xs ys
    constructor
    · intro e he
      rw [hwhole, Dialogue.run_bind, Dialogue.transcript_bind, BatchEnd.andThen_of_error _ he]
      exact ⟨rfl, List.append_nil _⟩
    · intro committed hcommitted second
      rw [hwhole, Dialogue.run_bind, Dialogue.transcript_bind, BatchEnd.andThen_of_ok _ hcommitted,
        Dialogue.run_map, Dialogue.transcript_map]
      exact ⟨rfl, rfl⟩
  · intro uiState ids ids' h
    rw [← runQueries_requested queries scope uiState ids, h, runQueries_requested]

/-- Queries of which the second can only be evaluated once the first has found its file. -/
def chainedQueries : List Query :=
  [⟨"draft", .fileExists, .object [("path", .text "draft.txt")], "found.draft"⟩,
    ⟨"final", .fileExists, .object [("path", .operator "if"
      [.binding ⟨"${uiState.found.draft}", ["uiState", "found", "draft"], none⟩,
        .text "final.txt", .operator "now" []])], "found.final"⟩]

def draftProbe : Probe
  | .file path =>
    (if path = "draft.txt" then .ok ⟨path, ""⟩ else .error (.notFound path) :
      Except ProbeError FileContent)
  | .tree root _ => (.error (.notFound root) : Except ProbeError TreeNode)

theorem runQueries_in_parts_chained :
    let scope : QueryScope := ⟨.empty, .empty, .empty⟩
    let batch (ids : List String) := runQueries chainedQueries scope .empty ids
    ((batch ["final"]).run draftProbe).result =
        .error (.input "final" (.unknownOperator "now")) ∧
      (batch (["final"] ++ ["draft"])).transcript draftProbe =
        (batch ["final"]).transcript draftProbe ∧
      (∃ committed, ((batch ["draft"]).run draftProbe).result = .ok committed ∧
        ((batch (["draft"] ++ ["final"])).run draftProbe).ran =
          [("draft", true), ("final", false)] ∧
        (batch (["draft"] ++ ["final"])).transcript draftProbe =
          [.file "draft.txt", .file "final.txt"]) ∧
      batch ["none", "draft", "none"] = batch ["draft"] := by
  intro scope batch
  obtain ⟨hparts, hunknown⟩ := runQueries_in_parts chainedQueries scope
  obtain ⟨hfault, -⟩ := hparts .empty ["final"] ["draft"] draftProbe
  obtain ⟨-, hgoOn⟩ := hparts .empty ["draft"] ["final"] draftProbe
  obtain ⟨hrun, hcalls⟩ := hgoOn _ rfl
  refine ⟨rfl, (hfault _ rfl).2, ⟨_, rfl, ?_, ?_⟩, hunknown _ _ _ rfl⟩
  · exact congrArg BatchEnd.ran hrun
  · exact hcalls

end WidgetDoc
