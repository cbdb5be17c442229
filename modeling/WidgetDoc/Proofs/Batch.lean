import WidgetDoc.Proofs.ObjectPaths
import WidgetDoc.Proofs.Replies
import WidgetDoc.QueryBatch

/-!
# What a batch commits

A batch that succeeds has run all the queries that its ids name, and it commits the state in which
their answers have been recorded one after the other. An answer stays where it has been recorded
until another one is recorded above it, below it or at the same path.
-/

namespace WidgetDoc

namespace DotPath

variable {path : String}

theorem set_of_nil (h : segments path = []) (root value : Json) : set root path value = root := by
  rw [set, h]

theorem set_eq_write (h : segments path ≠ []) (root value : Json) :
    set root path value = Json.write value (segments path) root := by
  rw [set]
  split
  · next hnil => exact absurd hnil h
  · next segment rest hcons => rw [hcons]

end DotPath

/-- The queries that the ids of a batch name, in order. -/
def requested (queries : List Query) (ids : List String) : List Query :=
  ids.filterMap fun id => queries.find? fun q => q.id == id

theorem id_of_find? {queries : List Query} {id : String} {q : Query}
    (h : queries.find? (fun q => q.id == id) = some q) : q.id = id := by
  have hid := List.find?_some h
  exact eq_of_beq hid

theorem mem_requested_iff {queries : List Query} {ids : List String} {q : Query} :
    q ∈ requested queries ids ↔ q.id ∈ ids ∧ queries.find? (fun r => r.id == q.id) = some q := by
  rw [requested, List.mem_filterMap]
  constructor
  · rintro ⟨id, hid, hq⟩
    obtain rfl := id_of_find? hq
    exact ⟨hid, hq⟩
  · rintro ⟨hid, hq⟩
    exact ⟨q.id, hid, hq⟩

/-- Among the queries of a batch, the id decides. -/
theorem eq_of_mem_requested {queries : List Query} {ids : List String} {q q' : Query}
    (hq : q ∈ requested queries ids) (hq' : q' ∈ requested queries ids) (hid : q.id = q'.id) :
    q = q' := by
  obtain ⟨-, hfind⟩ := mem_requested_iff.mp hq
  obtain ⟨-, hfind'⟩ := mem_requested_iff.mp hq'
  rw [hid, hfind'] at hfind
  exact Option.some.inj hfind.symm

theorem mem_ids_requested_iff {queries : List Query} {ids : List String} {id : String} :
    id ∈ (requested queries ids).map (·.id) ↔ id ∈ ids ∧ ∃ q ∈ queries, q.id = id := by
  rw [List.mem_map]
  constructor
  · rintro ⟨q, hq, rfl⟩
    obtain ⟨hid, hfind⟩ := mem_requested_iff.mp hq
    exact ⟨hid, q, List.mem_of_find?_eq_some hfind, rfl⟩
  · rintro ⟨hid, q, hq, rfl⟩
    have hsome : (queries.find? fun r => r.id == q.id).isSome := by
      rw [List.find?_isSome]
      exact ⟨q, hq, beq_self_eq_true q.id⟩
    obtain ⟨r, hr⟩ := Option.isSome_iff_exists.mp hsome
    have hrid := id_of_find? hr
    exact ⟨r, mem_requested_iff.mpr ⟨hrid ▸ hid, hrid ▸ hr⟩, hrid⟩

theorem requested_perm (queries : List Query) {ids ids' : List String} (h : ids.Perm ids') :
    (requested queries ids).Perm (requested queries ids') :=
  h.filterMap _

/-! ## One step of a batch -/

section Step

variable {queries : List Query} {id : String} {q : Query}

theorem requested_cons_of_unknown (h : queries.find? (fun q => q.id == id) = none)
    (ids : List String) : requested queries (id :: ids) = requested queries ids := by
  rw [requested, List.filterMap_cons, h]
  rfl

theorem requested_cons_of_known (h : queries.find? (fun q => q.id == id) = some q)
    (ids : List String) : requested queries (id :: ids) = q :: requested queries ids := by
  rw [requested, List.filterMap_cons, h]
  rfl

theorem runQueries_of_unknown (h : queries.find? (fun q => q.id == id) = none)
    (scope : QueryScope) (uiState : Json) (ids : List String) :
    runQueries queries scope uiState (id :: ids) = runQueries queries scope uiState ids := by
  rw [runQueries, h]

theorem runQueries_of_fault (h : queries.find? (fun q => q.id == id) = some q)
    {scope : QueryScope} {uiState : Json} {e : EvalError}
    (he : q.input.eval (scope.context uiState) 0 = .error e) (ids : List String) :
    runQueries queries scope uiState (id :: ids) = .done ⟨[], .error (.input q.id e)⟩ := by
  obtain rfl := id_of_find? h
  simp only [runQueries, h, he]

theorem runQueries_of_input (h : queries.find? (fun q => q.id == id) = some q)
    {scope : QueryScope} {uiState : Json} {input : Value}
    (hinput : q.input.eval (scope.context uiState) 0 = .ok input) (ids : List String) :
    runQueries queries scope uiState (id :: ids) =
      (Query.ask input q.kind).bind fun found =>
        (runQueries queries scope (q.record uiState found) ids).map fun b =>
          { b with ran := (q.id, found) :: b.ran } := by
  obtain rfl := id_of_find? h
  simp only [runQueries, h, hinput]

end Step

/-! ## Recording answers -/

namespace Query

variable {q q' : Query}

/-- Neither query records its answer at or above the path of the other. An answer without a path is
not recorded. -/
def Apart (q q' : Query) : Prop :=
  DotPath.segments q.target ≠ [] → DotPath.segments q'.target ≠ [] →
    Diverge (DotPath.segments q.target) (DotPath.segments q'.target)

instance (q q' : Query) : Decidable (q.Apart q') :=
  inferInstanceAs (Decidable (_ → _ → _))

/-- The state with the answers to some queries recorded in it, one after the other. -/
def recordAll (uiState : Json) (answers : List (Query × Bool)) : Json :=
  answers.foldl (fun u a => a.1.record u a.2) uiState

theorem recordAll_cons (uiState : Json) (a : Query × Bool) (answers : List (Query × Bool)) :
    recordAll uiState (a :: answers) = recordAll (a.1.record uiState a.2) answers :=
  rfl

theorem recordAll_append (uiState : Json) (before after : List (Query × Bool)) :
    recordAll uiState (before ++ after) = recordAll (recordAll uiState before) after :=
  List.foldl_append

theorem record_wellFormed (q : Query) {uiState : Json} (h : uiState.WellFormed) (found : Bool) :
    (q.record uiState found).WellFormed := by
  by_cases hpath : DotPath.segments q.target = []
  · rw [record, DotPath.set_of_nil hpath]
    exact h
  · rw [record, DotPath.set_eq_write hpath]
    have hfound : (Json.bool found).WellFormed := trivial
    exact hfound.write _ h

theorem recordAll_wellFormed {uiState : Json} (h : uiState.WellFormed)
    (answers : List (Query × Bool)) : (recordAll uiState answers).WellFormed := by
  induction answers generalizing uiState with
  | nil => exact h
  | cons a answers ih => exact ih (a.1.record_wellFormed h a.2)

theorem reach?_record_self (hpath : DotPath.segments q.target ≠ []) (uiState : Json)
    (found : Bool) :
    (q.record uiState found).reach? (DotPath.segments q.target) = some (.bool found) := by
  rw [record, DotPath.set_eq_write hpath]
  exact Json.reach?_write_self _ _ _

theorem reach?_record_of_apart (h : q.Apart q') (hpath : DotPath.segments q.target ≠ [])
    (uiState : Json) (found : Bool) :
    (q'.record uiState found).reach? (DotPath.segments q.target) =
      uiState.reach? (DotPath.segments q.target) := by
  by_cases hpath' : DotPath.segments q'.target = []
  · rw [record, DotPath.set_of_nil hpath']
  · rw [record, DotPath.set_eq_write hpath']
    exact Json.reach?_write_of_diverge (h hpath hpath').symm _ _

/-- Answers that are recorded apart from a path leave alone what it reaches. -/
theorem reach?_recordAll_of_apart {answers : List (Query × Bool)}
    (h : ∀ a ∈ answers, q.Apart a.1) (hpath : DotPath.segments q.target ≠ []) (uiState : Json) :
    (recordAll uiState answers).reach? (DotPath.segments q.target) =
      uiState.reach? (DotPath.segments q.target) := by
  induction answers generalizing uiState with
  | nil => rfl
  | cons a answers ih =>
      obtain ⟨ha, hanswers⟩ := List.forall_mem_cons.mp h
      rw [recordAll_cons, ih hanswers, reach?_record_of_apart ha hpath]

theorem reach?_recordAll {before after : List (Query × Bool)} {found : Bool}
    (h : ∀ a ∈ after, q.Apart a.1) (hpath : DotPath.segments q.target ≠ []) (uiState : Json) :
    (recordAll uiState (before ++ (q, found) :: after)).reach? (DotPath.segments q.target) =
      some (.bool found) := by
  rw [recordAll_append, recordAll_cons, reach?_recordAll_of_apart h hpath,
    reach?_record_self hpath]

end Query

/-! ## Batches that succeed -/

/-- Every query has reported an answer, and the answers have been recorded one after the other. -/
def Recorded (asked : List Query) (uiState : Json) (ran : List (String × Bool))
    (committed : Json) : Prop :=
  ∃ answers : List (Query × Bool), answers.map (·.1) = asked ∧
    ran = answers.map (fun a => (a.1.id, a.2)) ∧ committed = Query.recordAll uiState answers

theorem Recorded.nil (uiState : Json) : Recorded [] uiState [] uiState :=
  ⟨[], rfl, rfl, rfl⟩

theorem Recorded.cons {asked : List Query} {q : Query} {found : Bool} {uiState committed : Json}
    {ran : List (String × Bool)} (h : Recorded asked (q.record uiState found) ran committed) :
    Recorded (q :: asked) uiState ((q.id, found) :: ran) committed := by
  obtain ⟨answers, rfl, rfl, rfl⟩ := h
  exact ⟨(q, found) :: answers, rfl, rfl, rfl⟩

theorem Recorded.ids {asked : List Query} {uiState committed : Json} {ran : List (String × Bool)}
    (h : Recorded asked uiState ran committed) : ran.map (·.1) = asked.map (·.id) := by
  obtain ⟨answers, rfl, rfl, -⟩ := h
  rw [List.map_map, List.map_map]
  rfl

/-- A batch fails, or all the queries that it names answer. -/
theorem runQueries_recorded (queries : List Query) (scope : QueryScope) (uiState : Json)
    (ids : List String) : (runQueries queries scope uiState ids).Always fun b =>
      ∀ committed, b.result = .ok committed →
        Recorded (requested queries ids) uiState b.ran committed := by
  induction ids generalizing uiState with
  | nil =>
      rintro committed ⟨rfl⟩
      exact .nil uiState
  | cons id ids ih =>
      cases hknown : queries.find? fun q => q.id == id with
      | none =>
          rw [runQueries_of_unknown hknown, requested_cons_of_unknown hknown]
          exact ih uiState
      | some q =>
          rw [requested_cons_of_known hknown]
          cases hinput : q.input.eval (scope.context uiState) 0 with
          | error e =>
              rw [runQueries_of_fault hknown hinput]
              rintro committed ⟨⟩
          | ok input =>
              rw [runQueries_of_input hknown hinput]
              refine (Dialogue.always_true _).bind fun found _ => ?_
              have hrest := ih (q.record uiState found)
              exact hrest.map fun b hb committed hcommitted => (hb committed hcommitted).cons

end WidgetDoc
