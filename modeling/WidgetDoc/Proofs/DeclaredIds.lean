import Mathlib.Data.List.Nodup
import WidgetDoc.Proofs.HostInfluence
import WidgetDoc.Proofs.RoundTrip

/-!
# Declared ids

A look-up by id takes the first record that has it. No two actions and no two queries of a document
that was read have the same id, so each of them is found by its own, wherever it is declared. A name
that is declared is never taken for a kind.
-/

namespace WidgetDoc

section LookUp

variable {α : Type} {idOf : α → String} {rs : List α} {id : String}

/-- Where no id occurs twice, it does not matter that the first record is taken. -/
theorem find?_eq_some_iff_of_nodup (h : (rs.map idOf).Nodup) {r : α} :
    rs.find? (fun s => idOf s == id) = some r ↔ r ∈ rs ∧ idOf r = id := by
  constructor
  · intro hfind
    have hid := List.find?_some hfind
    exact ⟨List.mem_of_find?_eq_some hfind, eq_of_beq hid⟩
  · rintro ⟨hr, rfl⟩
    obtain ⟨s, hs⟩ : ∃ s, rs.find? (fun s => idOf s == idOf r) = some s := by
      rw [← Option.isSome_iff_exists, List.find?_isSome]
      exact ⟨r, hr, beq_self_eq_true _⟩
    have hid := List.find?_some hs
    rw [hs, List.inj_on_of_nodup_map h (List.mem_of_find?_eq_some hs) hr (eq_of_beq hid)]

theorem find?_eq_none_iff_not_mem_ids :
    rs.find? (fun s => idOf s == id) = none ↔ id ∉ rs.map idOf := by
  simp [List.find?_eq_none]

end LookUp

namespace Document

theorem nodup_ids_of_read {raw : Json} {d : Document} (h : read raw = .ok d) :
    (d.actions.map Action.id).Nodup ∧ (d.queries.map Query.id).Nodup := by
  obtain ⟨fields, -, hdoc, hd⟩ := fields_of_read h
  obtain ⟨-, -, hactions, hqueries⟩ := ofJson?_object_eq_some_iff.mp hd
  cases hdoc with
  | document version shown isView computed actions queries =>
      obtain ⟨hactionIds, -⟩ :=
        ids_of_register actions hactions fun x a id ha => Action.id_of_hasId ha
      obtain ⟨hqueryIds, -⟩ :=
        ids_of_register queries hqueries fun x q id hq => Query.id_of_hasId hq
      exact ⟨hactionIds, hqueryIds⟩

/-- Every action and every query of a document that was read is found by its id, and nothing is
found by another text. To dispatch the id of an action is to run this action, also if a kind has the
same name; only what is no such id is taken for a kind. -/
theorem declared_reachable {raw : Json} {d : Document} (h : read raw = .ok d) :
    (∀ (i : Nat) a, d.actions[i]? = some a → d.action? a.id = some a) ∧
    (∀ (i : Nat) q, d.queries[i]? = some q → d.query? q.id = some q) ∧
    (∀ id, d.action? id = none ↔ id ∉ d.actions.map Action.id) ∧
    (∀ id, d.query? id = none ↔ id ∉ d.queries.map Query.id) ∧
    (∀ (i : Nat) a, d.actions[i]? = some a → ∀ scope uiState,
      d.dispatch scope uiState a.id = a.run scope uiState) ∧
    ∀ name, name ∉ d.actions.map Action.id → ∀ scope uiState,
      d.dispatch scope uiState name = Action.runKind scope uiState name := by
  obtain ⟨hactions, hqueries⟩ := nodup_ids_of_read h
  have haction (i : Nat) (a : Action) (ha : d.actions[i]? = some a) : d.action? a.id = some a :=
    (find?_eq_some_iff_of_nodup hactions).mpr ⟨List.mem_of_getElem? ha, rfl⟩
  have hquery (i : Nat) (q : Query) (hq : d.queries[i]? = some q) : d.query? q.id = some q :=
    (find?_eq_some_iff_of_nodup hqueries).mpr ⟨List.mem_of_getElem? hq, rfl⟩
  refine ⟨haction, hquery, fun id => find?_eq_none_iff_not_mem_ids,
    fun id => find?_eq_none_iff_not_mem_ids, ?_, ?_⟩
  · intro i a ha scope uiState
    rw [dispatch, haction i a ha]
  · intro name hname scope uiState
    have hnone : d.action? name = none := find?_eq_none_iff_not_mem_ids.mpr hname
    rw [dispatch, hnone]

/-- A document with two actions and a query, of which one action has the name of a kind. -/
def shadowing : Json := .object [
  ("specVersion", .string "0.1"), ("view", .object [("type", .string "box")]),
  ("actions", .array [.object [("id", .string "go"), ("kind", .string "ui.toast")],
    .object [("id", .string "ui.toast"), ("kind", .string "state.setUiState"),
      ("input", .object [("path", .string "shown"), ("value", .bool true)])]]),
  ("queries", .array [.object [("id", .string "go"), ("kind", .string "fsFileExists"),
    ("input", .null), ("output", .object [("into", .string "found")])]])]

/-- With the same event, the kind would have made a call to the host. -/
theorem declared_reachable_shadowing : ∃ d a, read shadowing = .ok d ∧ d.actions[1]? = some a ∧
    d.action? "ui.toast" = some a ∧ (d.query? "go").isSome ∧ d.query? "ui.toast" = none ∧
    let scope : ActionScope := { savingScope with event := some (.object [("message", .string "a")]) }
    (d.dispatch scope .empty "ui.toast").runFrom busyHost [] =
        ([], .success (.object [("shown", .bool true)])) ∧
      (Action.runKind scope .empty "ui.toast").runFrom busyHost [] =
        ([.log "a"], .success .empty) := by
  obtain ⟨d, hd⟩ : ∃ d, read shadowing = .ok d := ⟨_, rfl⟩
  obtain ⟨haction, hquery, -, hnone, hdispatch, -⟩ := declared_reachable hd
  have hread := hd
  cases hread
  refine ⟨_, _, rfl, rfl, haction 1 _ rfl, ?_, (hnone "ui.toast").mpr (by decide), ?_, rfl⟩
  · rw [hquery 0 _ rfl]
    rfl
  · rw [hdispatch 1 _ rfl]
    rfl

end Document

end WidgetDoc
