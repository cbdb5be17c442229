import WidgetDoc.Document

/-!
# The expressions of a document

`Document.exprs` lists every expression that a document holds: in its view, among its computed
values, in its actions at any depth of steps, and as the inputs of its queries.
-/

namespace WidgetDoc

namespace ViewNode

mutual
def exprs : ViewNode → List Expr
  | ⟨_, props, text, children⟩ => props.map (·.2) ++ text.toList ++ exprsOfAll children

def exprsOfAll : List ViewNode → List Expr
  | [] => []
  | n :: ns => n.exprs ++ exprsOfAll ns
end

theorem mem_exprsOfAll {e : Expr} {ns : List ViewNode} :
    e ∈ exprsOfAll ns ↔ ∃ n ∈ ns, e ∈ n.exprs := by
  induction ns with
  | nil => simp [exprsOfAll]
  | cons n ns ih => simp [exprsOfAll, ih]

theorem mem_exprs {e : Expr} {n : ViewNode} :
    e ∈ n.exprs ↔
      (∃ f ∈ n.props, f.2 = e) ∨ n.text = some e ∨ ∃ child ∈ n.children, e ∈ child.exprs := by
  obtain ⟨type, props, text, children⟩ := n
  simp [exprs, mem_exprsOfAll]

end ViewNode

namespace Action

mutual
def exprs : Action → List Expr
  | ⟨_, _, input, steps, condition, branch⟩ =>
    input.toList ++ condition.toList ++ exprsOfAll steps ++ exprsOfAll branch

def exprsOfAll : List Action → List Expr
  | [] => []
  | a :: as => a.exprs ++ exprsOfAll as
end

theorem mem_exprsOfAll {e : Expr} {as : List Action} :
    e ∈ exprsOfAll as ↔ ∃ a ∈ as, e ∈ a.exprs := by
  induction as with
  | nil => simp [exprsOfAll]
  | cons a as ih => simp [exprsOfAll, ih]

theorem mem_exprs {e : Expr} {a : Action} :
    e ∈ a.exprs ↔ a.input = some e ∨ a.condition = some e ∨
      (∃ step ∈ a.steps, e ∈ step.exprs) ∨ ∃ step ∈ a.branch, e ∈ step.exprs := by
  obtain ⟨id, kind, input, steps, condition, branch⟩ := a
  simp [exprs, mem_exprsOfAll]

end Action

namespace Document

def exprs (d : Document) : List Expr :=
  d.view.exprs ++ d.computed.map (·.2) ++ d.actions.flatMap Action.exprs ++
    d.queries.map Query.input

variable {d : Document}

theorem mem_exprs_of_view {e : Expr} (h : e ∈ d.view.exprs) : e ∈ d.exprs := by
  simp [exprs, h]

theorem mem_exprs_of_computed {f : String × Expr} (h : f ∈ d.computed) : f.2 ∈ d.exprs := by
  have hmap : f.2 ∈ d.computed.map (·.2) := List.mem_map_of_mem h
  simp only [exprs, List.mem_append, hmap, or_true, true_or]

theorem mem_exprs_of_action {a : Action} (ha : a ∈ d.actions) {e : Expr} (h : e ∈ a.exprs) :
    e ∈ d.exprs := by
  have hflat : e ∈ d.actions.flatMap Action.exprs := List.mem_flatMap.mpr ⟨a, ha, h⟩
  simp only [exprs, List.mem_append, hflat, or_true, true_or]

theorem mem_exprs_of_query {q : Query} (h : q ∈ d.queries) : q.input ∈ d.exprs := by
  have hmap : q.input ∈ d.queries.map Query.input := List.mem_map_of_mem h
  simp only [exprs, List.mem_append, hmap, or_true]

end Document

end WidgetDoc
