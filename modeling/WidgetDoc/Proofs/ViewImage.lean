import WidgetDoc.Proofs.ExprParts
import WidgetDoc.Proofs.Occurrences
import WidgetDoc.View

/-!
# The image of a view

Resolving a view either fails with the error of the first of its expressions that has one, or gives
a tree of the same shape in which every node shows the values of the expressions of the node at its
position.
-/

namespace WidgetDoc

/-- The value of an expression, if it has one that is defined. -/
def Expr.value? (ctx : Context) (e : Expr) : Value :=
  (e.eval ctx 0).toOption.join

namespace Expr

variable {ctx : Context}

theorem value?_of_eval {e : Expr} {v : Value} (h : e.eval ctx 0 = .ok v) : e.value? ctx = v := by
  rw [value?, h]
  rfl

/-- The fields that have a defined value, with their values. -/
def definedFields (ctx : Context) (fields : List (String × Expr)) : List (String × Json) :=
  fields.filterMap fun f => (f.2.value? ctx).map fun x => (f.1, x)

theorem evalFields_eq_definedFields {fields : List (String × Expr)}
    {values : List (String × Json)} (h : evalFields ctx 0 fields = .ok values) :
    values = definedFields ctx fields := by
  induction fields generalizing values with
  | nil => exact (Except.ok.inj h).symm
  | cons f fields ih =>
      obtain ⟨key, e⟩ := f
      obtain ⟨v, hv, hrest⟩ := bind_eq_ok_iff.mp h
      obtain ⟨rest, hfields, rfl⟩ := map_eq_ok_iff.mp hrest
      rw [definedFields, List.filterMap_cons, value?_of_eval hv, ih hfields]
      cases v with
      | none => rfl
      | some x => rfl

end Expr

namespace ViewNode

variable {ctx : Context}

/-! ## Failure -/

theorem error?_evalText (text : Option Expr) :
    error? (evalText ctx text) = Expr.firstError? ctx 0 text.toList := by
  cases text with
  | none => rfl
  | some e =>
      rw [Option.toList_some, Expr.firstError?_cons]
      exact (Option.or_none).symm

theorem error?_resolveAll {ns : List ViewNode}
    (h : ∀ n ∈ ns, error? (n.resolve ctx) = Expr.firstError? ctx 0 n.exprs) :
    error? (resolveAll ctx ns) = Expr.firstError? ctx 0 (exprsOfAll ns) := by
  induction ns with
  | nil => rfl
  | cons n ns ih =>
      obtain ⟨hn, hns⟩ := List.forall_mem_cons.mp h
      rw [resolveAll, exprsOfAll, Expr.firstError?_append, ← hn, ← ih hns]
      exact error?_bind fun r => error?_map _ _

/-- A view fails as the first of its expressions that does. -/
theorem error?_resolve (n : ViewNode) :
    error? (n.resolve ctx) = Expr.firstError? ctx 0 n.exprs := by
  induction n with
  | node type props text children ih =>
      rw [resolve, exprs, Expr.firstError?_append, Expr.firstError?_append, Option.or_assoc,
        ← Expr.error?_evalFields, ← error?_evalText, ← error?_resolveAll ih]
      exact error?_bind fun props => error?_bind fun text => error?_map _ _

theorem succeeds_resolve_iff {n : ViewNode} :
    Succeeds (n.resolve ctx) ↔ ∀ e ∈ n.exprs, Succeeds (e.eval ctx 0) := by
  rw [← error?_eq_none_iff, error?_resolve, Expr.firstError?_eq_none_iff]

end ViewNode

/-! ## Success -/

/-- The node at a position, which says the children to go down to. -/
def ViewNode.at? : List Nat → ViewNode → Option ViewNode
  | [], n => some n
  | i :: position, n => n.children[i]?.bind (at? position)

def ResolvedNode.at? : List Nat → ResolvedNode → Option ResolvedNode
  | [], n => some n
  | i :: position, n => n.children[i]?.bind (at? position)

/-- What a node of a resolved view has of the node that it stands for. -/
structure ViewNode.ShownBy (ctx : Context) (n : ViewNode) (r : ResolvedNode) : Prop where
  type : r.type = n.type
  props : r.props = Expr.definedFields ctx n.props
  text : r.text = n.text.bind fun e => e.value? ctx
  children : r.children.length = n.children.length

namespace ViewNode

variable {ctx : Context}

theorem evalText_eq_value {text : Option Expr} {v : Value} (h : evalText ctx text = .ok v) :
    v = text.bind fun e => e.value? ctx := by
  cases text with
  | none => exact (Except.ok.inj h).symm
  | some e => exact (Expr.value?_of_eval h).symm

theorem resolveAll_eq_ok_iff {ns : List ViewNode} {rs : List ResolvedNode} :
    resolveAll ctx ns = .ok rs ↔ List.Forall₂ (fun n r => n.resolve ctx = .ok r) ns rs := by
  induction ns generalizing rs with
  | nil => cases rs <;> simp [resolveAll]
  | cons n ns ih =>
      simp only [resolveAll, bind_eq_ok_iff, map_eq_ok_iff, ih, List.forall₂_cons_left_iff]
      constructor
      · rintro ⟨r, hr, rs, hrs, rfl⟩
        exact ⟨r, rs, hr, hrs, rfl⟩
      · rintro ⟨r, rs, hr, hrs, rfl⟩
        exact ⟨r, hr, rs, hrs, rfl⟩

/-- A view that is resolved shows its root, and its children are resolved. -/
theorem shownBy_of_resolve {n : ViewNode} {r : ResolvedNode} (h : n.resolve ctx = .ok r) :
    n.ShownBy ctx r ∧
      List.Forall₂ (fun n r => n.resolve ctx = .ok r) n.children r.children := by
  obtain ⟨type, props, text, children⟩ := n
  obtain ⟨props', hprops, h⟩ := bind_eq_ok_iff.mp h
  obtain ⟨text', htext, h⟩ := bind_eq_ok_iff.mp h
  obtain ⟨children', hchildren, rfl⟩ := map_eq_ok_iff.mp h
  have hall := resolveAll_eq_ok_iff.mp hchildren
  exact ⟨⟨rfl, Expr.evalFields_eq_definedFields hprops, evalText_eq_value htext,
    hall.length_eq.symm⟩, hall⟩

theorem rel_at? {n : ViewNode} {r : ResolvedNode} (h : n.resolve ctx = .ok r)
    (position : List Nat) :
    Option.Rel (ShownBy ctx) (n.at? position) (r.at? position) := by
  -- What is carried down is that a node is resolved: that it is shown says too little of its parts.
  induction position generalizing n r with
  | nil => exact .some (shownBy_of_resolve h).1
  | cons i position ih =>
      have hrel := rel_getElem?_of_forall₂ (shownBy_of_resolve h).2 i
      rw [at?, ResolvedNode.at?]
      generalize n.children[i]? = child, r.children[i]? = child' at hrel ⊢
      cases hrel with
      | none => exact .none
      | some hchild => exact ih hchild

/-- A view is resolved if all its expressions have a value or are undefined, however deep they
stand in it, and fails as the first of them that fails: the props of a node, then its text, then the
expressions of its children. What it is resolved to has the same nodes at the same positions, with
the types and the defined props and texts of those that they stand for. -/
theorem resolve_image (n : ViewNode) (ctx : Context) :
    (Succeeds (n.resolve ctx) ↔ ∀ e ∈ n.exprs, Succeeds (e.eval ctx 0)) ∧
    (∀ err, n.resolve ctx = .error err ↔ ∃ before e after, n.exprs = before ++ e :: after ∧
      (∀ b ∈ before, Succeeds (b.eval ctx 0)) ∧ e.eval ctx 0 = .error err) ∧
    ∀ r, n.resolve ctx = .ok r →
      ∀ position, Option.Rel (ShownBy ctx) (n.at? position) (r.at? position) := by
  refine ⟨succeeds_resolve_iff, fun err => ?_, fun r hr position => rel_at? hr position⟩
  rw [← error?_eq_some_iff, error?_resolve, Expr.firstError?_eq_some_iff]

/-- A node with a title above one with a label and an undefined prop. -/
def titled (title label : Expr) : ViewNode :=
  ⟨"Panel", [], some title, [⟨"Badge",
    [("label", label), ("gone", .binding ⟨"$\x7bnode.gone\x7d", ["node", "gone"], none⟩)],
    none, []⟩]⟩

theorem resolve_image_titled :
    let ctx : Context := ⟨.empty, .empty, .empty, .empty, none⟩
    let badge : ResolvedNode := ⟨"Badge", [("label", .string "new")], none, []⟩
    (titled (.text "News") (.text "new")).resolve ctx =
        .ok ⟨"Panel", [], some (.string "News"), [badge]⟩ ∧
      (∀ child, (titled (.text "News") (.text "new")).at? [0] = some child →
        child.ShownBy ctx badge) ∧
      (titled (.operator "nope" []) (.operator "never" [])).resolve ctx =
        .error (.unknownOperator "nope") := by
  intro ctx badge
  have hresolve : (titled (.text "News") (.text "new")).resolve ctx =
      .ok ⟨"Panel", [], some (.string "News"), [badge]⟩ := rfl
  refine ⟨hresolve, ?_, ?_⟩
  · rintro child hchild
    have hrel := (resolve_image _ ctx).2.2 _ hresolve [0]
    rw [hchild] at hrel
    cases hrel with
    | some h => exact h
  · refine ((resolve_image _ ctx).2.1 _).mpr ⟨[], .operator "nope" [], _, rfl, ?_, rfl⟩
    exact fun b hb => absurd hb List.not_mem_nil

end ViewNode

end WidgetDoc
