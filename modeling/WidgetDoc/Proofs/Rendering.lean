import WidgetDoc.Proofs.Fields
import WidgetDoc.View

/-!
# Rendering resolved views

Rendering is a fold from the leaves of a resolved view to its root. Each node is given to the
component that was registered for its type last, or to the fallback if there is none. The fallback
sees no children, so that what stands below such a node does not show.
-/

namespace WidgetDoc

variable {R : Type}

namespace ResolvedNode

@[elab_as_elim, induction_eliminator]
theorem induction {motive : ResolvedNode → Prop}
    (node : ∀ type props text children, (∀ n ∈ children, motive n) →
      motive ⟨type, props, text, children⟩) (n : ResolvedNode) : motive n := by
  match n with
  | ⟨type, props, text, children⟩ =>
      exact node type props text children fun n _ => ResolvedNode.induction node n
termination_by sizeOf n
decreasing_by
  have hn : sizeOf n < sizeOf children := List.sizeOf_lt_of_mem ‹_›
  simp only [ResolvedNode.mk.sizeOf_spec]
  omega

mutual
/-- Applies a component to every node and to what has become of its children. -/
def fold (component : Component R) : ResolvedNode → R
  | ⟨type, props, text, children⟩ =>
    component ⟨type, props, text, children⟩ (foldAll component children)

def foldAll (component : Component R) : List ResolvedNode → List R
  | [] => []
  | n :: ns => n.fold component :: foldAll component ns
end

/-- Two views that differ in nothing but the children of nodes whose type is hidden. -/
inductive SameAbove (hidden : String → Prop) : ResolvedNode → ResolvedNode → Prop where
  | node {type : String} {props : List (String × Json)} {text : Value}
      {children children' : List ResolvedNode}
      (below : List.Forall₂ (SameAbove hidden) children children') :
      SameAbove hidden ⟨type, props, text, children⟩ ⟨type, props, text, children'⟩
  | hidden {type : String} {props : List (String × Json)} {text : Value}
      {children children' : List ResolvedNode} (h : hidden type) :
      SameAbove hidden ⟨type, props, text, children⟩ ⟨type, props, text, children'⟩

end ResolvedNode

/-- The component looks at no part of a node but its type, its props and its text. -/
def Component.Shallow (component : Component R) : Prop :=
  ∀ (type : String) (props : List (String × Json)) (text : Value)
    (children children' : List ResolvedNode),
    component ⟨type, props, text, children⟩ = component ⟨type, props, text, children'⟩

namespace ResolvedNode

variable {hidden : String → Prop} {component : Component R}

theorem foldAll_of_sameAbove {ns ns' : List ResolvedNode}
    (ih : ∀ n ∈ ns, ∀ n', SameAbove hidden n n' → n.fold component = n'.fold component)
    (h : List.Forall₂ (SameAbove hidden) ns ns') : foldAll component ns = foldAll component ns' := by
  induction h with
  | nil => rfl
  | @cons n n' ns ns' hn hns ihns =>
      obtain ⟨ihn, ihrest⟩ := List.forall_mem_cons.mp ih
      rw [foldAll, foldAll, ihn n' hn, ihns ihrest]

/-- A fold does not show what is hidden below nodes whose outputs of children are ignored. -/
theorem fold_of_sameAbove (shallow : component.Shallow)
    (ignores : ∀ n outputs outputs', hidden n.type → component n outputs = component n outputs')
    {n n' : ResolvedNode} (h : SameAbove hidden n n') : n.fold component = n'.fold component := by
  -- The relation goes through lists of children, so that the induction is on the first view.
  induction n generalizing n' with
  | node type props text children ih =>
      cases h with
      | @node _ _ _ _ children' below =>
          rw [fold, fold, shallow type props text children children', foldAll_of_sameAbove ih below]
      | @hidden _ _ _ _ children' h =>
          rw [fold, fold, shallow type props text children children']
          exact ignores _ _ _ h

end ResolvedNode

namespace Registry

/-- Registers components one after the other. -/
def registerAll (r : Registry R) (calls : List (String × Component R)) : Registry R :=
  calls.foldl (fun r call => (r.register call.1 call.2).1) r

/-- The component of the last call that registers one for a type. -/
def lastFor? (calls : List (String × Component R)) (type : String) : Option (Component R) :=
  calls.reverse.lookup type

/-- What the components registered last do together, each at the nodes of its type. -/
def lastOf (fallback : Component R) (calls : List (String × Component R)) : Component R :=
  fun n outputs =>
    match lastFor? calls n.type with
    | some component => component n outputs
    | none => fallback n []

variable {fallback : Component R} {calls : List (String × Component R)} {type : String}

theorem lastFor?_eq_none_iff : lastFor? calls type = none ↔ type ∉ Fields.keys calls := by
  rw [lastFor?, Fields.lookup_eq_none_iff, Fields.keys, Fields.keys, List.map_reverse,
    List.mem_reverse]

theorem mem_of_lastFor? {component : Component R} (h : lastFor? calls type = some component) :
    (type, component) ∈ calls :=
  List.mem_reverse.mp (mem_of_lookup h)

theorem registerAll_cons (r : Registry R) (call : String × Component R) :
    r.registerAll (call :: calls) = (r.register call.1 call.2).1.registerAll calls := rfl

theorem fallback_registerAll (r : Registry R) (calls : List (String × Component R)) :
    (r.registerAll calls).fallback = r.fallback := by
  induction calls generalizing r with
  | nil => rfl
  | cons call calls ih =>
      rw [registerAll_cons, ih]
      rfl

theorem get?_register (r : Registry R) (call : String × Component R) :
    (r.register call.1 call.2).1.get? type = ([call].lookup type).or (r.get? type) := by
  by_cases h : type = call.1
  · subst h
    rw [List.lookup_cons_self]
    exact Fields.lookup_set_self r.components call.1 call.2
  · rw [List.lookup_cons, beq_false_of_ne h]
    exact Fields.lookup_set_of_ne r.components call.2 h

/-- After some calls a registry holds what they registered last, and else what it held before. -/
theorem get?_registerAll (r : Registry R) (calls : List (String × Component R)) :
    (r.registerAll calls).get? type = (lastFor? calls type).or (r.get? type) := by
  induction calls generalizing r with
  | nil => rfl
  | cons call calls ih =>
      rw [registerAll_cons, ih, get?_register, lastFor?, lastFor?, List.reverse_cons,
        List.lookup_append, Option.or_assoc]

theorem get?_new_registerAll (calls : List (String × Component R)) :
    ((new fallback).registerAll calls).get? type = lastFor? calls type := by
  rw [get?_registerAll]
  exact Option.or_none

theorem shallow_lastOf (hfallback : fallback.Shallow)
    (hcalls : ∀ call ∈ calls, call.2.Shallow) : (lastOf fallback calls).Shallow := by
  intro type props text children children'
  funext outputs
  simp only [lastOf]
  cases h : lastFor? calls type with
  | none => exact congrFun (hfallback type props text children children') []
  | some component =>
      have hcomponent := hcalls _ (mem_of_lastFor? h)
      exact congrFun (hcomponent type props text children children') outputs

theorem lastOf_of_not_mem {n : ResolvedNode} (h : n.type ∉ Fields.keys calls) (outputs : List R) :
    lastOf fallback calls n outputs = fallback n [] := by
  rw [lastOf, lastFor?_eq_none_iff.mpr h]

theorem renderAll_eq_foldAll {r : Registry R} {component : Component R} {ns : List ResolvedNode}
    (h : ∀ n ∈ ns, r.render n = n.fold component) :
    renderAll r ns = ResolvedNode.foldAll component ns := by
  induction ns with
  | nil => rfl
  | cons n ns ih =>
      obtain ⟨hn, hns⟩ := List.forall_mem_cons.mp h
      rw [renderAll, ResolvedNode.foldAll, hn, ih hns]

theorem render_eq_fold (n : ResolvedNode) :
    ((new fallback).registerAll calls).render n = n.fold (lastOf fallback calls) := by
  induction n with
  | node type props text children ih =>
      rw [render, ResolvedNode.fold, get?_new_registerAll, lastOf, renderAll_eq_foldAll ih,
        fallback_registerAll]
      rfl

/-- A registry renders a view as the fold of the components registered last. If no component looks
at the children of a node itself, then two views that differ only below nodes of types that were
never registered are rendered alike. Registering one more component reports a replaced one exactly
if there has been a call for its type before. -/
theorem render_registered (fallback : Component R) (calls : List (String × Component R)) :
    (∀ n, ((new fallback).registerAll calls).render n = n.fold (lastOf fallback calls)) ∧
    (fallback.Shallow → (∀ call ∈ calls, call.2.Shallow) →
      ∀ n n', ResolvedNode.SameAbove (· ∉ Fields.keys calls) n n' →
        ((new fallback).registerAll calls).render n =
          ((new fallback).registerAll calls).render n') ∧
    ∀ type component,
      (((new fallback).registerAll calls).register type component).2.isSome ↔
        type ∈ Fields.keys calls := by
  refine ⟨render_eq_fold, ?_, ?_⟩
  · intro hfallback hcalls n n' h
    rw [render_eq_fold, render_eq_fold]
    apply ResolvedNode.fold_of_sameAbove (shallow_lastOf hfallback hcalls) _ h
    intro n outputs outputs' hn
    rw [lastOf_of_not_mem hn, lastOf_of_not_mem hn]
  · intro type component
    have hreport : (((new fallback).registerAll calls).register type component).2 =
        lastFor? calls type := get?_new_registerAll calls
    rw [hreport, ← not_iff_not, Option.not_isSome_iff_eq_none, lastFor?_eq_none_iff]

/-- The type of a node in brackets, and then what its children have become. -/
def tagged (opening closing : String) : Component (List String) :=
  fun n outputs => (opening ++ n.type ++ closing) :: outputs.flatten

theorem shallow_tagged (opening closing : String) : Component.Shallow (tagged opening closing) :=
  fun _ _ _ _ _ => rfl

/-- A row with a chart, for which no component is registered, and a text. -/
def charted (hidden : List ResolvedNode) : ResolvedNode :=
  ⟨"Row", [], none, [⟨"Chart", [], none, hidden⟩, ⟨"Text", [], none, []⟩]⟩

/-- The second component for rows replaces the first, and the text below the chart does not show. -/
theorem render_registered_charted :
    let calls := [("Row", tagged "(" ")"), ("Text", tagged "<" ">"), ("Row", tagged "[" "]")]
    let r := (new (tagged "?" "")).registerAll calls
    r.render (charted []) = ["[Row]", "?Chart", "<Text>"] ∧
      r.render (charted [⟨"Text", [], none, []⟩]) = r.render (charted []) ∧
      (r.register "Text" (tagged "" "")).2.isSome ∧
      ¬(r.register "Chart" (tagged "" "")).2.isSome := by
  intro calls r
  have hcalls : ∀ call ∈ calls, call.2.Shallow := by
    intro call hcall
    simp only [calls, List.mem_cons, List.not_mem_nil, or_false] at hcall
    rcases hcall with rfl | rfl | rfl <;> exact shallow_tagged _ _
  have hsame : ResolvedNode.SameAbove (· ∉ Fields.keys calls)
      (charted [⟨"Text", [], none, []⟩]) (charted []) := by
    apply ResolvedNode.SameAbove.node
    have hchart : "Chart" ∉ Fields.keys calls := by simp [calls, Fields.keys]
    exact .cons (.hidden hchart) (.cons (.node .nil) .nil)
  obtain ⟨-, hrender, hreport⟩ := render_registered (tagged "?" "") calls
  refine ⟨by decide, hrender (shallow_tagged _ _) hcalls _ _ hsame, ?_, ?_⟩
  · apply (hreport "Text" _).mpr
    simp [calls, Fields.keys]
  · rw [hreport]
    simp [calls, Fields.keys]

end Registry

end WidgetDoc
