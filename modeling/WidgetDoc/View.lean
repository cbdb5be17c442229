import WidgetDoc.Document.Encoding
import WidgetDoc.Evaluation

/-!
# Resolving and rendering views

`ViewNode.resolve` evaluates every expression of a view tree. A registry of components then folds
the resolved tree into an output of any type.
-/

namespace WidgetDoc

/-- A view node whose expressions have been replaced by their values. -/
structure ResolvedNode where
  type : String
  props : List (String × Json)
  text : Value
  children : List ResolvedNode

namespace ResolvedNode

mutual
def toJson : ResolvedNode → Json
  | ⟨type, props, text, children⟩ =>
    .object ([("type", .string type), ("props", .object props)] ++ Encoding.present "text" text
      ++ Encoding.nonEmptyArray "children" (toJsonAll children))

def toJsonAll : List ResolvedNode → List Json
  | [] => []
  | n :: ns => n.toJson :: toJsonAll ns
end

end ResolvedNode

namespace ViewNode

def evalText (ctx : Context) : Option Expr → Except EvalError Value
  | some e => e.eval ctx 0
  | none => .ok none

mutual
/-- Evaluates the props of a node, then its text, then its children. -/
def resolve (ctx : Context) : ViewNode → Except EvalError ResolvedNode
  | ⟨type, props, text, children⟩ =>
    (Expr.evalFields ctx 0 props).bind fun props =>
      (evalText ctx text).bind fun text =>
        (resolveAll ctx children).map fun children => ⟨type, props, text, children⟩

def resolveAll (ctx : Context) : List ViewNode → Except EvalError (List ResolvedNode)
  | [] => .ok []
  | n :: ns => (n.resolve ctx).bind fun r => (resolveAll ctx ns).map fun rs => r :: rs
end

end ViewNode

/-- Builds an output from a node and the outputs of its children. -/
abbrev Component (R : Type) := ResolvedNode → List R → R

/-- Components by type of node, and one for nodes of any other type, which sees no children. -/
structure Registry (R : Type) where
  components : List (String × Component R)
  fallback : Component R

namespace Registry

variable {R : Type}

def new (fallback : Component R) : Registry R :=
  ⟨[], fallback⟩

/-- Registers a component and tells which one it replaced. -/
def register (r : Registry R) (type : String) (component : Component R) :
    Registry R × Option (Component R) :=
  ({ r with components := Fields.set type component r.components }, r.components.lookup type)

def get? (r : Registry R) (type : String) : Option (Component R) :=
  r.components.lookup type

def contains (r : Registry R) (type : String) : Bool :=
  (r.get? type).isSome

mutual
def render (r : Registry R) : ResolvedNode → R
  | ⟨type, props, text, children⟩ =>
    match r.get? type with
    | some component => component ⟨type, props, text, children⟩ (renderAll r children)
    | none => r.fallback ⟨type, props, text, children⟩ []

def renderAll (r : Registry R) : List ResolvedNode → List R
  | [] => []
  | n :: ns => render r n :: renderAll r ns
end

end Registry

end WidgetDoc
