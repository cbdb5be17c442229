import WidgetDoc.Json.Path
import WidgetDoc.Value

/-!
# Evaluation contexts

What an expression may read: five named values, of which the event is there only while an action
runs. A binding path starts with one of the names.
-/

namespace WidgetDoc

structure Context where
  node : Json
  computed : Json
  uiState : Json
  document : Json
  event : Option Json

namespace Context

/-- The value of a namespace. -/
def root? (ctx : Context) (name : String) : Option Json :=
  if name = "node" then some ctx.node
  else if name = "computed" then some ctx.computed
  else if name = "uiState" then some ctx.uiState
  else if name = "document" then some ctx.document
  else if name = "event" then ctx.event
  else none

/-- The value at a path whose first segment is a namespace. -/
def resolve (ctx : Context) : List String → Value
  | [] => none
  | name :: rest => (ctx.root? name).bind fun j => j.resolve? rest

end Context

end WidgetDoc
