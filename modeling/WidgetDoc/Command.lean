/-!
# Commands

What can be asked of the program on its command line. JSON arguments hold a value or, after an `@`,
the path of a file with one.
-/

namespace WidgetDoc

/-- The host's node and the initial state, as JSON arguments. -/
structure StateArguments where
  node : Option String
  uiState : Option String

inductive Command where
  | check (document : String)
  | eval (expr : String) (state : StateArguments) (event : Option String)
  | render (document : String) (state : StateArguments)
  | query (document : String) (ids : List String) (state : StateArguments)
  | dispatch (document action : String) (state : StateArguments) (event : Option String)

/-- A command and the configuration file it is run with, if one is named. -/
structure Invocation where
  config : Option String
  command : Command

end WidgetDoc
