/-!
# Locations inside a document

A location is the list of steps from the root. Its text is what error reports show: `$` for the root
and `view.children[1].props` for a part.
-/

namespace WidgetDoc

inductive Step where
  | field (name : String)
  | index (i : Nat)
  deriving DecidableEq

def Step.text : Step → String
  | field name => "." ++ name
  | index i => "[" ++ i.repr ++ "]"

abbrev Location := List Step

namespace Location

/-- The text of a location below another one. -/
def relativeText : Location → String
  | [] => ""
  | step :: rest => step.text ++ relativeText rest

/-- The text of a location below the root, which starts with the name of a field. -/
def text : Location → String
  | .field name :: rest => name ++ relativeText rest
  | [] => "$"
  | steps => relativeText steps

theorem relativeText_append (a b : Location) :
    relativeText (a ++ b) = relativeText a ++ relativeText b := by
  induction a with
  | nil => simp [relativeText]
  | cons s a ih => simp [relativeText, ih, String.append_assoc]

end Location

end WidgetDoc
