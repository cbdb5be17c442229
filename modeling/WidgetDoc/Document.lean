import WidgetDoc.Expr

/-!
# Documents

A document describes a widget: a tree of view nodes, computed values, actions and queries. Actions
and their steps have one shape.
-/

namespace WidgetDoc

structure ViewNode where
  type : String
  props : List (String × Expr)
  text : Option Expr
  children : List ViewNode

/-- An action or a step of one. `steps` belong to a sequence, `condition` and `branch` to a
conditional. -/
structure Action where
  id : String
  kind : String
  input : Option Expr
  steps : List Action
  condition : Option Expr
  branch : List Action

inductive QueryKind where
  | treeSearch
  | dirNonEmpty
  | fileExists
  deriving DecidableEq

namespace QueryKind

def name : QueryKind → String
  | treeSearch => "fsTreeSearch"
  | dirNonEmpty => "fsDirNonEmpty"
  | fileExists => "fsFileExists"

def all : List QueryKind := [treeSearch, dirNonEmpty, fileExists]

def ofName? (name : String) : Option QueryKind :=
  all.find? fun k => k.name == name

end QueryKind

/-- A question about the file system, whose answer is written at the dot path `target`. -/
structure Query where
  id : String
  kind : QueryKind
  input : Expr
  target : String

structure Document where
  view : ViewNode
  computed : List (String × Expr)
  actions : List Action
  queries : List Query

namespace Document

/-- The only version of the format. -/
def version : String := "0.1"

def action? (d : Document) (id : String) : Option Action :=
  d.actions.find? fun a => a.id == id

def query? (d : Document) (id : String) : Option Query :=
  d.queries.find? fun q => q.id == id

end Document

end WidgetDoc
