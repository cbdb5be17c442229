import WidgetDoc.Document
import WidgetDoc.Json.Printer

/-!
# Faults of documents

What can be wrong with a document, with the code and the wording under which each fault is reported.
-/

namespace WidgetDoc

inductive Fault where
  | malformedText
  | undecodable
  | rootNotObject
  | versionMissing
  | versionUnsupported (found : Json)
  | viewMissing
  | viewNotObject
  | viewType
  | childrenNotArray
  | exprsNotObject
  | expr (error : ShapeError)
  | actionsNotArray
  | actionId
  | duplicateAction (id : String)
  | stepNotObject
  | stepId
  | actionKind
  | stepsNotArray (field : String)
  | queriesNotArray
  | queryNotObject
  | queryId
  | duplicateQuery (id : String)
  | queryKind (found : String)
  | queryInput
  | queryTarget

namespace Fault

def code : Fault → String
  | malformedText | undecodable => "A2UI_E_PARSE"
  | rootNotObject => "A2UI_E_ROOT"
  | versionMissing | versionUnsupported _ => "A2UI_E_VERSION"
  | viewMissing | viewNotObject | childrenNotArray | exprsNotObject | actionsNotArray
  | queriesNotArray => "A2UI_E_SHAPE"
  | viewType => "A2UI_E_VIEW_TYPE"
  | expr _ => "A2UI_E_EXPR"
  | actionId | stepNotObject | stepId | actionKind | stepsNotArray _ => "A2UI_E_ACTION"
  | duplicateAction _ | duplicateQuery _ => "A2UI_E_DUPLICATE_ID"
  | queryNotObject | queryId | queryKind _ | queryInput | queryTarget => "A2UI_E_QUERY"

def message : Fault → String
  | malformedText => "invalid JSON"
  | undecodable => "invalid document"
  | rootNotObject => "document must be a JSON object"
  | versionMissing => "specVersion is required"
  | versionUnsupported found =>
    "unsupported specVersion " ++ found.compact ++ "; expected " ++ Json.quote Document.version
  | viewMissing => "view is required"
  | viewNotObject => "view node must be an object"
  | viewType => "view node type must be a non-empty string"
  | childrenNotArray => "children must be an array"
  | exprsNotObject => "must be an object of expressions"
  | expr error => error.reason
  | actionsNotArray => "actions must be an array"
  | actionId => "action id must be a non-empty string"
  | duplicateAction id => "duplicate action id '" ++ id ++ "'"
  | stepNotObject => "action step must be an object"
  | stepId => "step id must be a string"
  | actionKind => "action kind must be a non-empty string"
  | stepsNotArray field => field ++ " must be an array of steps"
  | queriesNotArray => "queries must be an array"
  | queryNotObject => "query must be an object"
  | queryId => "query id must be a non-empty string"
  | duplicateQuery id => "duplicate query id '" ++ id ++ "'"
  | queryKind found =>
    "unsupported query kind '" ++ found
      ++ "'; expected fsTreeSearch, fsDirNonEmpty, or fsFileExists"
  | queryInput => "query input is required"
  | queryTarget => "query output.into must be a string"

end Fault

/-- A fault and the location at which it was found. -/
structure ValidationError where
  fault : Fault
  location : Location

namespace ValidationError

def code (e : ValidationError) : String :=
  e.fault.code

def path (e : ValidationError) : String :=
  e.location.text

def message (e : ValidationError) : String :=
  e.code ++ " at " ++ e.path ++ ": " ++ e.fault.message

end ValidationError

end WidgetDoc
