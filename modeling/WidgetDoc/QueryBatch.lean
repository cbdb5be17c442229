import WidgetDoc.Document
import WidgetDoc.Dispatch
import WidgetDoc.Probe

/-!
# Running queries

A query asks one question about the file system; whatever keeps the probe from answering counts as
no. A batch runs queries one by one, each seeing the answers written before it, and yields a state
only if every input could be evaluated.
-/

namespace WidgetDoc

/-- The criteria of a tree search; without any, nothing matches. -/
structure TreeMatch where
  type : Option String
  nameEnd : Option String

namespace TreeMatch

/-- Criteria that are no strings count as absent. -/
def ofInput (input : Value) : TreeMatch where
  type := (input.field? "type").bind Json.string?
  nameEnd := (input.field? "nameEndsWith").bind Json.string?

/-- Only files can be asked for by type. -/
def matchesType (m : TreeMatch) (n : TreeNode) : Bool :=
  match m.type with
  | some type => type == "file" && n.isFile
  | none => true

def matchesName (m : TreeMatch) (n : TreeNode) : Bool :=
  match m.nameEnd with
  | some ending => ending.toList.isSuffixOf n.name.toList
  | none => true

def «matches» (m : TreeMatch) (n : TreeNode) : Bool :=
  (m.type.isSome || m.nameEnd.isSome) && m.matchesType n && m.matchesName n

/-- Searches the trees on a stack, every node before its children and in listed order. -/
def search (m : TreeMatch) : List TreeNode → Bool
  | [] => false
  | n :: stack => m.matches n || search m (n.children ++ stack)
  termination_by stack => TreeNode.countAll stack
  decreasing_by
    simp only [TreeNode.countAll, TreeNode.countAll_append, TreeNode.count_eq n]
    omega

end TreeMatch

namespace Query

/-- A text that a probe needs; an empty one is missing. -/
def required? (input : Value) (key : String) : Option String :=
  let text := Value.display (input.field? key)
  if text = "" then none else some text

/-- The depth an input asks for: a natural number of 32 bits, or else the default. -/
def depthOr (default : Nat) (input : Value) : Nat :=
  match input.field? "depth" with
  | some (.number n) => (n.toNat?.filter (· < UInt32.size)).getD default
  | _ => default

def hasEntries : TreeNode → Bool
  | .dir _ _ (_ :: _) => true
  | _ => false

/-- Asks for the tree that an input names and puts a question to it; no tree is a no. -/
def askTree (input : Value) (defaultDepth : Nat) (test : TreeNode → Bool) : ProbeDialogue Bool :=
  match required? input "root" with
  | none => .done false
  | some root =>
    .ask (.tree root (depthOr defaultDepth input)) fun (answer : Except ProbeError TreeNode) =>
      .done (match answer with
        | .ok tree => test tree
        | .error _ => false)

/-- The answer to a query of a kind on an evaluated input. -/
def ask (input : Value) : QueryKind → ProbeDialogue Bool
  | .fileExists =>
    match required? input "path" with
    | none => .done false
    | some path =>
      .ask (.file path) fun (answer : Except ProbeError FileContent) => .done answer.isOk
  | .dirNonEmpty => askTree input 1 hasEntries
  | .treeSearch =>
    let criteria := TreeMatch.ofInput (input.field? "match")
    askTree input 3 fun tree => criteria.search [tree]

/-- The state with an answer written into it. -/
def record (q : Query) (uiState : Json) (found : Bool) : Json :=
  DotPath.set uiState q.target (.bool found)

end Query

inductive QueryError where
  | input (id : String) (e : EvalError)
  | computed (e : EvalError)
  deriving DecidableEq

namespace QueryError

def message : QueryError → String
  | input id e => "query '" ++ id ++ "' input could not be evaluated: " ++ e.message
  | computed e => "computed bindings could not be evaluated: " ++ e.message

/-- The evaluation error behind a query error. -/
def cause : QueryError → EvalError
  | input _ e => e
  | computed e => e

end QueryError

/-- What the queries of one batch share. -/
structure QueryScope where
  node : Json
  computed : Json
  document : Json

def QueryScope.context (scope : QueryScope) (uiState : Json) : Context :=
  ⟨scope.node, scope.computed, uiState, scope.document, none⟩

/-- The queries that ran, with their answers in order, and the state to commit if all inputs could
be evaluated. -/
structure BatchEnd where
  ran : List (String × Bool)
  result : Except QueryError Json

/-- Runs the queries with the given ids in order; an id without a query is skipped. -/
def runQueries (queries : List Query) (scope : QueryScope) (uiState : Json) :
    List String → ProbeDialogue BatchEnd
  | [] => .done ⟨[], .ok uiState⟩
  | id :: ids =>
    match queries.find? fun q => q.id == id with
    | none => runQueries queries scope uiState ids
    | some q =>
      match q.input.eval (scope.context uiState) 0 with
      | .error e => .done ⟨[], .error (.input id e)⟩
      | .ok input =>
        (Query.ask input q.kind).bind fun found =>
          (runQueries queries scope (q.record uiState found) ids).map fun b =>
            { b with ran := (id, found) :: b.ran }

end WidgetDoc
