import WidgetDoc.Expr
import WidgetDoc.Operator

/-!
# Evaluating expressions

`Expr.eval` reads a context and writes nothing. Every level of nesting costs one of the levels that
are allowed, so that no document exhausts the evaluator. Undefined becomes null inside arrays and
is left out of objects.
-/

namespace WidgetDoc

/-- The deepest level at which an expression is evaluated. -/
def maxDepth : Nat := 64

inductive EvalError where
  | tooDeep
  | unknownOperator (name : String)
  deriving DecidableEq

def EvalError.message : EvalError → String
  | tooDeep => "expression exceeds maximum nesting depth of " ++ maxDepth.repr
  | unknownOperator name => "unknown operator '" ++ name ++ "'"

namespace Expr

mutual
/-- The value of an expression at a depth. -/
def eval (ctx : Context) (depth : Nat) (e : Expr) : Except EvalError Value :=
  if maxDepth < depth then .error .tooDeep
  else match e with
    | null => .ok (some .null)
    | bool b => .ok (some (.bool b))
    | number n => .ok (some (.number n))
    | text s => .ok (some (.string s))
    | binding b => .ok (b.resolve ctx)
    | array items => (evalItems ctx (depth + 1) items).map fun xs => some (.array xs)
    | object fields => (evalFields ctx (depth + 1) fields).map fun fs => some (.object fs)
    | operator name args =>
      match Operator.ofName? name with
      | none => .error (.unknownOperator name)
      | some (.unary op) => (evalArg ctx (depth + 1) 0 args).map fun v => some (op.apply v)
      | some (.binary op) =>
        (evalArg ctx (depth + 1) 0 args).bind fun v =>
          (evalArg ctx (depth + 1) 1 args).map fun w => some (.bool (op.apply v w))
      | some .concat => (evalTexts ctx (depth + 1) args).map fun s => some (.string s)
      | some .and => (evalAll ctx (depth + 1) args).map fun b => some (.bool b)
      | some .or => (evalAny ctx (depth + 1) args).map fun b => some (.bool b)
      | some .choose =>
        (evalArg ctx (depth + 1) 0 args).bind fun condition =>
          evalArg ctx (depth + 1) (if Value.truthy condition then 1 else 2) args

def evalItems (ctx : Context) (depth : Nat) : List Expr → Except EvalError (List Json)
  | [] => .ok []
  | e :: es =>
    (e.eval ctx depth).bind fun v =>
      (evalItems ctx depth es).map fun xs => v.getD .null :: xs

def evalFields (ctx : Context) (depth : Nat) :
    List (String × Expr) → Except EvalError (List (String × Json))
  | [] => .ok []
  | (key, e) :: fs =>
    (e.eval ctx depth).bind fun v =>
      (evalFields ctx depth fs).map fun rest =>
        match v with
        | some x => (key, x) :: rest
        | none => rest

/-- The value of the argument at an index; a missing argument is undefined. -/
def evalArg (ctx : Context) (depth : Nat) : Nat → List Expr → Except EvalError Value
  | _, [] => .ok none
  | 0, e :: _ => e.eval ctx depth
  | i + 1, _ :: es => evalArg ctx depth i es

/-- The texts of all arguments, joined. -/
def evalTexts (ctx : Context) (depth : Nat) : List Expr → Except EvalError String
  | [] => .ok ""
  | e :: es =>
    (e.eval ctx depth).bind fun v =>
      (evalTexts ctx depth es).map fun rest => Value.display v ++ rest

/-- Whether all arguments are true; evaluation stops at the first that is not. -/
def evalAll (ctx : Context) (depth : Nat) : List Expr → Except EvalError Bool
  | [] => .ok true
  | e :: es =>
    (e.eval ctx depth).bind fun v => if Value.truthy v then evalAll ctx depth es else .ok false

/-- Whether an argument is true; evaluation stops at the first that is. -/
def evalAny (ctx : Context) (depth : Nat) : List Expr → Except EvalError Bool
  | [] => .ok false
  | e :: es =>
    (e.eval ctx depth).bind fun v => if Value.truthy v then .ok true else evalAny ctx depth es
end

end Expr

/-- Named expressions that are evaluated in order, each seeing the values of those before it. -/
abbrev Computed := List (String × Expr)

namespace Computed

/-- Evaluates entries after those whose values are `done`. -/
def evalAfter (node uiState document : Json) (done : Fields Json) :
    Computed → Except EvalError (Fields Json)
  | [] => .ok done
  | (key, e) :: rest =>
    (e.eval ⟨node, .object done, uiState, document, none⟩ 0).bind fun v =>
      evalAfter node uiState document
        (match v with
          | some x => Fields.set key x done
          | none => done) rest

/-- The object of all values; an entry without a value is missing in it. -/
def eval (computed : Computed) (node uiState document : Json) : Except EvalError Json :=
  (evalAfter node uiState document [] computed).map Json.object

end Computed

end WidgetDoc
