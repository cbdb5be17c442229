import WidgetDoc.Context
import WidgetDoc.Text.Word

/-!
# Bindings

A string `${path}` reads a path of the context; with `==` or `!=` and a literal it compares
what it reads. Any other string stands for itself.
-/

namespace WidgetDoc

inductive Comparator where
  | equal
  | unequal
  deriving DecidableEq

/-- The literal is undefined when its text has none of the accepted forms. -/
structure Comparison where
  comparator : Comparator
  literal : Value

/-- A binding, with the text it was read from. -/
structure Binding where
  raw : String
  path : List String
  comparison : Option Comparison

namespace Binding

/-- The text between two equal quotes. -/
def unquote? (quote : Char) : List Char → Option (List Char)
  | c :: rest =>
    if c = quote ∧ rest.getLast? = some quote then some rest.dropLast else none
  | [] => none

/-- An integer of 64 bits with a sign. -/
def signedInteger? (n : Int) : Option Number :=
  if h : FitsSigned n then some (.integer n h.fitsWord) else none

/-- A decimal number: an integer if it is written as one and fits, otherwise the nearest double. -/
def number? (text : List Char) : Option Number :=
  let (negative, digits) := match text with
    | '-' :: rest => (true, rest)
    | text => (false, text)
  let (whole, rest) := Decimal.spanDigits digits
  let nearest (fraction : List Char) : Option Number :=
    (Decimal.toDouble? ⟨negative, Decimal.ofDigits (whole ++ fraction), -fraction.length⟩).map
      Number.double
  if whole = [] then none
  else match rest with
    | [] =>
      let n := Decimal.ofDigits whole
      (signedInteger? (if negative then -(n : Int) else n)).or (nearest [])
    | c :: fraction =>
      if c = '.' ∧ fraction ≠ [] ∧ fraction.all Char.isDigit then nearest fraction else none

/-- The value of a literal without blanks around it. -/
def literalOf (text : List Char) : Value :=
  match (unquote? '\'' text).or (unquote? '"' text) with
  | some inner => some (.string (String.ofList inner))
  | none =>
    if text = ['t', 'r', 'u', 'e'] then some (.bool true)
    else if text = ['f', 'a', 'l', 's', 'e'] then some (.bool false)
    else if text = ['n', 'u', 'l', 'l'] then some .null
    else (number? text).map Json.number

/-- A character that may start a path. -/
def isPathStart (c : Char) : Bool :=
  c.isAlpha || c == '_' || c == '$'

/-- A character that may continue a segment. -/
def isPathChar (c : Char) : Bool :=
  Text.isWord c || c == '$'

/-- The segments of the text of a path. -/
def pathOf? (text : List Char) : Option (List String) :=
  let segments := Text.pieces '.' text
  if segments.all (· ≠ []) ∧ text.head?.any isPathStart then some (segments.map String.ofList)
  else none

/-- The comparison that follows a path, if anything does; `none` when it is malformed. -/
def comparisonOf? : List Char → Option (Option Comparison)
  | [] => some none
  | first :: second :: rest =>
    let literal := Text.trim rest
    if second ≠ '=' ∨ '\n' ∈ literal then none
    else if first = '=' then some (some ⟨.equal, literalOf literal⟩)
    else if first = '!' then some (some ⟨.unequal, literalOf literal⟩)
    else none
  | _ => none

/-- The path and the comparison between the braces. -/
def partsOf? (inner : List Char) : Option (List String × Option Comparison) :=
  let (path, rest) := (Text.trimLeft inner).span fun c => isPathChar c || c == '.'
  (pathOf? path).bind fun segments =>
    (comparisonOf? (Text.trimLeft rest)).map fun comparison => (segments, comparison)

/-- The text between the braces. -/
def inside? : List Char → Option (List Char)
  | '$' :: '{' :: rest => if rest.getLast? = some '}' then some rest.dropLast else none
  | _ => none

/-- The binding that a string spells, if it spells one. -/
def ofString? (raw : String) : Option Binding :=
  ((inside? raw.toList).bind partsOf?).map fun (path, comparison) => ⟨raw, path, comparison⟩

/-- The value of a binding. -/
def resolve (b : Binding) (ctx : Context) : Value :=
  match b.comparison with
  | none => ctx.resolve b.path
  | some ⟨.equal, literal⟩ => some (.bool (Value.same (ctx.resolve b.path) literal))
  | some ⟨.unequal, literal⟩ => some (.bool (!Value.same (ctx.resolve b.path) literal))

end Binding

end WidgetDoc
