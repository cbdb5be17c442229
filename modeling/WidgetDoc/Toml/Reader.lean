import WidgetDoc.Toml.Scalar

/-!
# Reading TOML

Keys, values and lines. Arrays and inline tables may be nested only so deep, and so may the parts of
a key; this bounds the recursion, and the length of the text bounds every repetition.
-/

namespace WidgetDoc.Toml

/-- The number of levels that may be nested. -/
def nestingLimit : Nat := 79

def isBareKeyChar (c : Char) : Bool :=
  c.isAlphanum || c == '_' || c == '-'

/-- One part of a key. -/
def simpleKey? : Reader String
  | '"' :: rest => basicBody [] rest
  | '\'' :: rest => literalBody [] rest
  | text =>
    let (key, rest) := text.span isBareKeyChar
    if key = [] then none else some (String.ofList key, rest)

/-- The parts of a key that are left after a dot; at most `n` of them. -/
def keyParts? : Nat → Reader (List String)
  | 0, _ => none
  | n + 1, text => do
    let (part, rest) ← simpleKey? (skipBlanks text)
    match skipBlanks rest with
    | '.' :: rest =>
      let (parts, rest) ← keyParts? n rest
      some (part :: parts, rest)
    | rest => some ([part], rest)

/-- A key with the blanks around its parts: the tables it leads through and its last part. -/
def key? (text : List Char) : Option ((List String × String) × List Char) := do
  let (parts, rest) ← keyParts? nestingLimit text
  let last ← parts.getLast?
  some ((parts.dropLast, last), rest)

/-- What follows a comment. -/
def afterComment (text : List Char) : List Char :=
  text.dropWhile isPlain

/-- What follows the blanks, line breaks and comments inside an array. -/
def skipSpace : Nat → List Char → Option (List Char)
  | 0, text => some text
  | n + 1, text =>
    match skipBlanks text with
    | '#' :: rest => (afterNewline? (afterComment rest)).bind (skipSpace n)
    | rest =>
      match afterNewline? rest with
      | some rest => skipSpace n rest
      | none => some rest

/-- The rest of an array, given the reader of its items; at most `n` of them follow. -/
def items? (item : Reader Toml) : Nat → Reader (List Toml)
  | 0, _ => none
  | n + 1, text => do
    match ← skipSpace text.length text with
    | ']' :: rest => some ([], rest)
    | text =>
      let (x, rest) ← item text
      match ← skipSpace rest.length rest with
      | ',' :: rest =>
        let (xs, rest) ← items? item n rest
        some (x :: xs, rest)
      | ']' :: rest => some ([x], rest)
      | _ => none

/-- A key, an equals sign and a value. -/
def keyValue? (value : Reader Toml) (text : List Char) :
    Option ((List String × String × Toml) × List Char) := do
  let ((path, key), rest) ← key? text
  let (v, rest) ← value (skipBlanks (← expect? '=' rest))
  some ((path, key, v), rest)

/-- The rest of an inline table that is not empty, whose entries so far are `entries`. -/
def inlineEntries? (value : Reader Toml) : Nat → Entries → Reader Entries
  | 0, _, _ => none
  | n + 1, entries, text => do
    let ((path, key, v), rest) ← keyValue? value text
    let entries ← assign path key v .inline entries
    match skipBlanks rest with
    | ',' :: rest => inlineEntries? value n entries rest
    | '}' :: rest => some (entries, rest)
    | _ => none

/-- A value in which at most `n` levels are nested. -/
def valueWithin? : Nat → Reader Toml
  | 0, text =>
    match text with
    | '"' :: _ => (string? text).map fun (s, rest) => (string s, rest)
    | '\'' :: _ => (string? text).map fun (s, rest) => (string s, rest)
    | _ => scalar? text
  | n + 1, text =>
    match text with
    | '[' :: rest =>
      (items? (valueWithin? n) text.length rest).map fun (xs, rest) => (array xs, rest)
    | '{' :: rest =>
      match skipBlanks rest with
      | '}' :: rest => some (table .inline [], rest)
      | rest =>
        (inlineEntries? (valueWithin? n) text.length [] rest).map fun (entries, rest) =>
          (table .inline entries, rest)
    | _ => valueWithin? 0 text

def value? : Reader Toml :=
  valueWithin? nestingLimit

/-- What follows the end of a line, which a comment may precede. -/
def afterLine? (text : List Char) : Option (List Char) :=
  let rest := match skipBlanks text with
    | '#' :: rest => afterComment rest
    | rest => rest
  match rest with
  | [] => some []
  | rest => afterNewline? rest

/-- A header, whose opening brackets have been read. -/
def header? (closing : List Char → Option (List Char)) (text : List Char) :
    Option (List String × List Char) := do
  let ((path, key), rest) ← key? text
  let rest ← afterLine? (← closing rest)
  some (path ++ [key], rest)

/-- The lines of a document from the front of a text on; at most `n` of them. -/
def lines? : Nat → Draft → List Char → Option Draft
  | 0, _, _ => none
  | n + 1, d, text =>
    match skipBlanks text with
    | [] => some d
    | '#' :: rest => (afterLine? ('#' :: rest)).bind (lines? n d)
    | '[' :: '[' :: rest => do
      let (path, rest) ← header? (fun t => (expect? ']' t).bind (expect? ']')) rest
      lines? n (← d.openArray path) rest
    | '[' :: rest => do
      let (path, rest) ← header? (expect? ']') rest
      lines? n (← d.openTable path) rest
    | text =>
      match afterNewline? text with
      | some rest => lines? n d rest
      | none => do
        let ((path, key, v), rest) ← keyValue? value? text
        lines? n (← d.assign path key v) (← afterLine? rest)

/-- A byte order mark may precede a document. -/
def skipMark : List Char → List Char
  | c :: rest => if c = '\uFEFF' then rest else c :: rest
  | [] => []

/-- The document that a text writes. -/
def ofText? (text : String) : Option Entries :=
  let text := skipMark text.toList
  (lines? (text.length + 1) .empty text).bind Draft.close

end WidgetDoc.Toml
