import WidgetDoc.Decimal.Text
import WidgetDoc.Toml
import WidgetDoc.Word

/-!
# Scalars of TOML

Strings in their four forms, integers in four bases, floats and dates. Every reader takes the front
of a text and returns what follows.
-/

namespace WidgetDoc.Toml

/-- Reads the front of a text. -/
abbrev Reader (α : Type) := List Char → Option (α × List Char)

def isBlank (c : Char) : Bool :=
  c == ' ' || c == '\t'

def skipBlanks (text : List Char) : List Char :=
  text.dropWhile isBlank

/-- What follows a line break at the front. -/
def afterNewline? : List Char → Option (List Char)
  | '\n' :: rest => some rest
  | '\r' :: '\n' :: rest => some rest
  | _ => none

/-- A character that may stand for itself in a line: no control character except a tab. -/
def isPlain (c : Char) : Bool :=
  c == '\t' || (0x20 ≤ c.toNat && c.toNat != 0x7F)

def hexDigit? (c : Char) : Option Nat :=
  if c.isDigit then some (c.toNat - '0'.toNat)
  else if 'a' ≤ c ∧ c ≤ 'f' then some (c.toNat - 'a'.toNat + 10)
  else if 'A' ≤ c ∧ c ≤ 'F' then some (c.toNat - 'A'.toNat + 10)
  else none

/-- The character that hexadecimal digits name, if it is a scalar value. -/
def charOfHex? (digits : List Char) : Option Char := do
  let values ← digits.mapM hexDigit?
  let code := values.foldl (fun n d => 16 * n + d) 0
  if code.isValidChar then some (Char.ofNat code) else none

/-- The character of a one-letter escape. -/
def escaped? : Char → Option Char
  | 'b' => some '\x08'
  | 't' => some '\t'
  | 'n' => some '\n'
  | 'f' => some '\x0c'
  | 'r' => some '\r'
  | '"' => some '"'
  | '\\' => some '\\'
  | _ => none

/-- What follows the opening quote of a one-line basic string; `chars` are those read, reversed. -/
def basicBody (chars : List Char) : Reader String
  | '"' :: rest => some (String.ofList chars.reverse, rest)
  | '\\' :: 'u' :: a :: b :: c :: d :: rest =>
    (charOfHex? [a, b, c, d]).bind fun x => basicBody (x :: chars) rest
  | '\\' :: 'U' :: a :: b :: c :: d :: e :: f :: g :: h :: rest =>
    (charOfHex? [a, b, c, d, e, f, g, h]).bind fun x => basicBody (x :: chars) rest
  | '\\' :: c :: rest => (escaped? c).bind fun x => basicBody (x :: chars) rest
  | c :: rest => if isPlain c && c != '\\' then basicBody (c :: chars) rest else none
  | [] => none

/-- What follows the opening quote of a one-line literal string. -/
def literalBody (chars : List Char) : Reader String
  | '\'' :: rest => some (String.ofList chars.reverse, rest)
  | c :: rest => if isPlain c then literalBody (c :: chars) rest else none
  | [] => none

/-- How a string over several lines goes on: as content, or skipping blanks after a backslash at the
end of a line. `crossed` says that the end of that line has been passed. -/
inductive Continuation where
  | content
  | skipping (crossed : Bool)

/-- What follows the opening quotes of a basic string over several lines. Three to five quotes close
it; those beyond three belong to it. -/
def basicLines (chars : List Char) : Continuation → Reader String
  | .content, '"' :: '"' :: '"' :: '"' :: '"' :: '"' :: _ => none
  | .content, '"' :: '"' :: '"' :: '"' :: '"' :: rest =>
    some (String.ofList ('"' :: '"' :: chars).reverse, rest)
  | .content, '"' :: '"' :: '"' :: '"' :: rest => some (String.ofList ('"' :: chars).reverse, rest)
  | .content, '"' :: '"' :: '"' :: rest => some (String.ofList chars.reverse, rest)
  | .content, '\\' :: 'u' :: a :: b :: c :: d :: rest =>
    (charOfHex? [a, b, c, d]).bind fun x => basicLines (x :: chars) .content rest
  | .content, '\\' :: 'U' :: a :: b :: c :: d :: e :: f :: g :: h :: rest =>
    (charOfHex? [a, b, c, d, e, f, g, h]).bind fun x => basicLines (x :: chars) .content rest
  | .content, '\\' :: c :: rest =>
    match escaped? c with
    | some x => basicLines (x :: chars) .content rest
    | none => basicLines chars (.skipping false) (c :: rest)
  | .content, '\r' :: '\n' :: rest => basicLines ('\n' :: chars) .content rest
  | .content, c :: rest =>
    if (isPlain c && c != '\\') || c == '\n' then basicLines (c :: chars) .content rest else none
  | .skipping _, '\r' :: '\n' :: rest => basicLines chars (.skipping true) rest
  | .skipping crossed, c :: rest =>
    if c = '\n' then basicLines chars (.skipping true) rest
    else if isBlank c then basicLines chars (.skipping crossed) rest
    else if crossed then basicLines chars .content (c :: rest)
    else none
  | _, [] => none
  termination_by k text => (text.length, match k with | .content => 0 | .skipping _ => 1)

/-- What follows the opening quotes of a literal string over several lines. -/
def literalLines (chars : List Char) : Reader String
  | '\'' :: '\'' :: '\'' :: '\'' :: '\'' :: '\'' :: _ => none
  | '\'' :: '\'' :: '\'' :: '\'' :: '\'' :: rest =>
    some (String.ofList ('\'' :: '\'' :: chars).reverse, rest)
  | '\'' :: '\'' :: '\'' :: '\'' :: rest => some (String.ofList ('\'' :: chars).reverse, rest)
  | '\'' :: '\'' :: '\'' :: rest => some (String.ofList chars.reverse, rest)
  | '\r' :: '\n' :: rest => literalLines ('\n' :: chars) rest
  | c :: rest => if isPlain c || c == '\n' then literalLines (c :: chars) rest else none
  | [] => none

/-- The line break right after the opening quotes is no part of a string. -/
def skipFirstNewline (text : List Char) : List Char :=
  (afterNewline? text).getD text

/-- A string in any of its forms. -/
def string? : Reader String
  | '"' :: '"' :: '"' :: rest => basicLines [] .content (skipFirstNewline rest)
  | '"' :: rest => basicBody [] rest
  | '\'' :: '\'' :: '\'' :: rest => literalLines [] (skipFirstNewline rest)
  | '\'' :: rest => literalBody [] rest
  | _ => none

/-- Further digits of a run, in which single underscores may stand between digits. -/
def moreDigits (isDigit : Char → Bool) : List Char → List Char × List Char
  | '_' :: c :: rest =>
    if isDigit c then
      let (digits, rest) := moreDigits isDigit rest
      (c :: digits, rest)
    else ([], '_' :: c :: rest)
  | c :: rest =>
    if isDigit c then
      let (digits, rest) := moreDigits isDigit rest
      (c :: digits, rest)
    else ([], c :: rest)
  | [] => ([], [])

/-- A run of digits, without its underscores. -/
def digits? (isDigit : Char → Bool) : Reader (List Char)
  | c :: rest =>
    if isDigit c then
      let (digits, rest) := moreDigits isDigit rest
      some (c :: digits, rest)
    else none
  | [] => none

/-- The digits of a decimal integer, which has no leading zeros. -/
def wholeDigits? : Reader (List Char)
  | '0' :: rest => some (['0'], rest)
  | text => digits? Char.isDigit text

/-- The digits of a base. -/
def isDigitOf (base : Nat) (c : Char) : Bool :=
  (hexDigit? c).any (· < base)

/-- An integer after the mark of its base. -/
def based? (base : Nat) (text : List Char) : Option (Toml × List Char) := do
  let (digits, rest) ← digits? (isDigitOf base) text
  let n : Nat := digits.foldl (fun n c => base * n + (hexDigit? c).getD 0) 0
  if FitsSigned n then some (integer n, rest) else none

def integer? : Reader Toml
  | '0' :: 'x' :: rest => based? 16 rest
  | '0' :: 'o' :: rest => based? 8 rest
  | '0' :: 'b' :: rest => based? 2 rest
  | text => do
    let (negative, text) := Decimal.takeSign text
    let (digits, rest) ← wholeDigits? text
    let n : Int := Decimal.ofDigits digits
    let n := if negative then -n else n
    if FitsSigned n then some (integer n, rest) else none

/-- The exponent of a float; `none` unless one is written. -/
def exponent? : Reader Int
  | c :: rest => do
    if c ≠ 'e' ∧ c ≠ 'E' then none
    let (negative, rest) := Decimal.takeSign rest
    let (digits, rest) ← digits? Char.isDigit rest
    let n : Int := Decimal.ofDigits digits
    some (if negative then -n else n, rest)
  | [] => none

/-- The fraction of a float; `none` unless one is written. -/
def fraction? : Reader (List Char)
  | '.' :: rest => digits? Char.isDigit rest
  | _ => none

/-- The special values that stand for floats. -/
def special? : List Char → Option (List Char)
  | 'i' :: 'n' :: 'f' :: rest => some rest
  | 'n' :: 'a' :: 'n' :: rest => some rest
  | _ => none

/-- A float has a fraction, an exponent or both. A positive one must not be too large. -/
def float? (text : List Char) : Option (Toml × List Char) :=
  let (negative, text) := Decimal.takeSign text
  match special? text with
  | some rest => some (float, rest)
  | none => do
    let (whole, rest) ← wholeDigits? text
    let (fraction, rest) ← match fraction? rest with
      | some (fraction, rest) => some (fraction, rest)
      | none => if (exponent? rest).isSome then some ([], rest) else none
    let (exponent, rest) := (exponent? rest).getD (0, rest)
    let value : Decimal :=
      ⟨negative, Decimal.ofDigits (whole ++ fraction), exponent - fraction.length⟩
    if value.toDouble?.isSome ∨ negative then some (float, rest) else none

/-- A number of exactly `count` digits. -/
def fixed? (count : Nat) (text : List Char) : Option (Nat × List Char) :=
  let digits := text.take count
  if digits.length = count ∧ digits.all Char.isDigit then
    some (Decimal.ofDigits digits, text.drop count)
  else none

def expect? (c : Char) : List Char → Option (List Char)
  | x :: rest => if x = c then some rest else none
  | [] => none

def daysInMonth (year month : Nat) : Nat :=
  if month = 2 then
    if year % 4 = 0 ∧ (year % 100 ≠ 0 ∨ year % 400 = 0) then 29 else 28
  else if month = 4 ∨ month = 6 ∨ month = 9 ∨ month = 11 then 30
  else 31

/-- What follows a date. -/
def afterDate? (text : List Char) : Option (List Char) := do
  let (year, rest) ← fixed? 4 text
  let (month, rest) ← fixed? 2 (← expect? '-' rest)
  let (day, rest) ← fixed? 2 (← expect? '-' rest)
  if 1 ≤ month ∧ month ≤ 12 ∧ 1 ≤ day ∧ day ≤ daysInMonth year month then some rest else none

/-- What follows the fraction of a second, if there is one. -/
def afterSecondFraction : List Char → List Char
  | '.' :: c :: rest => if c.isDigit then rest.dropWhile Char.isDigit else '.' :: c :: rest
  | text => text

/-- What follows a time of day. -/
def afterTime? (text : List Char) : Option (List Char) := do
  let (hour, rest) ← fixed? 2 text
  let (minute, rest) ← fixed? 2 (← expect? ':' rest)
  let (second, rest) ← fixed? 2 (← expect? ':' rest)
  if hour ≤ 23 ∧ minute ≤ 59 ∧ second ≤ 60 then some (afterSecondFraction rest) else none

/-- What follows an offset from universal time; nothing is skipped where there is none. -/
def afterOffset? : List Char → Option (List Char)
  | c :: rest =>
    if c = 'Z' ∨ c = 'z' then some rest
    else if c = '+' ∨ c = '-' then do
      let (hour, rest) ← fixed? 2 rest
      let (minute, rest) ← fixed? 2 (← expect? ':' rest)
      if hour ≤ 23 ∧ minute ≤ 59 then some rest else none
    else some (c :: rest)
  | [] => some []

/-- What follows a date and the time that may come with it. -/
def afterDateTime? (text : List Char) : Option (List Char) :=
  match afterDate? text with
  | none => afterTime? text
  | some rest =>
    match rest with
    | c :: time =>
      if c = 'T' ∨ c = 't' ∨ c = ' ' then
        match afterTime? time with
        | some rest => afterOffset? rest
        | none => some (c :: time)
      else some rest
    | [] => some []

/-- A date, a number or a keyword. -/
def scalar? (text : List Char) : Option (Toml × List Char) :=
  match text with
  | 't' :: 'r' :: 'u' :: 'e' :: rest => some (boolean true, rest)
  | 'f' :: 'a' :: 'l' :: 's' :: 'e' :: rest => some (boolean false, rest)
  | _ =>
    match afterDateTime? text with
    | some rest => some (dateTime, rest)
    | none => (float? text).or (integer? text)

end WidgetDoc.Toml
