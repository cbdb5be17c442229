import WidgetDoc.Json
import WidgetDoc.Json.Number.Literal

/-!
# Tokens of JSON text

`Token.scan` cuts a text into punctuation, strings and scalar words. Adjacent words or strings need
no separation here, because the grammar of values lets no two of them meet.
-/

namespace WidgetDoc.Json

inductive Token where
  | beginArray
  | endArray
  | beginObject
  | endObject
  | comma
  | colon
  | string (s : String)
  | scalar (value : Json)

namespace Token

/-- The four characters that may stand between tokens. -/
def isSpace (c : Char) : Bool :=
  c == ' ' || c == '\t' || c == '\n' || c == '\r'

def punctuation? : Char → Option Token
  | '[' => some beginArray
  | ']' => some endArray
  | '{' => some beginObject
  | '}' => some endObject
  | ',' => some comma
  | ':' => some colon
  | _ => none

/-- A keyword or a number. -/
def ofWord? (word : List Char) : Option Token :=
  if word = ['n', 'u', 'l', 'l'] then some (scalar .null)
  else if word = ['t', 'r', 'u', 'e'] then some (scalar (.bool true))
  else if word = ['f', 'a', 'l', 's', 'e'] then some (scalar (.bool false))
  else (Number.ofLiteral? word).map fun n => scalar (.number n)

def hexValue? (c : Char) : Option Nat :=
  if c.isDigit then some (c.toNat - '0'.toNat)
  else if 'a' ≤ c ∧ c ≤ 'f' then some (c.toNat - 'a'.toNat + 10)
  else if 'A' ≤ c ∧ c ≤ 'F' then some (c.toNat - 'A'.toNat + 10)
  else none

/-- The character of a one-letter escape. -/
def escaped? : Char → Option Char
  | '"' => some '"'
  | '\\' => some '\\'
  | '/' => some '/'
  | 'b' => some '\x08'
  | 'f' => some '\x0c'
  | 'n' => some '\n'
  | 'r' => some '\r'
  | 't' => some '\t'
  | _ => none

/-- Where a scan stands. Characters read so far are kept in reverse; `high` is the first half of a
surrogate pair whose second half must follow. -/
inductive Place where
  | between
  | word (chars : List Char)
  | text (chars : List Char)
  | escape (chars : List Char)
  | unicode (chars : List Char) (high : Option Nat) (code : Nat) (missing : Nat)
  | backslash (chars : List Char) (high : Nat)
  | letterU (chars : List Char) (high : Nat)

/-- A scan: the tokens found, in reverse, and the place. -/
structure Scan where
  found : List Token
  place : Place

namespace Scan

/-- What an escaped UTF-16 unit adds to a string. -/
def unit? (chars : List Char) (high : Option Nat) (code : Nat) : Option Place :=
  match high with
  | some h =>
    if 0xDC00 ≤ code ∧ code < 0xE000 then
      some (.text (Char.ofNat (0x10000 + (h - 0xD800) * 0x400 + (code - 0xDC00)) :: chars))
    else none
  | none =>
    if 0xD800 ≤ code ∧ code < 0xDC00 then some (.backslash chars code)
    else if 0xDC00 ≤ code ∧ code < 0xE000 then none
    else some (.text (Char.ofNat code :: chars))

/-- A character at a place where a token may begin. -/
def begin? (found : List Token) (c : Char) : Scan :=
  if isSpace c then ⟨found, .between⟩
  else if c = '"' then ⟨found, .text []⟩
  else match punctuation? c with
    | some t => ⟨t :: found, .between⟩
    | none => ⟨found, .word [c]⟩

def step? (s : Scan) (c : Char) : Option Scan :=
  match s.place with
  | .between => some (begin? s.found c)
  | .word chars =>
    if isSpace c || c == '"' || (punctuation? c).isSome then
      (ofWord? chars.reverse).map fun t => begin? (t :: s.found) c
    else some ⟨s.found, .word (c :: chars)⟩
  | .text chars =>
    if c = '"' then some ⟨string (String.ofList chars.reverse) :: s.found, .between⟩
    else if c = '\\' then some ⟨s.found, .escape chars⟩
    else if c.toNat < 0x20 then none
    else some ⟨s.found, .text (c :: chars)⟩
  | .escape chars =>
    if c = 'u' then some ⟨s.found, .unicode chars none 0 4⟩
    else (escaped? c).map fun e => ⟨s.found, .text (e :: chars)⟩
  | .unicode chars high code missing =>
    (hexValue? c).bind fun digit =>
      let code := 16 * code + digit
      if missing ≤ 1 then (unit? chars high code).map fun place => ⟨s.found, place⟩
      else some ⟨s.found, .unicode chars high code (missing - 1)⟩
  | .backslash chars high => if c = '\\' then some ⟨s.found, .letterU chars high⟩ else none
  | .letterU chars high => if c = 'u' then some ⟨s.found, .unicode chars (some high) 0 4⟩ else none

def finish? (s : Scan) : Option (List Token) :=
  match s.place with
  | .between => some s.found.reverse
  | .word chars => (ofWord? chars.reverse).map fun t => (t :: s.found).reverse
  | _ => none

end Scan

/-- The tokens of a text. -/
def scan? (text : List Char) : Option (List Token) :=
  (text.foldlM Scan.step? ⟨[], .between⟩).bind Scan.finish?

end Token

end WidgetDoc.Json
