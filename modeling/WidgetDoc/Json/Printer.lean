import WidgetDoc.Json

/-!
# Writing JSON

`Json.compact` writes a value without blanks, `Json.pretty` with one item or field a line, indented
by two blanks a level.
-/

namespace WidgetDoc.Json

def hexDigit (n : Nat) : Char :=
  "0123456789abcdef".toList.getD n '0'

/-- A character inside a string. Only quotes, backslashes and control characters are escaped. -/
def escapeChar (c : Char) : List Char :=
  match c with
  | '"' => ['\\', '"']
  | '\\' => ['\\', '\\']
  | '\x08' => ['\\', 'b']
  | '\x0c' => ['\\', 'f']
  | '\n' => ['\\', 'n']
  | '\r' => ['\\', 'r']
  | '\t' => ['\\', 't']
  | c =>
    if c.toNat < 0x20 then ['\\', 'u', '0', '0', hexDigit (c.toNat / 16), hexDigit (c.toNat % 16)]
    else [c]

def quote (s : String) : String :=
  String.ofList ('"' :: s.toList.flatMap escapeChar ++ ['"'])

/-- The text of a value that has no parts. -/
def atom : Json → String
  | null => "null"
  | bool true => "true"
  | bool false => "false"
  | number n => n.literal
  | string s => quote s
  | array _ => "[]"
  | object _ => "\x7b\x7d"

mutual
def compact : Json → String
  | array items => "[" ++ String.intercalate "," (compactItems items) ++ "]"
  | object fields => "\x7b" ++ String.intercalate "," (compactFields fields) ++ "\x7d"
  | j => j.atom

def compactItems : List Json → List String
  | [] => []
  | x :: xs => x.compact :: compactItems xs

def compactFields : List (String × Json) → List String
  | [] => []
  | (key, x) :: fs => (quote key ++ ":" ++ x.compact) :: compactFields fs
end

/-- The start of a line at an indentation level. -/
def newline (level : Nat) : String :=
  String.ofList ('\n' :: List.replicate (2 * level) ' ')

/-- The parts of a container, each on a line of its own. -/
def layOut (level : Nat) (opening closing : String) (parts : List String) : String :=
  opening ++ newline (level + 1) ++ String.intercalate ("," ++ newline (level + 1)) parts
    ++ newline level ++ closing

mutual
/-- The text of a value whose first line is already indented to `level`. -/
def prettyAt (level : Nat) : Json → String
  | array (x :: xs) => layOut level "[" "]" (prettyItems (level + 1) (x :: xs))
  | object (f :: fs) => layOut level "\x7b" "\x7d" (prettyFields (level + 1) (f :: fs))
  | j => j.atom

def prettyItems (level : Nat) : List Json → List String
  | [] => []
  | x :: xs => prettyAt level x :: prettyItems level xs

def prettyFields (level : Nat) : List (String × Json) → List String
  | [] => []
  | (key, x) :: fs => (quote key ++ ": " ++ prettyAt level x) :: prettyFields level fs
end

def pretty (j : Json) : String :=
  prettyAt 0 j

end WidgetDoc.Json
