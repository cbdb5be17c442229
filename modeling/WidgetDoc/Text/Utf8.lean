/-!
# Reading UTF-8

`scan` cuts bytes into characters and invalid parts. An invalid part is the longest start of a
well-formed sequence that breaks off, or one byte that starts none.
-/

namespace WidgetDoc.Text.Utf8

/-- The number of continuation bytes after a leading byte and the range of the first of them. -/
structure Lead where
  payload : Nat
  continuations : Nat
  low : UInt8
  high : UInt8

/-- The range excludes overlong forms, surrogates and code points past U+10FFFF. -/
def Lead.ofByte? (b : UInt8) : Option Lead :=
  if b < 0xC2 then none
  else if b < 0xE0 then some ⟨b.toNat - 0xC0, 1, 0x80, 0xBF⟩
  else if b < 0xF0 then
    some ⟨b.toNat - 0xE0, 2, if b = 0xE0 then 0xA0 else 0x80, if b = 0xED then 0x9F else 0xBF⟩
  else if b < 0xF5 then
    some ⟨b.toNat - 0xF0, 3, if b = 0xF0 then 0x90 else 0x80, if b = 0xF4 then 0x8F else 0xBF⟩
  else none

/-- What has been read of a character. -/
inductive Progress where
  | between
  | within (code pending : Nat) (low high : UInt8)

/-- A byte that continues no character: it ends one, opens one or is invalid. -/
def start (b : UInt8) : List (Option Char) × Progress :=
  if b < 0x80 then ([some (Char.ofNat b.toNat)], .between)
  else match Lead.ofByte? b with
    | some l => ([], .within l.payload l.continuations l.low l.high)
    | none => ([none], .between)

/-- Takes one byte: the characters and invalid parts it completes, and what is left open. -/
def step : Progress → UInt8 → List (Option Char) × Progress
  | .between, b => start b
  | .within code pending low high, b =>
    if low ≤ b ∧ b ≤ high then
      let code := code * 64 + (b.toNat - 0x80)
      if pending ≤ 1 then ([some (Char.ofNat code)], .between)
      else ([], .within code (pending - 1) 0x80 0xBF)
    else
      let (parts, progress) := start b
      (none :: parts, progress)

def scanFrom : Progress → List UInt8 → List (Option Char)
  | .between, [] => []
  | .within .., [] => [none]
  | progress, b :: rest =>
    let (parts, progress) := step progress b
    parts ++ scanFrom progress rest

/-- The characters of a byte sequence, with `none` for each invalid part. -/
def scan (bytes : List UInt8) : List (Option Char) :=
  scanFrom .between bytes

/-- The text, if all of it is valid. -/
def decode? (bytes : List UInt8) : Option String :=
  ((scan bytes).mapM id).map String.ofList

/-- The text with U+FFFD for each invalid part. -/
def decodeLossy (bytes : List UInt8) : String :=
  String.ofList ((scan bytes).map (·.getD '\uFFFD'))

end WidgetDoc.Text.Utf8
