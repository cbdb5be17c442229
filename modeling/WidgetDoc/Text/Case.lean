import WidgetDoc.Text.Case.Table

/-!
# Letter case

Full lower- and upper-case mapping of a text. Only the sigma depends on its neighbours: it takes its
final form at the end of a word, where characters that case ignores do not count.
-/

namespace WidgetDoc.Text

def isCased (c : Char) : Bool :=
  inSpans casedSpans c

def isCaseIgnorable (c : Char) : Bool :=
  inSpans caseIgnorableSpans c

/-- Whether the first character that case does not ignore is cased. -/
def startsCased (text : List Char) : Bool :=
  match text.dropWhile isCaseIgnorable with
  | [] => false
  | c :: _ => isCased c

/-- The code points a character maps to under a pair of tables. -/
def mapCase (runs : List CaseRun) (expansions : List (Nat × List Nat)) (c : Char) : List Char :=
  match expansions.lookup c.toNat with
  | some codes => codes.map Char.ofNat
  | none =>
    match runs.find? fun r => r.first ≤ c.toNat && c.toNat ≤ r.last with
    | some r =>
      if (c.toNat - r.first) % r.step = 0 then [Char.ofNat (c.toNat + r.shift).toNat] else [c]
    | none => [c]

def lowerChar (c : Char) : List Char :=
  if c.toNat < 0x80 then [c.toLower] else mapCase lowerRuns lowerExpansions c

def upperChar (c : Char) : List Char :=
  if c.toNat < 0x80 then [c.toUpper] else mapCase upperRuns upperExpansions c

/-- The lower-case form of a sigma between two texts, the former one reversed. -/
def lowerSigma (before after : List Char) : Char :=
  if startsCased before && !startsCased after then 'ς' else 'σ'

/-- Lower-cases a text that follows `before`, which is reversed. -/
def lowerAfter (before : List Char) : List Char → List Char
  | [] => []
  | c :: rest =>
    (if c = 'Σ' then [lowerSigma before rest] else lowerChar c) ++ lowerAfter (c :: before) rest

def lower (text : List Char) : List Char :=
  lowerAfter [] text

def upper (text : List Char) : List Char :=
  text.flatMap upperChar

end WidgetDoc.Text
