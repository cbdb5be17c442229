import WidgetDoc.Text.Spans

/-!
# Blank characters

The characters with the property White_Space, and trimming a text of them on both sides.
-/

namespace WidgetDoc.Text

/-- The code points with the property White_Space. -/
def blankSpans : List Span := [
  (0x9, 0xD), (0x20, 0x20), (0x85, 0x85), (0xA0, 0xA0), (0x1680, 0x1680),
  (0x2000, 0x200A), (0x2028, 0x2029), (0x202F, 0x202F), (0x205F, 0x205F), (0x3000, 0x3000)]

def isBlank (c : Char) : Bool :=
  inSpans blankSpans c

/-- Drops blanks from the front. -/
def trimLeft (text : List Char) : List Char :=
  text.dropWhile isBlank

/-- Drops blanks from the end. -/
def trimRight (text : List Char) : List Char :=
  (trimLeft text.reverse).reverse

def trim (text : List Char) : List Char :=
  trimRight (trimLeft text)

end WidgetDoc.Text
