import Mathlib.Data.List.Basic

/-!
# The order of texts and of their bytes

Texts are compared character by character. In UTF-8 a greater character has a greater encoding, and
no encoding is the beginning of another one, so that this is the order of the bytes as well.
-/

namespace WidgetDoc.Text

/-- The UTF-8 bytes of a text. -/
def bytes (s : String) : List UInt8 :=
  s.toUTF8.data.toList

theorem bytes_eq_flatMap (s : String) : bytes s = s.toList.flatMap String.utf8EncodeChar := by
  have h : s.toUTF8 = s.toList.utf8Encode := by
    rw [String.toUTF8_eq_toByteArray, ← String.toByteArray_ofList, String.ofList_toList]
  rw [bytes, h, List.utf8Encode, List.toList_data_toByteArray]

/-- The encodings differ before the shorter one ends, so whatever follows them makes no
difference. -/
theorem utf8EncodeChar_append_lt {c d : Char} (h : c < d) (xs ys : List UInt8) :
    String.utf8EncodeChar c ++ xs < String.utf8EncodeChar d ++ ys := by
  have hcd : c.val.toNat < d.val.toNat := h
  have hd : d.val.toNat < 0x110000 := by
    have := d.valid
    unfold UInt32.isValidChar Nat.isValidChar at this
    omega
  unfold String.utf8EncodeChar
  generalize c.val.toNat = m at *
  generalize d.val.toNat = n at *
  -- The digits to the base 64, each from the quotient of the one before.
  have htwo (a : Nat) : a / 4096 = a / 64 / 64 := by omega
  have hthree (a : Nat) : a / 262144 = a / 64 / 64 / 64 := by omega
  dsimp only
  split_ifs <;>
    simp only [List.cons_append, List.nil_append, List.cons_lt_cons_iff, UInt8.lt_iff_toNat_lt,
      ← UInt8.toNat_inj, UInt8.toNat_ofNat', htwo, hthree] <;>
    omega

theorem utf8EncodeChar_ne_nil (c : Char) : String.utf8EncodeChar c ≠ [] := by
  unfold String.utf8EncodeChar
  dsimp only
  split_ifs <;> simp

theorem flatMap_utf8EncodeChar_lt {xs ys : List Char} (h : xs < ys) :
    xs.flatMap String.utf8EncodeChar < ys.flatMap String.utf8EncodeChar := by
  induction h with
  | @nil y ys =>
      obtain ⟨b, bs, hb⟩ := List.exists_cons_of_ne_nil (utf8EncodeChar_ne_nil y)
      rw [List.flatMap_cons, hb]
      exact List.Lex.nil
  | @rel x xs y ys hxy =>
      rw [List.flatMap_cons, List.flatMap_cons]
      exact utf8EncodeChar_append_lt hxy _ _
  | @cons x xs ys _ ih =>
      rw [List.flatMap_cons, List.flatMap_cons]
      exact List.append_left_lt ih

theorem bytes_lt_bytes {s t : String} (h : s < t) : bytes s < bytes t := by
  rw [bytes_eq_flatMap, bytes_eq_flatMap]
  exact flatMap_utf8EncodeChar_lt h

end WidgetDoc.Text
