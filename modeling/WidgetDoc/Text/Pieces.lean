/-!
# Cutting a text at a separator

`pieces` keeps empty pieces, so joining them again gives the text back.
-/

namespace WidgetDoc.Text

def pieces (separator : Char) : List Char → List (List Char)
  | [] => [[]]
  | c :: rest =>
    if c = separator then [] :: pieces separator rest
    else match pieces separator rest with
      | [] => [[c]]
      | piece :: more => (c :: piece) :: more

theorem pieces_ne_nil (separator : Char) (text : List Char) : pieces separator text ≠ [] := by
  cases text with
  | nil => simp [pieces]
  | cons c rest =>
    unfold pieces
    split
    · simp
    · split <;> simp

theorem intercalate_pieces (separator : Char) (text : List Char) :
    List.intercalate [separator] (pieces separator text) = text := by
  induction text with
  | nil => rfl
  | cons c rest ih =>
    by_cases h : c = separator
    · subst h
      have hp := pieces_ne_nil c rest
      cases hr : pieces c rest with
      | nil => exact absurd hr hp
      | cons p ps =>
        rw [hr] at ih
        have h : [c].intercalate ([] :: p :: ps) = c :: [c].intercalate (p :: ps) := by
          simp [List.intercalate, List.intersperse]
        simp only [pieces, if_true, hr, h, ih]
    · cases hr : pieces separator rest with
      | nil => exact absurd hr (pieces_ne_nil separator rest)
      | cons p ps =>
        rw [hr] at ih
        cases ps <;> simp_all [pieces, List.intercalate, List.intersperse]

theorem pieces_of_not_mem {separator : Char} {text : List Char} (h : separator ∉ text) :
    pieces separator text = [text] := by
  induction text with
  | nil => rfl
  | cons c rest ih =>
    obtain ⟨hc, hrest⟩ := not_or.mp (mt List.mem_cons.mpr h)
    have hne : c ≠ separator := fun e => hc e.symm
    simp only [pieces, hne, if_false, ih hrest]

theorem pieces_append_separator (separator : Char) (xs ys : List Char) :
    pieces separator (xs ++ separator :: ys) = pieces separator xs ++ pieces separator ys := by
  induction xs with
  | nil => simp [pieces]
  | cons c xs ih =>
    by_cases h : c = separator
    · simp only [List.cons_append, pieces, h, if_true, ih]
    · simp only [List.cons_append, pieces, h, if_false, ih]
      cases hxs : pieces separator xs with
      | nil => exact absurd hxs (pieces_ne_nil separator xs)
      | cons p ps => rfl

/-- Separators at the end add empty pieces. -/
theorem pieces_append_replicate (separator : Char) (xs : List Char) (n : Nat) :
    pieces separator (xs ++ List.replicate n separator) =
      pieces separator xs ++ List.replicate n [] := by
  induction n with
  | zero => simp
  | succ n ih =>
    have hempty : pieces separator [] = [[]] := rfl
    rw [List.replicate_succ', List.replicate_succ', ← List.append_assoc, ← List.append_assoc,
      pieces_append_separator, ih, hempty]

end WidgetDoc.Text
