/-!
# Pieces of a text

A text cut at each occurrence of a separator. There is always one piece more than there are
separators, so the empty text has one empty piece.
-/

namespace DeviceRegistry.Text

/-- The runs of characters between the separators. -/
def pieces (sep : Char) : List Char → List (List Char)
  | [] => [[]]
  | c :: cs =>
    if c = sep then [] :: pieces sep cs
    else
      match pieces sep cs with
      | [] => [[c]]
      | p :: ps => (c :: p) :: ps

/-- The pieces of a text between the separators. -/
def split (sep : Char) (s : String) : List String :=
  (pieces sep s.toList).map String.ofList

theorem pieces_ne_nil (sep : Char) (cs : List Char) : pieces sep cs ≠ [] := by
  cases cs with
  | nil => simp [pieces]
  | cons c cs =>
    unfold pieces
    split
    · simp
    · split <;> simp

/-- A text without the separator is one piece. -/
theorem pieces_of_not_mem {sep : Char} {cs : List Char} (h : sep ∉ cs) : pieces sep cs = [cs] := by
  induction cs with
  | nil => rfl
  | cons c cs ih =>
    have hne : c ≠ sep := fun heq => h (by simp [heq])
    have hrest : sep ∉ cs := fun hmem => h (by simp [hmem])
    rw [pieces, if_neg hne, ih hrest]

/-- What stands before the first separator is the first piece. -/
theorem pieces_append {sep : Char} {cs : List Char} (h : sep ∉ cs) (rest : List Char) :
    pieces sep (cs ++ sep :: rest) = cs :: pieces sep rest := by
  induction cs with
  | nil => rw [List.nil_append, pieces, if_pos rfl]
  | cons c cs ih =>
    have hne : c ≠ sep := fun heq => h (by simp [heq])
    have hrest : sep ∉ cs := fun hmem => h (by simp [hmem])
    rw [List.cons_append, pieces, if_neg hne, ih hrest]

/-- The pieces with separators between them are the text. -/
theorem intercalate_pieces (sep : Char) (cs : List Char) :
    [sep].intercalate (pieces sep cs) = cs := by
  induction cs with
  | nil => rfl
  | cons c cs ih =>
    cases hrest : pieces sep cs with
    | nil => exact absurd hrest (pieces_ne_nil sep cs)
    | cons p ps =>
      rw [hrest] at ih
      by_cases hc : c = sep
      · rw [pieces, if_pos hc, hrest, ← ih, hc]
        rfl
      · rw [pieces, if_neg hc, hrest, ← ih]
        cases ps <;> rfl

end DeviceRegistry.Text
