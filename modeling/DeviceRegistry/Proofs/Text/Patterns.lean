import DeviceRegistry.Text.Like
import Mathlib.Data.List.Infix
import Mathlib.Data.List.TakeWhile
import Mathlib.Data.String.Basic

/-!
# What the pattern of a text matches

A pattern matches a text if one can be laid over the other: each character of the pattern covers the
same one up to case, and a run covers any characters. The pattern that `containing` writes for a
text is a run, the characters of that text, and a run again, whatever characters they are. So it
matches the texts in which the text occurs, folded as `fold` does.
-/

namespace DeviceRegistry.Text.Like

/-- A character up to what it counts as and the case of ASCII letters. -/
def fold (c : Char) : Char :=
  (countedChar c).toLower

/-! ## Matching -/

theorem sameChar_iff {c d : Char} : sameChar c d = true ↔ c.toLower = d.toLower := by
  simp [sameChar]

theorem matchTokens_run (text : List Char) : matchTokens [.run] text = true := by
  induction text with
  | nil => simp [matchTokens]
  | cons c text ih => simp [matchTokens, ih]

theorem matchTokens_chars_run {chars text : List Char} :
    matchTokens (chars.map .char ++ [.run]) text = true ↔
      chars.map Char.toLower <+: text.map Char.toLower := by
  induction chars generalizing text with
  | nil => simp [matchTokens_run]
  | cons c chars ih =>
    cases text with
    | nil => simp [matchTokens]
    | cons d text =>
      rw [List.map_cons, List.cons_append, matchTokens, Bool.and_eq_true, sameChar_iff, ih,
        List.map_cons, List.map_cons, List.cons_prefix_cons]

theorem matchTokens_run_cons {tokens : List Token} {text : List Char} :
    matchTokens (.run :: tokens) text = true ↔
      ∃ rest, rest <:+ text ∧ matchTokens tokens rest = true := by
  induction text with
  | nil => simp [matchTokens]
  | cons c text ih =>
    rw [matchTokens, Bool.or_eq_true, ih]
    constructor
    · rintro (h | ⟨rest, hsuffix, h⟩)
      · exact ⟨_, List.suffix_refl _, h⟩
      · exact ⟨rest, hsuffix.trans (List.suffix_cons c text), h⟩
    · rintro ⟨rest, hsuffix, h⟩
      rcases List.suffix_cons_iff.mp hsuffix with rfl | hsuffix
      · exact .inl h
      · exact .inr ⟨rest, hsuffix, h⟩

/-- Characters between two runs match what contains these characters. -/
theorem matchTokens_between_runs {chars text : List Char} :
    matchTokens (.run :: (chars.map .char ++ [.run])) text = true ↔
      chars.map Char.toLower <:+: text.map Char.toLower := by
  rw [matchTokens_run_cons]
  constructor
  · rintro ⟨rest, hsuffix, h⟩
    exact (matchTokens_chars_run.mp h).isInfix.trans (hsuffix.map _).isInfix
  · intro h
    obtain ⟨lowered, hprefix, hsuffix⟩ := List.infix_iff_prefix_suffix.mp h
    obtain ⟨rest, hrest, rfl⟩ := List.suffix_map_iff.mp hsuffix
    exact ⟨rest, hrest, matchTokens_chars_run.mpr hprefix⟩

/-! ## Escaped texts -/

theorem tokens?_escapeChars_append (chars rest : List Char) :
    tokens? (escapeChars chars ++ rest) = (tokens? rest).map (chars.map .char ++ ·) := by
  induction chars with
  | nil => simp [escapeChars]
  | cons c chars ih =>
    unfold escapeChars
    split
    · simp [tokens?, ih, Function.comp_def]
    · next h =>
      rw [List.cons_append, tokens?.eq_def]
      split <;> simp_all [Function.comp_def]

theorem countedChar_special_iff {c : Char} :
    (countedChar c = '\\' ∨ countedChar c = '%' ∨ countedChar c = '_') ↔
      c = '\\' ∨ c = '%' ∨ c = '_' := by
  unfold countedChar
  split
  · rename_i h
    rcases h with rfl | rfl <;> decide
  · rfl

theorem map_escapeChars (chars : List Char) :
    (escapeChars chars).map countedChar = escapeChars (chars.map countedChar) := by
  induction chars with
  | nil => rfl
  | cons c chars ih =>
    by_cases h : c = '\\' ∨ c = '%' ∨ c = '_'
    · rw [escapeChars, if_pos h, List.map_cons, List.map_cons, List.map_cons, escapeChars,
        if_pos (countedChar_special_iff.mpr h), ih]
      rfl
    · rw [escapeChars, if_neg h, List.map_cons, List.map_cons, escapeChars,
        if_neg (countedChar_special_iff.not.mpr h), ih]

theorem not_mem_escapeChars {nul : Char} (hnul : nul ≠ '\\') {chars : List Char} (h : nul ∉ chars) :
    nul ∉ escapeChars chars := by
  induction chars with
  | nil => exact h
  | cons c chars ih =>
    obtain ⟨hne, hrest⟩ := not_or.mp (List.mem_cons.not.mp h)
    unfold escapeChars
    split <;> simp [hnul, hne, ih hrest]

/-! ## The pattern of a text -/

theorem counted_eq {s : String} (h : '\x00' ∉ s.toList) : counted s = s.toList.map countedChar := by
  unfold counted
  rw [List.takeWhile_eq_self_iff.mpr]
  intro c hc
  simpa using fun heq : c = '\x00' => h (heq ▸ hc)

theorem toList_containing (s : String) :
    (containing s).toList = '%' :: (escapeChars s.toList ++ ['%']) := by
  simp [containing, escape]

theorem counted_containing {s : String} (h : '\x00' ∉ s.toList) :
    counted (containing s) = '%' :: (escapeChars (s.toList.map countedChar) ++ ['%']) := by
  have hnul : '\x00' ∉ (containing s).toList := by
    rw [toList_containing]
    simp [not_mem_escapeChars (by decide : '\x00' ≠ '\\') h]
  rw [counted_eq hnul, toList_containing, List.map_cons, List.map_append, map_escapeChars]
  rfl

/-- The pattern of a text matches the texts that contain it, up to folding. -/
theorem holds_containing_iff {value text : String} (hvalue : '\x00' ∉ value.toList)
    (htext : '\x00' ∉ text.toList) :
    holds (containing value) text = true ↔
      value.toList.map fold <:+: text.toList.map fold := by
  have htokens : tokens? (counted (containing value)) =
      some (.run :: ((value.toList.map countedChar).map .char ++ [.run])) := by
    rw [counted_containing hvalue, tokens?, tokens?_escapeChars_append]
    rfl
  unfold holds
  rw [htokens]
  simp only
  rw [counted_eq htext, matchTokens_between_runs, List.map_map, List.map_map]
  rfl

/-! ## Sizes -/

theorem length_le_utf8ByteSize (s : String) : s.toList.length ≤ s.utf8ByteSize := by
  rw [← String.ofList_toList (s := s), String.utf8ByteSize_ofList, String.toList_ofList]
  induction s.toList with
  | nil => exact Nat.le_refl 0
  | cons c cs ih =>
    have hpos := c.utf8Size_pos
    rw [List.length_cons, String.utf8Len_cons]
    omega

theorem sublist_escapeChars (cs : List Char) : cs.Sublist (escapeChars cs) := by
  induction cs with
  | nil => exact .slnil
  | cons c cs ih =>
    unfold escapeChars
    split
    · exact .cons _ (.cons_cons c ih)
    · exact .cons_cons c ih

/-- The pattern of a value is too large if the value and the two runs have too many characters. -/
theorem isOverlong_containing {value : String} (h : maxPatternBytes < value.toList.length + 2) :
    isOverlong (containing value) = true := by
  have hescaped := (sublist_escapeChars value.toList).length_le
  have hbytes := length_le_utf8ByteSize (containing value)
  rw [toList_containing, List.length_cons, List.length_append, List.length_singleton] at hbytes
  refine decide_eq_true (Nat.lt_of_lt_of_le h (Nat.le_trans ?_ hbytes))
  omega

end DeviceRegistry.Text.Like
