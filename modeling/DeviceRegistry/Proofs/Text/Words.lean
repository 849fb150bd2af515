import DeviceRegistry.Text.Filled
import DeviceRegistry.Text.Pieces
import DeviceRegistry.Text.Word

/-!
# Lowered texts

Lowering makes letters of letters and leaves all else as it is, so it can be done before or after a
text is cut at commas (`split_lower`), and once is enough (`lower_lower`).
-/

namespace DeviceRegistry.Text

/-- A lower letter of ASCII. -/
def IsLetter (c : Char) : Prop :=
  97 ≤ c.toNat ∧ c.toNat ≤ 122

instance (c : Char) : Decidable (IsLetter c) :=
  inferInstanceAs (Decidable (_ ∧ _))

theorem isCapital_iff {c : Char} :
    (c.val ≥ 'A'.val ∧ c.val ≤ 'Z'.val) ↔ 65 ≤ c.toNat ∧ c.toNat ≤ 90 :=
  and_congr UInt32.le_iff_toNat_le UInt32.le_iff_toNat_le

theorem toNat_toLower {c : Char} (h : c.val ≥ 'A'.val ∧ c.val ≤ 'Z'.val) :
    c.toLower.toNat = c.toNat + 32 := by
  have hhigh : c.toNat ≤ 90 := (isCapital_iff.mp h).2
  have hval : c.toLower.val = c.val + ('a'.val - 'A'.val) := congrArg Char.val (dif_pos h)
  show c.toLower.val.toNat = c.toNat + 32
  rw [hval, UInt32.toNat_add]
  exact Nat.mod_eq_of_lt (show c.toNat + 32 < 4294967296 by omega)

theorem toLower_of_not_capital {c : Char} (h : ¬(c.val ≥ 'A'.val ∧ c.val ≤ 'Z'.val)) :
    c.toLower = c :=
  dif_neg h

/-- A character that is lowered to another becomes a letter. -/
theorem lowerChar_cases (c : Char) : lowerChar c = c ∨ IsLetter (lowerChar c) := by
  unfold lowerChar
  split
  · exact .inr ⟨by decide, by decide⟩
  · by_cases hcapital : c.val ≥ 'A'.val ∧ c.val ≤ 'Z'.val
    · obtain ⟨hlow, hhigh⟩ := isCapital_iff.mp hcapital
      rw [IsLetter, toNat_toLower hcapital]
      exact .inr (by omega)
    · exact .inl (toLower_of_not_capital hcapital)

theorem IsLetter.lowerChar_eq {c : Char} (h : IsLetter c) : lowerChar c = c := by
  obtain ⟨hlow, hhigh⟩ := h
  have hkelvin : c ≠ '\u212A' := fun heq => by
    rw [heq] at hhigh
    exact absurd hhigh (by decide)
  have hcapital : ¬(c.val ≥ 'A'.val ∧ c.val ≤ 'Z'.val) := by
    rw [isCapital_iff]
    omega
  rw [lowerChar, if_neg hkelvin, toLower_of_not_capital hcapital]

theorem lowerChar_lowerChar (c : Char) : lowerChar (lowerChar c) = lowerChar c := by
  rcases lowerChar_cases c with h | h
  · rw [h, h]
  · exact h.lowerChar_eq

theorem lowerChar_eq_iff {c mark : Char} (hmark : ¬IsLetter mark)
    (hsame : lowerChar mark = mark) : lowerChar c = mark ↔ c = mark := by
  constructor
  · intro h
    rcases lowerChar_cases c with hc | hc
    · exact hc.symm.trans h
    · exact absurd (h ▸ hc) hmark
  · rintro rfl
    exact hsame

theorem toList_lower (s : String) : (lower s).toList = s.toList.map lowerChar :=
  String.toList_ofList

theorem lower_ofList (cs : List Char) :
    lower (String.ofList cs) = String.ofList (cs.map lowerChar) := by
  rw [lower, String.toList_ofList]

theorem lower_lower (s : String) : lower (lower s) = lower s := by
  rw [lower, toList_lower, List.map_map]
  congr 1
  exact List.map_congr_left fun c _ => lowerChar_lowerChar c

theorem sameWord_lower (word s : String) : sameWord word (lower s) = sameWord word s := by
  rw [sameWord, sameWord, lower_lower]

theorem isEmpty_lower (s : String) : (lower s).isEmpty = s.isEmpty := by
  rw [Bool.eq_iff_iff, String.isEmpty_iff, String.isEmpty_iff, ← String.toList_eq_nil_iff,
    ← String.toList_eq_nil_iff, toList_lower, List.map_eq_nil_iff]

theorem filled?_map_lower (value : Option String) :
    filled? (value.map lower) = (filled? value).map lower := by
  cases value with
  | none => rfl
  | some s =>
    simp only [filled?, Option.map_some, Option.filter_some, isEmpty_lower]
    split <;> rfl

theorem pieces_map_lowerChar {sep : Char} (hsep : ∀ c, lowerChar c = sep ↔ c = sep)
    (cs : List Char) :
    pieces sep (cs.map lowerChar) = (pieces sep cs).map (List.map lowerChar) := by
  induction cs with
  | nil => rfl
  | cons c cs ih =>
    rw [List.map_cons, pieces, pieces, ih]
    by_cases hc : c = sep
    · rw [if_pos ((hsep c).mpr hc), if_pos hc]
      rfl
    · rw [if_neg fun h => hc ((hsep c).mp h), if_neg hc]
      cases pieces sep cs <;> rfl

theorem split_lower {sep : Char} (hsep : ∀ c, lowerChar c = sep ↔ c = sep) (s : String) :
    split sep (lower s) = (split sep s).map lower := by
  rw [split, split, toList_lower, pieces_map_lowerChar hsep, List.map_map, List.map_map]
  exact List.map_congr_left fun piece _ => (lower_ofList piece).symm

end DeviceRegistry.Text
