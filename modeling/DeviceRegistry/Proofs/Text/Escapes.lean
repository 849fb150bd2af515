import DeviceRegistry.Proofs.Text.Patterns
import DeviceRegistry.Proofs.Text.Words
import Mathlib.Algebra.Ring.Parity
import Mathlib.Data.List.DropRight
import Mathlib.Data.List.Forall2

/-!
# Escaped texts

What a text stands for in a pattern is said here without patterns. A text occurs in another one if
the other has a piece as long as it, with a character that is `Alike` in every place. The pattern
that `containing` writes for a text matches just the texts in which it occurs (`escape_exact`).

Escaping can be done by marking the three special characters one after the other, the backslash
first (`marked_escapeChars`). It can be undone, and the backslashes at the end of an escaped text
come in pairs, so that they leave the character behind them alone.
-/

namespace DeviceRegistry.Text.Like

/-! ## Alike characters -/

/-- A capital of ASCII and the small letter of it. -/
def IsCapitalOf (capital small : Char) : Prop :=
  65 ≤ capital.toNat ∧ capital.toNat ≤ 90 ∧ small.toNat = capital.toNat + 32

/-- Two characters are one, up to the case of ASCII letters. -/
inductive SameLetter (c d : Char) : Prop
  | same (h : c = d)
  | lowered (h : IsCapitalOf c d)
  | raised (h : IsCapitalOf d c)

/-- The replacement character, or one of the two that are read as it. -/
def IsReplacement (c : Char) : Prop :=
  c = '\uFFFD' ∨ c = '\uFFFE' ∨ c = '\uFFFF'

/-- A pattern takes two characters for one another. -/
inductive Alike (c d : Char) : Prop
  | letter (h : SameLetter c d)
  | replacement (left : IsReplacement c) (right : IsReplacement d)

theorem SameLetter.symm {c d : Char} (h : SameLetter c d) : SameLetter d c := by
  cases h with
  | same h => exact .same h.symm
  | lowered h => exact .raised h
  | raised h => exact .lowered h

theorem IsCapitalOf.toLower_eq {c d : Char} (h : IsCapitalOf c d) : c.toLower = d.toLower := by
  obtain ⟨hlow, hhigh, hd⟩ := h
  have hsmall : d.toLower = d := toLower_of_not_capital (by rw [isCapital_iff]; omega)
  refine Char.toNat_inj.mp ?_
  rw [toNat_toLower (isCapital_iff.mpr ⟨hlow, hhigh⟩), hsmall, hd]

theorem sameLetter_iff {c d : Char} : SameLetter c d ↔ c.toLower = d.toLower := by
  constructor
  · rintro (rfl | h | h)
    · rfl
    · exact h.toLower_eq
    · exact h.toLower_eq.symm
  · intro h
    have hnat := congrArg Char.toNat h
    -- Both are capitals, or one of them is, or none.
    by_cases hc : c.val ≥ 'A'.val ∧ c.val ≤ 'Z'.val <;>
      by_cases hd : d.val ≥ 'A'.val ∧ d.val ≤ 'Z'.val
    · rw [toNat_toLower hc, toNat_toLower hd] at hnat
      exact .same (Char.toNat_inj.mp (by omega))
    · rw [toNat_toLower hc, toLower_of_not_capital hd] at hnat
      obtain ⟨hlow, hhigh⟩ := isCapital_iff.mp hc
      exact .lowered ⟨hlow, hhigh, hnat.symm⟩
    · rw [toLower_of_not_capital hc, toNat_toLower hd] at hnat
      obtain ⟨hlow, hhigh⟩ := isCapital_iff.mp hd
      exact .raised ⟨hlow, hhigh, hnat⟩
    · rw [toLower_of_not_capital hc, toLower_of_not_capital hd] at h
      exact .same h

/-- A replacement character is no letter, so only itself is the same. -/
theorem IsReplacement.eq_of_sameLetter {c d : Char} (hc : IsReplacement c) (h : SameLetter c d) :
    c = d := by
  have hnat : 65533 ≤ c.toNat := by rcases hc with rfl | rfl | rfl <;> decide
  cases h with
  | same h => exact h
  | lowered h =>
    obtain ⟨-, hhigh, -⟩ := h
    omega
  | raised h =>
    obtain ⟨-, hhigh, hcase⟩ := h
    omega

theorem fold_of_isReplacement {c : Char} (h : IsReplacement c) : fold c = '\uFFFD' := by
  rcases h with rfl | rfl | rfl <;> decide

theorem fold_of_not_isReplacement {c : Char} (h : ¬IsReplacement c) : fold c = c.toLower := by
  rw [fold, countedChar, if_neg fun hc => h (.inr hc)]

theorem fold_ne_replacement {c : Char} (h : ¬IsReplacement c) : fold c ≠ '\uFFFD' := by
  intro heq
  rw [fold_of_not_isReplacement h] at heq
  have hsame : SameLetter '\uFFFD' c := sameLetter_iff.mpr heq.symm
  have hc := IsReplacement.eq_of_sameLetter (.inl rfl) hsame
  exact h (.inl hc.symm)

theorem SameLetter.fold_eq {c d : Char} (h : SameLetter c d) : fold c = fold d := by
  by_cases hc : IsReplacement c
  · rw [hc.eq_of_sameLetter h]
  by_cases hd : IsReplacement d
  · rw [hd.eq_of_sameLetter h.symm]
  rw [fold_of_not_isReplacement hc, fold_of_not_isReplacement hd, sameLetter_iff.mp h]

/-- Alike characters are those that are folded to one. -/
theorem alike_iff {c d : Char} : Alike c d ↔ fold c = fold d := by
  constructor
  · rintro (h | ⟨hc, hd⟩)
    · exact h.fold_eq
    · rw [fold_of_isReplacement hc, fold_of_isReplacement hd]
  · intro h
    by_cases hc : IsReplacement c <;> by_cases hd : IsReplacement d
    · exact .replacement hc hd
    · rw [fold_of_isReplacement hc] at h
      exact absurd h.symm (fold_ne_replacement hd)
    · rw [fold_of_isReplacement hd] at h
      exact absurd h (fold_ne_replacement hc)
    · rw [fold_of_not_isReplacement hc, fold_of_not_isReplacement hd] at h
      exact .letter (sameLetter_iff.mpr h)

/-! ## Occurrences -/

/-- A text occurs in another one, up to a likeness of characters: some piece of the other is alike
in all places. -/
def Occurs (alike : Char → Char → Prop) (value text : String) : Prop :=
  ∃ before piece after, text.toList = before ++ piece ++ after ∧
    List.Forall₂ alike value.toList piece

/-- Where alike characters are those with one image, an occurrence is one of images. -/
theorem occurs_iff (alike : Char → Char → Prop) {image : Char → Char}
    (h : ∀ c d, alike c d ↔ image c = image d) {value text : String} :
    Occurs alike value text ↔ value.toList.map image <:+: text.toList.map image := by
  have hpiece : ∀ piece : List Char, List.Forall₂ alike value.toList piece ↔
      value.toList.map image = piece.map image := by
    obtain rfl : alike = fun c d => image c = image d := funext₂ fun c d => propext (h c d)
    intro piece
    rw [← List.forall₂_eq_eq_eq, List.forall₂_map_left_iff, List.forall₂_map_right_iff]
  simp only [Occurs, hpiece]
  constructor
  · rintro ⟨before, piece, after, htext, heq⟩
    refine ⟨before.map image, after.map image, ?_⟩
    rw [heq, htext, List.map_append, List.map_append]
  · rintro ⟨before, after, htext⟩
    obtain ⟨front, after, htoList, hfront, -⟩ := List.map_eq_append_iff.mp htext.symm
    obtain ⟨before, piece, rfl, -, hvalue⟩ := List.map_eq_append_iff.mp hfront
    exact ⟨before, piece, after, htoList, hvalue.symm⟩

/-! ## Marks -/

/-- A backslash before each occurrence of a character. -/
def marked (special : Char) (cs : List Char) : List Char :=
  cs.flatMap fun c => if c = special then ['\\', c] else [c]

/-- The backslashes that stand before the other two are not marked again. -/
theorem marked_escapeChars (cs : List Char) :
    marked '_' (marked '%' (marked '\\' cs)) = escapeChars cs := by
  induction cs with
  | nil => rfl
  | cons c cs ih =>
    have hcons : marked '_' (marked '%' (marked '\\' (c :: cs))) =
        marked '_' (marked '%' (if c = '\\' then ['\\', c] else [c])) ++ escapeChars cs := by
      rw [← ih]
      simp only [marked, List.flatMap_cons, List.flatMap_append]
    rw [hcons, escapeChars]
    by_cases hbackslash : c = '\\'
    · simp [hbackslash, marked]
    by_cases hrun : c = '%'
    · simp [hrun, marked]
    by_cases hone : c = '_'
    · simp [hone, marked]
    simp [hbackslash, hrun, hone, marked]

/-! ## Dangling backslashes -/

/-- The backslashes at the end are odd in number: the last of them would take a character literally,
and there is none. -/
def Dangles (cs : List Char) : Prop :=
  Odd (cs.rtakeWhile (· == '\\')).length

theorem rtakeWhile_cons_of_not_forall {p : Char → Bool} {c : Char} {cs : List Char}
    (h : ¬∀ d ∈ c :: cs, p d = true) : (c :: cs).rtakeWhile p = cs.rtakeWhile p := by
  rw [List.rtakeWhile, List.rtakeWhile, List.reverse_cons, List.takeWhile_append]
  split
  · next hall =>
    have hcs : cs.reverse.takeWhile p = cs.reverse :=
      (List.takeWhile_prefix p).eq_of_length hall
    have hc : ¬p c = true := fun hc => by
      rw [List.takeWhile_eq_self_iff] at hcs
      exact h (List.forall_mem_cons.mpr ⟨hc, fun d hd => hcs d (List.mem_reverse.mpr hd)⟩)
    rw [hcs, List.takeWhile_cons_of_neg hc, List.append_nil]
  · rfl

theorem dangles_cons {c : Char} (h : c ≠ '\\') (cs : List Char) :
    Dangles (c :: cs) ↔ Dangles cs := by
  have hneg : ¬∀ d ∈ c :: cs, (d == '\\') = true := fun hall => h (beq_iff_eq.mp (hall c (by simp)))
  rw [Dangles, rtakeWhile_cons_of_not_forall hneg, Dangles]

theorem dangles_pair (c : Char) (cs : List Char) : Dangles ('\\' :: c :: cs) ↔ Dangles cs := by
  -- Backslashes alone are two fewer without the pair; in other rows the pair is not at the end.
  by_cases hall : ∀ d ∈ c :: cs, (d == '\\') = true
  · have hwhole : ('\\' :: c :: cs).rtakeWhile (· == '\\') = '\\' :: c :: cs :=
      List.rtakeWhile_eq_self_iff.mpr (List.forall_mem_cons.mpr ⟨rfl, hall⟩)
    have hrest : cs.rtakeWhile (· == '\\') = cs :=
      List.rtakeWhile_eq_self_iff.mpr (List.forall_mem_cons.mp hall).2
    rw [Dangles, Dangles, hwhole, hrest, List.length_cons, List.length_cons, Nat.odd_add_one,
      Nat.odd_add_one, not_not]
  · rw [Dangles, rtakeWhile_cons_of_not_forall fun h => hall (List.forall_mem_cons.mp h).2,
      rtakeWhile_cons_of_not_forall hall, Dangles]

/-- A pattern cannot be read exactly if it dangles. -/
theorem tokens?_eq_none_iff (cs : List Char) : tokens? cs = none ↔ Dangles cs := by
  fun_induction tokens? cs with
  | case1 => simp [Dangles]
  | case2 => simp [Dangles, List.rtakeWhile]
  | case3 c cs ih => rw [Option.map_eq_none_iff, ih, dangles_pair]
  | case4 cs ih => rw [Option.map_eq_none_iff, ih, dangles_cons (by decide)]
  | case5 cs ih => rw [Option.map_eq_none_iff, ih, dangles_cons (by decide)]
  | case6 c cs hlone hpair hrun hone ih =>
    have hc : c ≠ '\\' := by
      rintro rfl
      cases cs with
      | nil => exact hlone rfl rfl
      | cons d cs => exact hpair d cs rfl rfl
    rw [Option.map_eq_none_iff, ih, dangles_cons hc]

theorem toList_escape (value : String) : (escape value).toList = escapeChars value.toList :=
  String.toList_ofList

theorem not_dangles_escape (value : String) : ¬Dangles (escape value).toList := by
  rw [← tokens?_eq_none_iff, toList_escape, tokens?_escapeChars]
  exact Option.some_ne_none _

theorem not_dangles_containing (value : String) : ¬Dangles (containing value).toList := by
  rw [← tokens?_eq_none_iff, toList_containing, tokens?, tokens?_escapeChars_append]
  exact Option.some_ne_none _

theorem escape_injective : Function.Injective escape := by
  intro value other h
  have hchars : escapeChars value.toList = escapeChars other.toList := by
    rw [← toList_escape, ← toList_escape, h]
  have htokens := congrArg tokens? hchars
  rw [tokens?_escapeChars, tokens?_escapeChars, Option.some_inj] at htokens
  exact String.toList_injective (List.map_injective_iff.mpr (fun _ _ => Token.char.inj) htokens)

/-! ## What a pattern matches -/

/-- The pattern of a text matches another text exactly if the text occurs in it, up to alike
characters. Escaping, which marks the backslashes, the percent signs and the underscores one after
the other, tells all texts apart, and neither an escaped text nor a pattern of one dangles. -/
theorem escape_exact :
    (∀ value text : String, '\x00' ∉ value.toList → '\x00' ∉ text.toList →
      (holds (containing value) text = true ↔ Occurs Alike value text)) ∧
    Function.Injective escape ∧
    ∀ value : String,
      (escape value).toList = marked '_' (marked '%' (marked '\\' value.toList)) ∧
      ¬Dangles (escape value).toList ∧ ¬Dangles (containing value).toList := by
  refine ⟨fun value text hvalue htext => ?_, escape_injective, fun value => ⟨?_, ?_, ?_⟩⟩
  · rw [holds_containing_iff hvalue htext, occurs_iff Alike fun _ _ => alike_iff]
  · rw [toList_escape, marked_escapeChars]
  · exact not_dangles_escape value
  · exact not_dangles_containing value

/-- All three special characters in a text, and a letter in the other case; the wildcards stand for
nothing but themselves. -/
theorem escape_exact_wildcards :
    ('\x00' ∉ "a_\\%".toList ∧ '\x00' ∉ "xA_\\%y".toList ∧ Occurs Alike "a_\\%" "xA_\\%y") ∧
      '\x00' ∉ "xAb\\%y".toList ∧ ¬Occurs Alike "a_\\%" "xAb\\%y" := by
  have hvalue : '\x00' ∉ "a_\\%".toList := by decide
  have htext : '\x00' ∉ "xA_\\%y".toList := by decide
  have hother : '\x00' ∉ "xAb\\%y".toList := by decide
  refine ⟨⟨hvalue, htext, ?_⟩, hother, fun h => ?_⟩
  · exact (escape_exact.1 _ _ hvalue htext).mp (by decide +kernel)
  · have hholds := (escape_exact.1 _ _ hvalue hother).mpr h
    exact absurd hholds (by decide +kernel)

/-- The replacement character is matched by the pattern of another character, which does not occur
in it up to the case of ASCII letters. -/
theorem matched_without_occurring :
    let value := "\uFFFE"
    let text := "\uFFFD"
    '\x00' ∉ value.toList ∧ '\x00' ∉ text.toList ∧ isOverlong (containing value) = false ∧
      holds (containing value) text = true ∧ ¬Occurs SameLetter value text := by
  refine ⟨by decide, by decide, by decide +kernel, by decide +kernel, ?_⟩
  rw [occurs_iff SameLetter fun _ _ => sameLetter_iff]
  decide

end DeviceRegistry.Text.Like
