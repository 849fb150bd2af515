import DeviceRegistry.Text.Digit
import Mathlib.Data.List.DropRight
import Mathlib.Data.String.Basic
import Mathlib.Tactic.IntervalCases

/-!
# Numbers in digits

A row of digits is read as the number that it denotes (`denotes_iff`), blanks around it do not count
(`writes_iff`), and a number that is written is read back (`numeral_toDigits`). In rows of one width
(`decimals`) the order of code points is the order of the numbers, and a row that goes on compares
only if the parts before it agree (`append_lt_append_iff`).
-/

namespace DeviceRegistry.Text

/-! ## Reading -/

theorem asciiDigit?_of_isDigit {c : Char} (h : c.isDigit = true) :
    asciiDigit? c = some (c.toNat - '0'.toNat) :=
  if_pos h

/-- The digits from 48 on are those of the first script. -/
theorem digitValue?_of_isDigit {c : Char} (h : c.isDigit = true) :
    digitValue? c = some (c.toNat - '0'.toNat) := by
  obtain ⟨hlow, hhigh⟩ : 48 ≤ c.toNat ∧ c.toNat ≤ 57 := Char.isDigit_iff_toNat.mp h
  have hfound : (zeroDigits.find? fun z => z ≤ c.toNat && c.toNat ≤ z + 9) = some 0x30 :=
    List.find?_cons_of_pos (by simp [hlow, hhigh])
  rw [digitValue?, hfound]
  rfl

theorem isBlank_of_isDigit {c : Char} (h : c.isDigit = true) : isBlank c = false := by
  obtain ⟨hlow, hhigh⟩ : 48 ≤ c.toNat ∧ c.toNat ≤ 57 := Char.isDigit_iff_toNat.mp h
  generalize hn : c.toNat = n at hlow hhigh
  simp only [isBlank, isWhite, hn]
  interval_cases n <;> rfl

/-- A row of digits, each of them ASCII. -/
abbrev Digits (cs : List Char) : Prop :=
  ∀ c ∈ cs, c.isDigit = true

theorem not_mem_of_digits {cs : List Char} (h : Digits cs) {c : Char} (hc : c.isDigit = false) :
    c ∉ cs := fun hmem => by
  rw [h c hmem] at hc
  cases hc

theorem isNumeric_iff {s : String} : isNumeric s = true ↔ s.toList ≠ [] ∧ Digits s.toList := by
  simp [isNumeric, Digits]

theorem numeral_eq {cs : List Char} (h : Digits cs) : numeral cs = Nat.ofDigitChars 10 cs 0 := by
  rw [numeral, Nat.ofDigitChars_eq_foldl]
  refine List.foldl_ext _ _ 0 fun n c hc => ?_
  rw [asciiDigit?_of_isDigit (h c hc), Option.getD_some]

theorem digits_toDigits (n : Nat) : Digits (Nat.toDigits 10 n) :=
  fun _ hc => Nat.isDigit_of_mem_toDigits (by decide) (by decide) hc

theorem numeral_toDigits (n : Nat) : numeral (Nat.toDigits 10 n) = n := by
  rw [numeral_eq (digits_toDigits n), Nat.ofDigitChars_ten_toDigits]

theorem toList_toString (n : Nat) : (toString n).toList = Nat.toDigits 10 n :=
  Nat.toList_repr

theorem isNumeric_toString (n : Nat) : isNumeric (toString n) = true := by
  rw [isNumeric_iff, toList_toString]
  exact ⟨Nat.toDigits_ne_nil, digits_toDigits n⟩

/-- Digits denote the same number whatever script they may be from. -/
theorem digitsValue?_eq {cs : List Char} (hne : cs ≠ []) (h : Digits cs) :
    digitsValue? cs = some (numeral cs) := by
  have hfold : ∀ n, cs.foldl (fun n c => do return 10 * (← n) + (← digitValue? c)) (some n) =
      some (cs.foldl (fun n c => 10 * n + (asciiDigit? c).getD 0) n) := by
    clear hne
    induction cs with
    | nil => exact fun n => rfl
    | cons c cs ih =>
      intro n
      obtain ⟨hc, hcs⟩ := List.forall_mem_cons.mp h
      simp only [List.foldl_cons, digitValue?_of_isDigit hc, asciiDigit?_of_isDigit hc]
      exact ih hcs _
  rw [digitsValue?, if_neg (by simpa using hne), hfold 0, numeral]

section

variable {blank : Char → Bool}

theorem dropWhile_blanks {front cs : List Char} (hfront : ∀ c ∈ front, blank c = true)
    (hne : cs ≠ []) (hcs : ∀ c ∈ cs, blank c = false) (back : List Char) :
    (front ++ (cs ++ back)).dropWhile blank = cs ++ back := by
  rw [List.dropWhile_append_of_pos hfront]
  obtain ⟨c, cs, rfl⟩ := List.exists_cons_of_ne_nil hne
  rw [List.cons_append, List.dropWhile_cons_of_neg (by simp [hcs c (by simp)])]

theorem trimBy_between {front cs back : List Char} (hfront : ∀ c ∈ front, blank c = true)
    (hback : ∀ c ∈ back, blank c = true) (hne : cs ≠ []) (hcs : ∀ c ∈ cs, blank c = false) :
    trimBy blank (front ++ cs ++ back) = cs := by
  have hreversed : (back.reverse ++ (cs.reverse ++ [])).dropWhile blank = cs.reverse ++ [] :=
    dropWhile_blanks (fun c hc => hback c (List.mem_reverse.mp hc)) (by simpa using hne)
      (fun c hc => hcs c (List.mem_reverse.mp hc)) []
  rw [List.append_nil] at hreversed
  rw [trimBy, List.append_assoc, dropWhile_blanks hfront hne hcs, List.reverse_append, hreversed,
    List.reverse_reverse]

theorem exists_append_trimBy (blank : Char → Bool) (cs : List Char) :
    ∃ front back, cs = front ++ trimBy blank cs ++ back ∧ (∀ c ∈ front, blank c = true) ∧
      ∀ c ∈ back, blank c = true := by
  refine ⟨cs.takeWhile blank, (cs.dropWhile blank).rtakeWhile blank, ?_,
    fun c => List.mem_takeWhile_imp, fun c => List.mem_rtakeWhile_imp⟩
  have hback : trimBy blank cs ++ (cs.dropWhile blank).rtakeWhile blank = cs.dropWhile blank :=
    List.rdropWhile_append_rtakeWhile
  rw [List.append_assoc, hback, List.takeWhile_append_dropWhile]

theorem trimBy_of_digits (hblank : ∀ c, c.isDigit = true → blank c = false) {cs : List Char}
    (h : Digits cs) : trimBy blank cs = cs := by
  rcases eq_or_ne cs [] with rfl | hne
  · rfl
  · have htrim : trimBy blank ([] ++ cs ++ []) = cs :=
      trimBy_between nofun nofun hne fun c hc => hblank c (h c hc)
    rwa [List.nil_append, List.append_nil] at htrim

end

theorem trim_of_isNumeric {s : String} (h : isNumeric s = true) : trim s = s := by
  rw [trim, trimBy_of_digits (fun c hc => isBlank_of_isDigit hc) (isNumeric_iff.mp h).2,
    String.ofList_toList]

theorem integer?_of_isNumeric {s : String} (h : isNumeric s = true)
    (hlength : s.length ≤ maxDigits) : integer? s = some (numeral s.toList : Int) := by
  obtain ⟨hne, hdigits⟩ := isNumeric_iff.mp h
  have hwhite : ∀ c : Char, c.isDigit = true → isWhite c = false := fun c hc => by
    have hblank := isBlank_of_isDigit hc
    simp only [isBlank, Bool.or_eq_false_iff] at hblank
    exact hblank.1
  have hvalue : boundedValue? s.toList = some (numeral s.toList) := by
    rw [boundedValue?, if_neg (by rw [String.length_toList]; omega), digitsValue?_eq hne hdigits]
  rw [integer?, trimBy_of_digits hwhite hdigits]
  -- A sign is no digit, so the text is read as a number without one.
  split
  · next cs heq => exact absurd (hdigits '-' (by simp [heq])) (by decide)
  · next cs heq => exact absurd (hdigits '+' (by simp [heq])) (by decide)
  · rw [hvalue]
    rfl

/-! ## Digits of all scripts -/

/-- A code point is the digit with this value, of some script. -/
def IsDigit (code value : Nat) : Prop :=
  value ≤ 9 ∧ ∃ start ∈ zeroDigits, code = start + value

/-- The digits of two scripts do not overlap. -/
theorem zeroDigits_apart :
    ∀ a ∈ zeroDigits, ∀ b ∈ zeroDigits, a ≤ b + 9 → b ≤ a + 9 → a = b := by
  decide +kernel

theorem digitValue?_eq_some {c : Char} {value : Nat} :
    digitValue? c = some value ↔ IsDigit c.toNat value := by
  rw [digitValue?, Option.map_eq_some_iff]
  constructor
  · rintro ⟨start, hfound, rfl⟩
    have hbounds := List.find?_some hfound
    rw [Bool.and_eq_true, decide_eq_true_eq, decide_eq_true_eq] at hbounds
    exact ⟨by omega, start, List.mem_of_find?_eq_some hfound, by omega⟩
  · rintro ⟨hvalue, start, hstart, hc⟩
    cases hfound : zeroDigits.find? fun z => z ≤ c.toNat && c.toNat ≤ z + 9 with
    | none =>
      have hnone := List.find?_eq_none.mp hfound start hstart
      simp only [Bool.and_eq_true, decide_eq_true_eq] at hnone
      omega
    | some z =>
      have hbounds := List.find?_some hfound
      rw [Bool.and_eq_true, decide_eq_true_eq, decide_eq_true_eq] at hbounds
      have hsame := zeroDigits_apart z (List.mem_of_find?_eq_some hfound) start hstart
        (by omega) (by omega)
      exact ⟨z, rfl, by omega⟩

theorem isDigit_ascii {value : Nat} (h : value ≤ 9) : IsDigit (0x30 + value) value :=
  ⟨h, 0x30, by decide, rfl⟩

theorem asciiDigit?_eq_some {c : Char} {value : Nat} :
    asciiDigit? c = some value ↔ value ≤ 9 ∧ c.toNat = 0x30 + value := by
  have hdigit : c.isDigit = true ↔ 48 ≤ c.toNat ∧ c.toNat ≤ 57 := Char.isDigit_iff_toNat
  rw [asciiDigit?, Option.ite_none_right_eq_some, hdigit, Option.some_inj]
  omega

/-! ## Rows of one width -/

/-- The last digits of a number in a row of some width, with zeros in front where it has fewer. -/
def decimals : Nat → Nat → List Char
  | 0, _ => []
  | width + 1, n => decimals width (n / 10) ++ [Nat.digitChar (n % 10)]

@[simp] theorem length_decimals (width n : Nat) : (decimals width n).length = width := by
  induction width generalizing n with
  | zero => rfl
  | succ width ih => simp [decimals, ih]

/-- A row is a row of the leading digits, followed by one of the others. -/
theorem decimals_add (front back n : Nat) :
    decimals (front + back) n = decimals front (n / 10 ^ back) ++ decimals back n := by
  induction back generalizing n with
  | zero => simp [decimals]
  | succ back ih =>
    rw [← Nat.add_assoc, decimals, decimals, ih, Nat.div_div_eq_div_mul, ← Nat.pow_succ',
      List.append_assoc]

theorem toDigits_eq_decimals (width : Nat) {n : Nat} (hlow : 10 ^ width ≤ n)
    (hhigh : n < 10 ^ (width + 1)) : Nat.toDigits 10 n = decimals (width + 1) n := by
  induction width generalizing n with
  | zero =>
    rw [Nat.toDigits_of_lt_base (by simpa using hhigh), decimals, decimals, List.nil_append,
      Nat.mod_eq_of_lt (by simpa using hhigh)]
  | succ width ih =>
    rw [Nat.pow_succ] at hlow hhigh
    have hpos := Nat.pow_pos (n := width) (show 0 < 10 by decide)
    rw [Nat.toDigits_of_base_le (by decide) (by omega), ih (by omega) (by omega)]
    rfl

theorem toList_twoDigits {n : Nat} (h : n < 100) : (twoDigits n).toList = decimals 2 n := by
  unfold twoDigits
  split
  · next hn =>
    rw [String.toList_append, toList_toString, Nat.toDigits_of_lt_base hn]
    simp [decimals, Nat.div_eq_of_lt hn, Nat.mod_eq_of_lt hn]
  · next hn =>
    rw [toList_toString]
    exact toDigits_eq_decimals 1 (by omega) (by omega)

theorem isDigit_digitChar {value : Nat} (h : value < 10) :
    (Nat.digitChar value).isDigit = true := by
  rw [Nat.isDigit_digitChar]
  exact decide_eq_true h

theorem digits_decimals (width n : Nat) : Digits (decimals width n) := by
  induction width generalizing n with
  | zero => simp [Digits, decimals]
  | succ width ih =>
    intro c hc
    rcases List.mem_append.mp hc with hc | hc
    · exact ih _ c hc
    · rw [List.mem_singleton.mp hc]
      exact isDigit_digitChar (Nat.mod_lt _ (by decide))

theorem numeral_concat (cs : List Char) {digit : Nat} (h : digit < 10) :
    numeral (cs ++ [Nat.digitChar digit]) = 10 * numeral cs + digit := by
  rw [numeral, List.foldl_append, ← numeral, List.foldl_cons, List.foldl_nil,
    asciiDigit?_of_isDigit (isDigit_digitChar h), Option.getD_some,
    Nat.toNat_digitChar_of_lt_ten h]
  exact congrArg (10 * numeral cs + ·) (Nat.add_sub_cancel_left 48 digit)

/-- A row of some width behind other digits moves them by so many places. -/
theorem numeral_append_decimals (cs : List Char) (width n : Nat) :
    numeral (cs ++ decimals width n) = 10 ^ width * numeral cs + n % 10 ^ width := by
  induction width generalizing n with
  | zero => simp [decimals, Nat.mod_one]
  | succ width ih =>
    rw [decimals, ← List.append_assoc, numeral_concat _ (Nat.mod_lt _ (by decide)), ih,
      Nat.pow_succ', Nat.mod_mul, Nat.mul_add, Nat.mul_assoc, Nat.add_assoc, Nat.add_comm (n % 10)]

theorem numeral_decimals {width n : Nat} (h : n < 10 ^ width) : numeral (decimals width n) = n := by
  have hrow := numeral_append_decimals [] width n
  rwa [List.nil_append, Nat.mod_eq_of_lt h, show numeral [] = 0 from rfl, Nat.mul_zero,
    Nat.zero_add] at hrow

/-! ## Texts that write a number -/

/-- A row of digits denotes a number: a digit its value, and a row with a digit behind it ten times
the number of the row and the value of the digit. -/
inductive Denotes : List Char → Nat → Prop
  | digit {value : Nat} (h : value < 10) : Denotes [Nat.digitChar value] value
  | concat {cs : List Char} {n value : Nat} (row : Denotes cs n) (h : value < 10) :
      Denotes (cs ++ [Nat.digitChar value]) (10 * n + value)

/-- A text writes a number: it has digits that denote it, and nothing but blanks around them. -/
def Writes (s : String) (n : Nat) : Prop :=
  ∃ front digits back, s.toList = front ++ digits ++ back ∧ Denotes digits n ∧
    (∀ c ∈ front, isBlank c = true) ∧ ∀ c ∈ back, isBlank c = true

theorem exists_digitChar {c : Char} (h : c.isDigit = true) :
    ∃ value < 10, c = Nat.digitChar value := by
  obtain ⟨hlow, hhigh⟩ : 48 ≤ c.toNat ∧ c.toNat ≤ 57 := Char.isDigit_iff_toNat.mp h
  refine ⟨c.toNat - 48, by omega, Char.toNat_inj.mp ?_⟩
  rw [Nat.toNat_digitChar_of_lt_ten (by omega)]
  omega

theorem numeral_digit {value : Nat} (h : value < 10) : numeral [Nat.digitChar value] = value := by
  have hconcat := numeral_concat [] h
  rwa [List.nil_append, show numeral [] = 0 from rfl, Nat.mul_zero, Nat.zero_add] at hconcat

theorem Denotes.digits {cs : List Char} {n : Nat} (h : Denotes cs n) : cs ≠ [] ∧ Digits cs := by
  induction h with
  | digit h => exact ⟨nofun, List.forall_mem_singleton.mpr (isDigit_digitChar h)⟩
  | concat row h ih =>
    have hlast : Digits [Nat.digitChar _] := List.forall_mem_singleton.mpr (isDigit_digitChar h)
    exact ⟨by simp, List.forall_mem_append.mpr ⟨ih.2, hlast⟩⟩

theorem Denotes.numeral_eq {cs : List Char} {n : Nat} (h : Denotes cs n) : numeral cs = n := by
  induction h with
  | digit h => exact numeral_digit h
  | concat row h ih => rw [numeral_concat _ h, ih]

theorem denotes_numeral {cs : List Char} (hne : cs ≠ []) (h : Digits cs) :
    Denotes cs (numeral cs) := by
  induction cs using List.reverseRecOn with
  | nil => exact absurd rfl hne
  | append_singleton cs c ih =>
    obtain ⟨value, hvalue, rfl⟩ := exists_digitChar (h c (by simp))
    rcases eq_or_ne cs [] with rfl | hcs
    · rw [List.nil_append, numeral_digit hvalue]
      exact .digit hvalue
    · rw [numeral_concat cs hvalue]
      exact .concat (ih hcs fun c hc => h c (List.mem_append_left _ hc)) hvalue

/-- A row denotes the number of its digits, if it has any and has nothing else. -/
theorem denotes_iff {cs : List Char} {n : Nat} :
    Denotes cs n ↔ (cs ≠ [] ∧ Digits cs) ∧ numeral cs = n := by
  constructor
  · exact fun h => ⟨h.digits, h.numeral_eq⟩
  · rintro ⟨⟨hne, hdigits⟩, rfl⟩
    exact denotes_numeral hne hdigits

/-- A text writes a number if it is numeric between its blanks, and then the number of its
digits. -/
theorem writes_iff {s : String} {n : Nat} :
    Writes s n ↔ isNumeric (trim s) = true ∧ numeral (trim s).toList = n := by
  have htrim : (trim s).toList = trimBy isBlank s.toList := String.toList_ofList
  rw [isNumeric_iff, ← denotes_iff, htrim]
  constructor
  · rintro ⟨front, digits, back, hs, hdenotes, hfront, hback⟩
    obtain ⟨hne, hdigits⟩ := hdenotes.digits
    rwa [hs, trimBy_between hfront hback hne fun c hc => isBlank_of_isDigit (hdigits c hc)]
  · intro hdenotes
    obtain ⟨front, back, hs, hfront, hback⟩ := exists_append_trimBy isBlank s.toList
    exact ⟨front, _, back, hs, hdenotes, hfront, hback⟩

/-! ## Order -/

/-- Where the fronts have one length the backs count only if the fronts agree. -/
theorem append_lt_append_iff {as bs xs ys : List Char} (h : as.length = bs.length) :
    as ++ xs < bs ++ ys ↔ as < bs ∨ as = bs ∧ xs < ys := by
  induction as generalizing bs with
  | nil =>
    obtain rfl := List.length_eq_zero_iff.mp h.symm
    simp
  | cons a as ih =>
    cases bs with
    | nil => cases h
    | cons b bs =>
      rw [List.cons_append, List.cons_append, List.cons_lt_cons_iff, List.cons_lt_cons_iff,
        ih (Nat.succ.inj h), List.cons.injEq]
      tauto

theorem digitChar_lt_iff {m n : Nat} (hm : m < 10) (hn : n < 10) :
    Nat.digitChar m < Nat.digitChar n ↔ m < n := by
  rw [Char.lt_def, UInt32.lt_iff_toNat_lt]
  show (Nat.digitChar m).toNat < (Nat.digitChar n).toNat ↔ m < n
  rw [Nat.toNat_digitChar_of_lt_ten hm, Nat.toNat_digitChar_of_lt_ten hn]
  omega

theorem digitChar_inj {m n : Nat} (hm : m < 10) (hn : n < 10)
    (h : Nat.digitChar m = Nat.digitChar n) : m = n := by
  have htoNat := congrArg Char.toNat h
  rw [Nat.toNat_digitChar_of_lt_ten hm, Nat.toNat_digitChar_of_lt_ten hn] at htoNat
  omega

theorem decimals_inj (width : Nat) {m n : Nat} (hm : m < 10 ^ width) (hn : n < 10 ^ width) :
    decimals width m = decimals width n ↔ m = n := by
  refine ⟨fun h => ?_, fun h => h ▸ rfl⟩
  induction width generalizing m n with
  | zero => omega
  | succ width ih =>
    rw [Nat.pow_succ] at hm hn
    obtain ⟨hfront, hlast⟩ := List.append_inj h (by simp)
    have hdiv := ih (by omega) (by omega) hfront
    have hmod := digitChar_inj (Nat.mod_lt _ (by decide)) (Nat.mod_lt _ (by decide))
      (List.singleton_inj.mp hlast)
    omega

theorem decimals_lt_iff (width : Nat) {m n : Nat} (hm : m < 10 ^ width) (hn : n < 10 ^ width) :
    decimals width m < decimals width n ↔ m < n := by
  induction width generalizing m n with
  | zero => simp [decimals]; omega
  | succ width ih =>
    rw [Nat.pow_succ] at hm hn
    rw [decimals, decimals, append_lt_append_iff (by simp), ih (by omega) (by omega),
      decimals_inj width (by omega) (by omega), List.cons_lt_cons_iff,
      digitChar_lt_iff (Nat.mod_lt _ (by decide)) (Nat.mod_lt _ (by decide))]
    simp
    omega

end DeviceRegistry.Text
