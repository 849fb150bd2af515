import DeviceRegistry.Listing.Statement
import DeviceRegistry.Proofs.Store.Statements
import DeviceRegistry.Proofs.Text.Numerals

/-!
# Numbers of pages

A page and a size are accepted exactly if they are not filled, or write a number within bounds
(`Asks`). The bound of a page is set by the largest size. So at every size that is accepted with it
a statement can take its offset, and no row is on two pages (`pages_fit`).
-/

namespace DeviceRegistry.Listing

/-! ## Numbers that are asked for -/

/-- A field asks for a number: for a default if it is null or the empty text, and else for the
number that it writes, if that is within bounds. -/
inductive Asks (default : Nat) (Within : Nat → Prop) : Option String → Nat → Prop
  | absent : Asks default Within none default
  | empty : Asks default Within (some "") default
  | written {s : String} {n : Nat} (writes : Text.Writes s n) (within : Within n) :
      Asks default Within (some s) n

/-- A page has an offset, at the largest size, that is an integer of 64 bits with a sign. -/
def PageWithin (p : Nat) : Prop :=
  1 ≤ p ∧ (p - 1) * 5000 ≤ 2 ^ 63 - 1

/-- A size is at least one row and at most the largest size. -/
def SizeWithin (n : Nat) : Prop :=
  1 ≤ n ∧ n ≤ 5000

/-- A field that is no longer than the numbers that are read. -/
def Short (value : Option String) : Prop :=
  ∀ s ∈ value, (Text.trim s).length ≤ Text.maxDigits

theorem Asks.within {default : Nat} {Within : Nat → Prop} {value : Option String} {n : Nat}
    (h : Asks default Within value n) (hdefault : Within default) : Within n := by
  cases h with
  | absent => exact hdefault
  | empty => exact hdefault
  | written writes within => exact within

theorem short_some {s : String} : Short (some s) ↔ (Text.trim s).length ≤ Text.maxDigits := by
  simp [Short]

theorem length_trim_le (s : String) : (Text.trim s).length ≤ s.length := by
  obtain ⟨front, back, hs, -, -⟩ := Text.exists_append_trimBy Text.isBlank s.toList
  have hlength := congrArg List.length hs
  have htrim : (Text.trim s).length = (Text.trimBy Text.isBlank s.toList).length := by
    rw [← String.length_toList, Text.trim, String.toList_ofList]
  simp only [String.length_toList, List.length_append] at hlength
  omega

theorem short_of_length_le {value : Option String} (h : ∀ s ∈ value, s.length ≤ Text.maxDigits) :
    Short value :=
  fun s hs => (length_trim_le s).trans (h s hs)

theorem readNumber_eq_ok {cause : Rejection} {s : String} {n : Nat} :
    readNumber cause s = .ok n ↔ Text.Writes s n ∧ Short (some s) := by
  rw [Text.writes_iff, short_some, readNumber]
  by_cases hnumeric : Text.isNumeric (Text.trim s) = true
  · by_cases hshort : Text.maxDigits < (Text.trim s).length
    · simp [hnumeric, hshort]
    · simp [hnumeric, hshort, Nat.not_lt.mp hshort]
  · simp [hnumeric]

theorem not_writes_empty (n : Nat) : ¬Text.Writes "" n := by
  rw [Text.writes_iff]
  exact fun h => absurd h.1 (by decide)

/-- Reading a field that is filled, with a default for one that is not. -/
theorem resolve_eq_ok {cause : Rejection} {default : Nat} {Within : Nat → Prop}
    {accept : Nat → Except Failure Nat} (haccept : ∀ m n, accept m = .ok n ↔ m = n ∧ Within n)
    {value : Option String} {n : Nat} :
    (match Text.filled? value with
      | none => Except.ok default
      | some s => readNumber cause s >>= accept) = .ok n ↔
      Asks default Within value n ∧ Short value := by
  cases value with
  | none =>
    constructor
    · rintro ⟨⟩
      exact ⟨.absent, nofun⟩
    · rintro ⟨⟨⟩, -⟩
      rfl
  | some s =>
    by_cases hempty : s = ""
    · subst hempty
      constructor
      · rintro ⟨⟩
        exact ⟨.empty, short_some.mpr (by decide)⟩
      · rintro ⟨h, -⟩
        cases h with
        | empty => rfl
        | written hwrites => exact absurd hwrites (not_writes_empty n)
    · have hfilled : Text.filled? (some s) = some s :=
        Text.filled?_eq_some.mpr ⟨rfl, by simpa [String.isEmpty_iff] using hempty⟩
      simp only [hfilled, bind_eq_ok, readNumber_eq_ok, haccept]
      constructor
      · rintro ⟨_, ⟨hwrites, hshort⟩, rfl, hwithin⟩
        exact ⟨.written hwrites hwithin, hshort⟩
      · rintro ⟨h, hshort⟩
        cases h with
        | empty => exact absurd rfl hempty
        | written hwrites hwithin => exact ⟨n, ⟨hwrites, hshort⟩, rfl, hwithin⟩

theorem resolvePage_eq_ok {value : Option String} {p : Nat} :
    resolvePage value = .ok p ↔ Asks 1 PageWithin value p ∧ Short value := by
  refine resolve_eq_ok fun m n => ?_
  dsimp only
  by_cases hzero : m = 0
  · rw [if_pos hzero]
    constructor
    · rintro ⟨⟩
    · rintro ⟨rfl, hpos, -⟩
      omega
  rw [if_neg hzero]
  by_cases hfar : maxOffset < (m - 1) * maxSize
  · rw [if_pos hfar]
    constructor
    · rintro ⟨⟩
    · rintro ⟨rfl, -, hnear⟩
      exact absurd hfar (Nat.not_lt.mpr hnear)
  · rw [if_neg hfar]
    constructor
    · rintro ⟨⟩
      exact ⟨rfl, Nat.one_le_iff_ne_zero.mpr hzero, Nat.not_lt.mp hfar⟩
    · rintro ⟨rfl, -⟩
      rfl

theorem resolveSize_eq_ok {value : Option String} {n : Nat} :
    resolveSize value = .ok n ↔ Asks 20 SizeWithin value n ∧ Short value := by
  refine resolve_eq_ok fun m n => ?_
  by_cases hwithin : minSize ≤ m ∧ m ≤ maxSize
  · rw [if_pos hwithin]
    constructor
    · rintro ⟨⟩
      exact ⟨rfl, hwithin⟩
    · rintro ⟨rfl, -⟩
      rfl
  · rw [if_neg hwithin]
    constructor
    · rintro ⟨⟩
    · rintro ⟨rfl, h⟩
      exact absurd h hwithin

theorem bounds_of_resolvePage {value : Option String} {k : Nat} (h : resolvePage value = .ok k) :
    1 ≤ k ∧ (k - 1) * maxSize ≤ maxOffset :=
  (resolvePage_eq_ok.mp h).1.within ⟨by decide, by decide⟩

theorem bounds_of_resolveSize {value : Option String} {size : Nat}
    (h : resolveSize value = .ok size) : minSize ≤ size ∧ size ≤ maxSize :=
  (resolveSize_eq_ok.mp h).1.within ⟨by decide, by decide⟩

/-! ## Numbers in words -/

theorem writes_toString (n : Nat) : Text.Writes (toString n) n := by
  have hnumeric := Text.isNumeric_toString n
  rw [Text.writes_iff, Text.trim_of_isNumeric hnumeric, Text.toList_toString]
  exact ⟨hnumeric, Text.numeral_toDigits n⟩

theorem short_toString {n : Nat} (h : n < 10 ^ 20) : Short (some (toString n)) := by
  have hdigits := (Nat.length_toDigits_le_iff (b := 10) (k := 20) (by decide) (by decide)).mpr h
  rw [short_some, Text.trim_of_isNumeric (Text.isNumeric_toString n), ← String.length_toList,
    Text.toList_toString]
  exact hdigits.trans (by decide)

theorem resolvePage_toString {k : Nat} (hpos : 1 ≤ k) (hoffset : (k - 1) * maxSize ≤ maxOffset) :
    resolvePage (some (toString k)) = .ok k := by
  have hbound : k < 10 ^ 20 := by
    simp only [maxSize, maxOffset] at hoffset
    omega
  exact resolvePage_eq_ok.mpr
    ⟨.written (writes_toString k) ⟨hpos, hoffset⟩, short_toString hbound⟩

theorem resolveSize_toString {size : Nat} (hlow : minSize ≤ size) (hhigh : size ≤ maxSize) :
    resolveSize (some (toString size)) = .ok size := by
  have hbound : size < 10 ^ 20 := by
    simp only [maxSize] at hhigh
    omega
  exact resolveSize_eq_ok.mpr
    ⟨.written (writes_toString size) ⟨hlow, hhigh⟩, short_toString hbound⟩

/-! ## Rows of pages -/

theorem bounds_of_mem_pageValues {page size : Option String} {k n : Nat}
    (hpage : resolvePage page = .ok k) (hsize : resolveSize size = .ok n) {m : Int}
    (hm : m ∈ Statement.pageValues k n) : 0 ≤ m ∧ m ≤ Store.maxInteger := by
  obtain ⟨hpos, hoffset⟩ := bounds_of_resolvePage hpage
  obtain ⟨-, hhigh⟩ := bounds_of_resolveSize hsize
  have hle := Nat.mul_le_mul_left (k - 1) hhigh
  have hcast : ((k : Int) - 1) * n = ((k - 1) * n : Nat) := by
    rw [Nat.cast_mul, Nat.cast_sub hpos, Nat.cast_one]
  simp only [Statement.pageValues, List.mem_cons, List.not_mem_nil, or_false, hcast] at hm
  simp only [maxSize, maxOffset] at hle hoffset hhigh
  unfold Store.maxInteger
  omega

/-- A statement fetches a row, counted from zero, with a limit and an offset. -/
def Fetches : List Int → Int → Prop
  | [limit, offset], row => offset ≤ row ∧ row < offset + limit
  | _, _ => False

/-- The page of a row is told by division. -/
theorem fetches_iff {page size row : Int} (hsize : 0 < size) :
    Fetches (Statement.pageValues page size) row ↔ row / size = page - 1 := by
  have hnext : (page - 1) * size + size = page * size := by
    rw [Int.sub_mul, Int.one_mul, Int.sub_add_cancel]
  show (page - 1) * size ≤ row ∧ row < (page - 1) * size + size ↔ _
  rw [hnext, ← Int.le_ediv_iff_mul_le hsize, ← Int.ediv_lt_iff_lt_mul hsize]
  omega

/-- A page and a size of at most 4300 characters each are accepted exactly if they are null or
empty, or write a number within bounds. For a page and a size that are accepted, a statement is
given the size and the offset, neither of them is negative or exceeds 64 bits with a sign, and it
fetches no row that is fetched for another page. -/
theorem pages_fit (page size : Option String) (hpage : ∀ s ∈ page, s.length ≤ 4300)
    (hsize : ∀ s ∈ size, s.length ≤ 4300) :
    (∀ p, resolvePage page = .ok p ↔ Asks 1 PageWithin page p) ∧
    (∀ n, resolveSize size = .ok n ↔ Asks 20 SizeWithin size n) ∧
    ∀ p n, resolvePage page = .ok p → resolveSize size = .ok n →
      Statement.pageValues p n = [(n : Int), ((p : Int) - 1) * n] ∧
      (∀ value ∈ Statement.pageValues p n, 0 ≤ value ∧ value ≤ 2 ^ 63 - 1) ∧
      ∀ other k, resolvePage other = .ok k → k ≠ p →
        ∀ row, Fetches (Statement.pageValues p n) row →
          ¬Fetches (Statement.pageValues k n) row := by
  refine ⟨fun p => ?_, fun n => ?_, fun p n hp hn => ⟨rfl, fun value => ?_, ?_⟩⟩
  · exact resolvePage_eq_ok.trans (and_iff_left (short_of_length_le hpage))
  · exact resolveSize_eq_ok.trans (and_iff_left (short_of_length_le hsize))
  · exact bounds_of_mem_pageValues hp hn
  · intro other k _ hne row hrow hother
    obtain ⟨hpos, -⟩ := bounds_of_resolveSize hn
    have hpositive : (0 : Int) < n := Int.natCast_pos.mpr hpos
    rw [fetches_iff hpositive] at hrow hother
    omega

/-- The last page, written with blanks and zeros, at the largest size; there is no page after it. -/
theorem pages_fit_last :
    let page := "\u200301844674407370956\n"
    let size := "5000 "
    (∀ s ∈ some page, s.length ≤ 4300) ∧ (∀ s ∈ some size, s.length ≤ 4300) ∧
      resolvePage (some page) = .ok 1844674407370956 ∧ resolveSize (some size) = .ok 5000 ∧
      Asks 1 PageWithin (some page) 1844674407370956 ∧ Asks 20 SizeWithin (some size) 5000 ∧
      (∀ value ∈ Statement.pageValues 1844674407370956 5000, 0 ≤ value ∧ value ≤ 2 ^ 63 - 1) ∧
      resolvePage (some "1844674407370957") = .error (.rejected .pageOutOfRange) := by
  intro page size
  have hpage : ∀ s ∈ some page, s.length ≤ 4300 := by decide
  have hsize : ∀ s ∈ some size, s.length ≤ 4300 := by decide
  have hp : resolvePage (some page) = .ok 1844674407370956 := by decide +kernel
  have hn : resolveSize (some size) = .ok 5000 := by decide +kernel
  obtain ⟨hasksPage, hasksSize, hfit⟩ := pages_fit (some page) (some size) hpage hsize
  exact ⟨hpage, hsize, hp, hn, (hasksPage _).mp hp, (hasksSize _).mp hn, (hfit _ _ hp hn).2.1,
    by decide +kernel⟩

end DeviceRegistry.Listing
