import DeviceRegistry.Calendar.Stamp

/-!
# Factory dates

Request payloads write a date as `2019/01/31`: four digits, two digits and two digits between
slashes. The digits of the year and the last digit of a day from 10 to 29 may come from any script,
the others are ASCII digits. The date has to exist.
-/

namespace DeviceRegistry.Calendar

/-- A month from its two digits. -/
def month? (tens units : Char) : Option Nat :=
  match Text.asciiDigit? tens, Text.asciiDigit? units with
  | some 0, some u => if 1 ≤ u then some u else none
  | some 1, some u => if u ≤ 2 then some (10 + u) else none
  | _, _ => none

/-- A day of a month from its two digits. -/
def dayOfMonth? (tens units : Char) : Option Nat :=
  match Text.asciiDigit? tens with
  | some 0 => (Text.asciiDigit? units).bind fun u => if 1 ≤ u then some u else none
  | some 1 => (Text.digitValue? units).map (10 + ·)
  | some 2 => (Text.digitValue? units).map (20 + ·)
  | some 3 => (Text.asciiDigit? units).bind fun u => if u ≤ 1 then some (30 + u) else none
  | _ => none

/-- A year from its four digits. -/
def year? (a b c d : Char) : Option Nat := do
  let a ← Text.digitValue? a
  let b ← Text.digitValue? b
  let c ← Text.digitValue? c
  let d ← Text.digitValue? d
  return 1000 * a + 100 * b + 10 * c + d

/-- The date that a factory date text denotes. -/
def Date.ofFactoryText? (s : String) : Option Date :=
  match s.toList with
  | [y₁, y₂, y₃, y₄, '/', m₁, m₂, '/', d₁, d₂] => do
    let date : Date := { year := ← year? y₁ y₂ y₃ y₄, month := ← month? m₁ m₂,
                         day := ← dayOfMonth? d₁ d₂ }
    if date.Exists then some date else none
  | _ => none

/-- Only dates that exist are read. -/
theorem Date.exists_of_ofFactoryText? {s : String} {d : Date}
    (h : Date.ofFactoryText? s = some d) : d.Exists := by
  unfold Date.ofFactoryText? at h
  split at h
  · simp only [bind, Option.bind_eq_some_iff] at h
    obtain ⟨y, -, m, -, n, -, h⟩ := h
    split at h
    · next hd => exact Option.some.inj h ▸ hd
    · simp at h
  · simp at h

end DeviceRegistry.Calendar
