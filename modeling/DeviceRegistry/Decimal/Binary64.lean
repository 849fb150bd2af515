/-!
# Double precision

The non-negative numbers of double precision as `significand * 2 ^ exponent`, in exact arithmetic.
A quotient of naturals rounds to the nearest of them, a tie to the even significand. Numbers too
large for the format round to infinity.
-/

namespace DeviceRegistry.Decimal

/-- A finite number `significand * 2 ^ exponent`. -/
structure Binary64 where
  significand : Nat
  exponent : Int
  deriving DecidableEq, Repr, Inhabited

namespace Binary64

/-- A power of two. -/
def twoTo (n : Nat) : Nat := Nat.pow 2 n

/-- A power of ten. -/
def tenTo (n : Nat) : Nat := Nat.pow 10 n

/-- The number of significand bits. -/
def precision : Nat := 53

/-- The smallest exponent. -/
def minExponent : Int := -1074

/-- The largest exponent of a normalised number. -/
def maxExponent : Int := 971

/-- A quotient rounded to the nearest natural, a tie to the even one. -/
def roundDiv (num den : Nat) : Nat :=
  let q := num / den
  let r := num % den
  if 2 * r < den then q
  else if den < 2 * r then q + 1
  else if q % 2 = 0 then q else q + 1

/-- The value as a quotient of naturals. -/
def ratio (x : Binary64) : Nat × Nat :=
  if 0 ≤ x.exponent then (x.significand * twoTo x.exponent.toNat, 1)
  else (x.significand, twoTo (-x.exponent).toNat)

/-- The quotient in units of `2 ^ exponent`, rounded. -/
def scaled (num den : Nat) (exponent : Int) : Nat :=
  if 0 ≤ exponent then roundDiv num (den * twoTo exponent.toNat)
  else roundDiv (num * twoTo (-exponent).toNat) den

/-- The exponent at which the quotient has the full number of significand bits. -/
def exponentFor (num den : Nat) : Int :=
  let guess : Int := (num.log2 : Int) - den.log2 - precision
  let below := (List.range 3).map fun (i : Nat) => guess + i
  max minExponent ((below.find? fun e => scaled num den e ≤ twoTo precision).getD (guess + 2))

/-- The nearest number of the format; none stands for infinity. -/
def ofRatio? (num den : Nat) : Option Binary64 :=
  if num = 0 then some ⟨0, minExponent⟩
  else
    let e := exponentFor num den
    let m := scaled num den e
    let x : Binary64 := if m = twoTo precision then ⟨twoTo (precision - 1), e + 1⟩ else ⟨m, e⟩
    if x.exponent ≤ maxExponent then some x else none

/-- The number of the format nearest to a quotient, again as a quotient; one too large for the
format stays as it is. -/
def nearest (num : Int) (den : Nat) : Int × Nat :=
  match ofRatio? num.natAbs den with
  | some x => (if num < 0 then -(x.ratio.1 : Int) else x.ratio.1, x.ratio.2)
  | none => (num, den)

/-- The quotient that `digits * 10 ^ exponent` denotes. -/
def decimalRatio (digits : Nat) (exponent : Int) : Nat × Nat :=
  if 0 ≤ exponent then (digits * tenTo exponent.toNat, 1) else (digits, tenTo (-exponent).toNat)

/-- The number of the format nearest to `digits * 10 ^ exponent`. A decimal below `10 ^ -400` is
zero and one from `10 ^ 400` on is infinite, whatever its digits. -/
def ofDecimal? (digits : Nat) (exponent : Int) : Option Binary64 :=
  let size := exponent + (Nat.toDigits 10 digits).length
  if digits = 0 ∨ size < -400 then some ⟨0, minExponent⟩
  else if 400 < size then none
  else
    let r := decimalRatio digits exponent
    ofRatio? r.1 r.2

example : ofDecimal? 1 0 = some ⟨4503599627370496, -52⟩ := by decide +kernel

example : ofDecimal? 5 (-324) = some ⟨1, -1074⟩ := by decide +kernel

example : ofDecimal? 2 (-324) = some ⟨0, -1074⟩ := by decide +kernel

example : ofDecimal? 1 309 = none := by decide +kernel

end Binary64

end DeviceRegistry.Decimal
