import DeviceRegistry.Decimal.Binary64

/-!
# Shortest decimals

The fewest decimal digits that read back as the same number of double precision, the nearest of
those with so many digits, and their text: positional with at least one decimal for exponents from
-4 to 15, with a power of ten otherwise. A power of two is nearer to the number below it than to the
one above, so the nearest decimal need not read back where the one on its other side does.
-/

namespace DeviceRegistry.Decimal

namespace Binary64

/-- The decimal exponent of the first digit of a positive quotient. -/
def leadingExponent (num den : Nat) : Int :=
  let guess : Int := ((Nat.toDigits 10 num).length : Int) - (Nat.toDigits 10 den).length
  let r := decimalRatio 1 guess
  if num * r.2 < den * r.1 then guess - 1 else guess

/-- The two multiples of `10 ^ exponent` beside a quotient, the nearer one first. -/
def nearMultiples (num den : Nat) (exponent : Int) : List Nat :=
  let r := decimalRatio 1 exponent
  let below := num * r.2 / (den * r.1)
  if roundDiv (num * r.2) (den * r.1) = below then [below, below + 1] else [below + 1, below]

/-- The shortest decimal, as digits and exponent, that reads back as the number. -/
def shortest (x : Binary64) : Nat × Int :=
  let r := x.ratio
  let lead := leadingExponent r.1 r.2
  let candidates := (List.range 17).flatMap fun (i : Nat) =>
    let e := lead - i
    (nearMultiples r.1 r.2 e).map fun digits => (digits, e)
  match candidates.find? fun c => ofDecimal? c.1 c.2 == some x with
  | some c => c
  | none => candidates.getLastD (0, 0)

end Binary64

/-- Digits without the zeros at their end. -/
def stripZeros (digits : List Char) : List Char :=
  (digits.reverse.dropWhile (· == '0')).reverse

/-- The text of a decimal whose first digit has the exponent `lead`. -/
def layout (digits : List Char) (lead : Int) : List Char :=
  if -4 ≤ lead ∧ lead < 0 then
    '0' :: '.' :: List.replicate (-lead - 1).toNat '0' ++ digits
  else if 0 ≤ lead ∧ lead < 16 then
    let whole := lead.toNat + 1
    let padded := digits ++ List.replicate (whole - digits.length) '0'
    let rest := padded.drop whole
    padded.take whole ++ '.' :: (if rest.isEmpty then ['0'] else rest)
  else
    let power := Nat.toDigits 10 lead.natAbs
    let sign := if lead < 0 then '-' else '+'
    let rest := digits.drop 1
    digits.take 1 ++ (if rest.isEmpty then [] else '.' :: rest) ++ 'e' :: sign ::
      (List.replicate (2 - power.length) '0' ++ power)

/-- The text of a finite number. -/
def Binary64.text (x : Binary64) : String :=
  if x.significand = 0 then "0.0"
  else
    let s := x.shortest
    let digits := Nat.toDigits 10 s.1
    String.ofList (layout (stripZeros digits) (s.2 + (digits.length : Int) - 1))

end DeviceRegistry.Decimal
