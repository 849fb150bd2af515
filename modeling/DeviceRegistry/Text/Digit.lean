import DeviceRegistry.Text.Blank

/-!
# Decimal digits

Identifiers and numbers are written with the ten ASCII digits. Dates also take the decimal digits
of the other scripts, each script having its ten digits in order from a zero.
-/

namespace DeviceRegistry.Text

/-- The code points of the zeros of all scripts with decimal digits. -/
def zeroDigits : List Nat := [
  0x30, 0x660, 0x6f0, 0x7c0, 0x966, 0x9e6, 0xa66, 0xae6, 0xb66, 0xbe6, 0xc66, 0xce6, 0xd66, 0xde6,
  0xe50, 0xed0, 0xf20, 0x1040, 0x1090, 0x17e0, 0x1810, 0x1946, 0x19d0, 0x1a80, 0x1a90, 0x1b50,
  0x1bb0, 0x1c40, 0x1c50, 0xa620, 0xa8d0, 0xa900, 0xa9d0, 0xa9f0, 0xaa50, 0xabf0, 0xff10, 0x104a0,
  0x10d30, 0x11066, 0x110f0, 0x11136, 0x111d0, 0x112f0, 0x11450, 0x114d0, 0x11650, 0x116c0,
  0x11730, 0x118e0, 0x11950, 0x11c50, 0x11d50, 0x11da0, 0x16a60, 0x16ac0, 0x16b50, 0x1d7ce,
  0x1d7d8, 0x1d7e2, 0x1d7ec, 0x1d7f6, 0x1e140, 0x1e2f0, 0x1e950, 0x1fbf0]

/-- The value of a decimal digit of any script. -/
def digitValue? (c : Char) : Option Nat :=
  (zeroDigits.find? fun z => z ≤ c.toNat && c.toNat ≤ z + 9).map (c.toNat - ·)

/-- The value of an ASCII digit, and of no other character. -/
def asciiDigit? (c : Char) : Option Nat :=
  if c.isDigit then some (c.toNat - 0x30) else none

/-- The value of a hexadecimal digit. -/
def hexDigit? (c : Char) : Option Nat :=
  if c.isDigit then some (c.toNat - 0x30)
  else if 'a' ≤ c ∧ c ≤ 'f' then some (c.toNat - 0x57)
  else if 'A' ≤ c ∧ c ≤ 'F' then some (c.toNat - 0x37)
  else none

/-- The number that a row of ASCII digits denotes; other characters do not count. -/
def numeral (cs : List Char) : Nat :=
  cs.foldl (fun n c => 10 * n + (asciiDigit? c).getD 0) 0

/-- A text of one or more ASCII digits. -/
def isNumeric (s : String) : Bool :=
  !s.toList.isEmpty && s.toList.all Char.isDigit

/-- A text of one or more ASCII letters and digits. -/
def isAlphanumeric (s : String) : Bool :=
  !s.toList.isEmpty && s.toList.all Char.isAlphanum

/-- The number that digits of any script denote; none if there are none or other characters. -/
def digitsValue? (cs : List Char) : Option Nat :=
  if cs.isEmpty then none
  else cs.foldl (fun n c => do return 10 * (← n) + (← digitValue? c)) (some 0)

/-- The largest number of digits that are read as a number. -/
def maxDigits : Nat := 4300

/-- The number that digits of any script denote, unless there are too many of them. -/
def boundedValue? (cs : List Char) : Option Nat :=
  if maxDigits < cs.length then none else digitsValue? cs

/-- The integer that a text denotes, with an optional sign and white space around it. -/
def integer? (s : String) : Option Int :=
  match trimBy isWhite s.toList with
  | '-' :: cs => (boundedValue? cs).map fun n => -n
  | '+' :: cs => (boundedValue? cs).map Int.ofNat
  | cs => (boundedValue? cs).map Int.ofNat

/-- A number below one hundred in two digits. -/
def twoDigits (n : Nat) : String :=
  if n < 10 then "0" ++ toString n else toString n

end DeviceRegistry.Text
