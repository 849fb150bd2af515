import DeviceRegistry.Text.Digit
import DeviceRegistry.Text.Pieces

/-!
# Hosts

How a target may name the machine that answers. A name in brackets is an address of eight groups of
hexadecimal digits, of which a run of zeros may be left out once. A name of four numbers between
points is an address of four bytes. Every other name is taken as it is.
-/

namespace DeviceRegistry.Http

/-- A byte in decimal digits, without zeros in front. -/
def isByte (cs : List Char) : Bool :=
  !cs.isEmpty && cs.length ≤ 3 && cs.all Char.isDigit && decide (Text.numeral cs < 256) &&
    (cs.length == 1 || cs.head? != some '0')

/-- An address of four bytes. -/
def isShortAddress (cs : List Char) : Bool :=
  let bytes := Text.pieces '.' cs
  bytes.length == 4 && bytes.all isByte

/-- Two bytes in hexadecimal digits. -/
def isGroup (cs : List Char) : Bool :=
  !cs.isEmpty && cs.length ≤ 4 && cs.all fun c => (Text.hexDigit? c).isSome

/-- The groups between colons; no characters hold no group. -/
def groups (cs : List Char) : List (List Char) :=
  if cs.isEmpty then [] else Text.pieces ':' cs

/-- The groups with an address of four bytes at the end as two groups. -/
def withoutBytes (gs : List (List Char)) : List (List Char) :=
  match gs.reverse with
  | last :: others => if isShortAddress last then (['0'] :: ['0'] :: others).reverse else gs
  | [] => []

/-- The characters before the first two colons in a row and those after them, if there are such. -/
def cutGap : List Char → Option (List Char × List Char)
  | ':' :: ':' :: cs => some ([], cs)
  | c :: cs => (cutGap cs).map fun (left, right) => (c :: left, right)
  | [] => none

/-- An address of eight groups, some of which may be left out at a gap. -/
def isLongAddress (cs : List Char) : Bool :=
  match cutGap cs with
  | some (left, right) =>
    let gs := groups left ++ withoutBytes (groups right)
    gs.all isGroup && decide (gs.length < 8)
  | none =>
    let gs := withoutBytes (groups cs)
    gs.all isGroup && gs.length == 8

/-- An address of eight groups, which may name its zone after a percent sign. -/
def isZonedAddress (cs : List Char) : Bool :=
  match Text.pieces '%' cs with
  | [address] => isLongAddress address
  | [address, zone] => isLongAddress address && !zone.isEmpty
  | _ => false

/-- A name of four numbers between points. -/
def readsAsNumbers (cs : List Char) : Bool :=
  let numbers := Text.pieces '.' cs
  numbers.length == 4 && numbers.all fun n => !n.isEmpty && n.all Char.isDigit

/-- A name that stands in brackets. -/
def isBracketed (cs : List Char) : Bool :=
  cs.head? == some '[' && cs.getLast? == some ']'

/-- A host that can be named. -/
def isHost (cs : List Char) : Bool :=
  if readsAsNumbers cs then isShortAddress cs
  else if isBracketed cs then isZonedAddress ((cs.drop 1).dropLast)
  else true

example : isHost "10.0.0.255".toList = true ∧ isHost "10.0.0.256".toList = false := by
  decide +kernel

example : isHost "[::ffff:10.0.0.1]".toList = true ∧ isHost "[1::2::3]".toList = false := by
  decide +kernel

example : isHost "1234567".toList = true ∧ isHost "1a2b3c4".toList = true := by decide +kernel

end DeviceRegistry.Http
