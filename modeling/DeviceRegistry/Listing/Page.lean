import DeviceRegistry.Problem.Failure
import DeviceRegistry.Text.Blank
import DeviceRegistry.Text.Digit
import DeviceRegistry.Text.Filled

/-!
# Pages

A listing is cut into pages of a size. Both numbers come as texts between blanks and have defaults.
A page is refused if its offset, at the largest size, is more than a statement can take; a number
of more than 4300 digits is not read at all.
-/

namespace DeviceRegistry.Listing

/-- The first page. -/
def defaultPage : Nat := 1

/-- The size of a page that is not asked for. -/
def defaultSize : Nat := 20

/-- The smallest size of a page. -/
def minSize : Nat := 1

/-- The largest size of a page. -/
def maxSize : Nat := 5000

/-- The largest offset that a statement can take. -/
def maxOffset : Nat := 9223372036854775807

/-- The number that a text denotes; the cause is for a text that is no number. -/
def readNumber (cause : Rejection) (s : String) : Except Failure Nat :=
  let digits := Text.trim s
  if !Text.isNumeric digits then .error (.rejected cause)
  else if Text.maxDigits < digits.length then .error .tooManyDigits
  else .ok (Text.numeral digits.toList)

/-- The number of the page that is asked for. -/
def resolvePage (value : Option String) : Except Failure Nat :=
  match Text.filled? value with
  | none => .ok defaultPage
  | some s => do
    let page ← readNumber .pageNotUnsigned s
    if page = 0 then throw (.rejected .pageZero)
    if maxOffset < (page - 1) * maxSize then throw (.rejected .pageOutOfRange)
    return page

/-- The size of the pages that is asked for. -/
def resolveSize (value : Option String) : Except Failure Nat :=
  match Text.filled? value with
  | none => .ok defaultSize
  | some s => do
    let size ← readNumber .sizeOutOfRange s
    if minSize ≤ size ∧ size ≤ maxSize then return size
    else throw (.rejected .sizeOutOfRange)

/-- The number of rows before a page. -/
def offset (page size : Nat) : Nat :=
  (page - 1) * size

/-- The rows of a page. -/
def slice {α : Type} (page size : Nat) (rows : List α) : List α :=
  (rows.drop (offset page size)).take size

end DeviceRegistry.Listing
