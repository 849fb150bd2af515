import DeviceRegistry.Device.Record
import DeviceRegistry.Text.Like

/-!
# Conditions

The conditions of a filtered listing: a flag has a value, a text matches a pattern, a text lies
between two others. A condition says which devices satisfy it (`holds`), and it is written into a
statement as a clause with places for its values (`clause`, `values`). No value is ever part of the
clause. The conditions are taken in order, so a pattern that is too large matters only to a device
that satisfies all conditions before it.
-/

namespace DeviceRegistry

/-- A condition on a device. -/
inductive Condition where
  | flagIs (flag : Flag) (set : Bool)
  | like (column : TextColumn) (pattern : String)
  | between (column : TextColumn) (low high : String)
  deriving DecidableEq, Repr, Inhabited

namespace Condition

/-- The clause of a statement, with a question mark for each value. -/
def clause : Condition → String
  | flagIs f _ => f.name ++ " = ?"
  | like c _ => c.name ++ " LIKE ? ESCAPE '\\'"
  | between c _ _ => c.name ++ " BETWEEN ? AND ?"

/-- The values that go into the places of the clause. -/
def values : Condition → List Cell
  | flagIs _ b => [.int (flagValue b)]
  | like _ pattern => [.text pattern]
  | between _ low high => [.text low, .text high]

/-- Whether a device satisfies a condition; an empty column satisfies none. -/
def holds (d : Device) : Condition → Bool
  | flagIs f b => d.flag f == flagValue b
  | like c pattern =>
    match d.profile.get c with
    | some s => Text.Like.holds pattern s
    | none => false
  | between c low high =>
    match d.profile.get c with
    | some s => decide (low ≤ s) && decide (s ≤ high)
    | none => false

/-- A condition whose pattern is too large to be matched. -/
def isOverlong : Condition → Bool
  | like _ pattern => Text.Like.isOverlong pattern
  | _ => false

end Condition

/-- A device satisfies all conditions. -/
def Device.meets (conditions : List Condition) (d : Device) : Bool :=
  conditions.all (·.holds d)

/-- A device satisfies all conditions before one whose pattern is too large. -/
def Device.meetsOverlong (d : Device) : List Condition → Bool
  | [] => false
  | c :: cs => c.isOverlong || (c.holds d && d.meetsOverlong cs)

end DeviceRegistry
