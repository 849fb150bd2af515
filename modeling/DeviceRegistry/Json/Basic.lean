import DeviceRegistry.Decimal.Binary64
import DeviceRegistry.Text.Raw

/-!
# JSON values

The values that payloads, replies and answers are made of. A number is kept as it is written: an
integer exactly, any other one by its digits and power of ten. The members of an object stand in
the order of their first occurrence, each name once. A value can be read that cannot be sent: one
with a number that is not finite or a text that is not whole.
-/

namespace DeviceRegistry

/-- A number of a JSON text. -/
inductive Json.Number where
  | int (value : Int)
  | decimal (negative : Bool) (digits : Nat) (exponent : Int)
  | infinite (negative : Bool)
  | undefined
  deriving DecidableEq, Repr, Inhabited

/-- A JSON value. -/
inductive Json where
  | null
  | bool (value : Bool)
  | num (value : Json.Number)
  | str (value : RawText)
  | arr (items : List Json)
  | obj (members : List (RawText × Json))
  deriving Repr, Inhabited

namespace Json

/-- The members of an object. -/
abbrev Members := List (RawText × Json)

/-- A number that double precision takes for zero. -/
def Number.isZero : Number → Bool
  | .int n => n == 0
  | .decimal _ digits exponent =>
    match Decimal.Binary64.ofDecimal? digits exponent with
    | some x => x.significand == 0
    | none => false
  | .infinite _ => false
  | .undefined => false

/-- A number that double precision holds as a finite one; every integer is finite. -/
def Number.isFinite : Number → Bool
  | .int _ => true
  | .decimal _ digits exponent => (Decimal.Binary64.ofDecimal? digits exponent).isSome
  | .infinite _ => false
  | .undefined => false

mutual

/-- Every number and every text of a value satisfies its condition. -/
def all (number : Number → Bool) (text : RawText → Bool) : Json → Bool
  | .null => true
  | .bool _ => true
  | .num n => number n
  | .str s => text s
  | .arr vs => allItems number text vs
  | .obj ms => allMembers number text ms

/-- Every number and every text of the items satisfies its condition. -/
def allItems (number : Number → Bool) (text : RawText → Bool) : List Json → Bool
  | [] => true
  | v :: vs => all number text v && allItems number text vs

/-- Every number and every text of the members satisfies its condition, the names included. -/
def allMembers (number : Number → Bool) (text : RawText → Bool) : Members → Bool
  | [] => true
  | (name, v) :: ms => text name && all number text v && allMembers number text ms

end

/-- Every number of a value is finite. -/
def isFinite (v : Json) : Bool :=
  v.all Number.isFinite fun _ => true

/-- Every text of a value is whole. -/
def isWhole (v : Json) : Bool :=
  v.all (fun _ => true) RawText.isWhole

/-- A value that can be sent. -/
def isSendable (v : Json) : Bool :=
  v.isFinite && v.isWhole

/-- The value counts as absent: null, false, zero, or empty. -/
def isEmpty : Json → Bool
  | .null => true
  | .bool b => !b
  | .num n => n.isZero
  | .str s => s.isEmpty
  | .arr items => items.isEmpty
  | .obj members => members.isEmpty

/-- The integer `n`. -/
def int (n : Int) : Json :=
  .num (.int n)

/-- A text or null. -/
def ofText? : Option String → Json
  | some s => .str s
  | none => .null

/-- A raw text or null. -/
def ofRawText? : Option RawText → Json
  | some t => .str t
  | none => .null

/-- An integer or null. -/
def ofInt? : Option Int → Json
  | some n => .int n
  | none => .null

/-- The object of some members with whole names. -/
def ofMembers (members : List (String × Json)) : Json :=
  .obj (members.map fun m => (.whole m.1, m.2))

/-- The value of a member of an object, if it has that member. -/
def member? (name : String) : Json → Option Json
  | .obj members => members.lookup (.whole name)
  | _ => none

/-- The value of a member of an object, or null. -/
def member (name : String) (value : Json) : Json :=
  (value.member? name).getD .null

/-- The members with one set: in place if the name occurs, at the end otherwise. -/
def setMember (name : RawText) (value : Json) : Members → Members
  | [] => [(name, value)]
  | m :: ms => if m.1 = name then (name, value) :: ms else m :: setMember name value ms

end Json

end DeviceRegistry
