import DeviceRegistry.Decimal.Shortest
import DeviceRegistry.Json.Basic
import DeviceRegistry.Text.Quoted

/-!
# Values in messages

How a value reads inside a message. A text on its own is shown as it is; inside a list or an object
it is quoted. Null, true and false have their own words.
-/

namespace DeviceRegistry.Json

/-- The words of a message for null. -/
def nullWord : String := "None"

/-- The words of a message for the truth values. -/
def boolWord (b : Bool) : String :=
  if b then "True" else "False"

/-- A number in a message: all digits of an integer, the shortest decimal of any other one. -/
def showNumber : Number → String
  | .int n => toString n
  | .decimal negative digits exponent =>
    (if negative then "-" else "") ++
      match Decimal.Binary64.ofDecimal? digits exponent with
      | some x => x.text
      | none => "inf"
  | .infinite negative => if negative then "-inf" else "inf"
  | .undefined => "nan"

mutual

/-- A value inside a list or an object. -/
def showInner : Json → String
  | .null => nullWord
  | .bool b => boolWord b
  | .num n => showNumber n
  | .str s => Text.quotedRaw s
  | .arr vs => "[" ++ showItems vs ++ "]"
  | .obj ms => "\x7b" ++ showMembers ms ++ "\x7d"

/-- The items of a list. -/
def showItems : List Json → String
  | [] => ""
  | [v] => showInner v
  | v :: vs => showInner v ++ ", " ++ showItems vs

/-- The members of an object. -/
def showMembers : Members → String
  | [] => ""
  | [(name, v)] => Text.quotedRaw name ++ ": " ++ showInner v
  | (name, v) :: ms => Text.quotedRaw name ++ ": " ++ showInner v ++ ", " ++ showMembers ms

end

/-- A value on its own in a message. -/
def display : Json → String
  | .str s => s.shown
  | v => showInner v

end DeviceRegistry.Json
