import DeviceRegistry.Json.Basic
import DeviceRegistry.Text.Quoted

/-!
# Writing JSON

A value is written without blanks between the tokens. Quotes, backslashes, controls and halves of
surrogate pairs are escaped and every other character stands for itself.
-/

namespace DeviceRegistry.Json

/-- One character of a text between quotes. -/
def writeChar (c : Char) : List Char :=
  if c = '\"' ∨ c = '\\' then ['\\', c]
  else if c.toNat < 0x20 then '\\' :: 'u' :: Text.hex 4 c.toNat
  else [c]

/-- One code point of a text between quotes; half of a surrogate pair is escaped. -/
def writeCode (code : Nat) : List Char :=
  if RawText.isHalf code then '\\' :: 'u' :: Text.hex 4 code else writeChar (Char.ofNat code)

/-- A text between quotes. -/
def writeText (t : RawText) : String :=
  String.ofList ('\"' :: t.codes.flatMap writeCode ++ ['\"'])

/-- A number by its digits and power of ten. -/
def writeNumber : Number → String
  | .int n => toString n
  | .decimal negative digits exponent =>
    (if negative then "-" else "") ++ toString digits ++ "e" ++ toString exponent
  | .infinite negative => if negative then "-Infinity" else "Infinity"
  | .undefined => "NaN"

mutual

/-- The text of a value. -/
def write : Json → String
  | .null => "null"
  | .bool b => if b then "true" else "false"
  | .num n => writeNumber n
  | .str s => writeText s
  | .arr vs => "[" ++ writeItems vs ++ "]"
  | .obj ms => "\x7b" ++ writeMembers ms ++ "\x7d"

/-- The items of an array, separated by commas. -/
def writeItems : List Json → String
  | [] => ""
  | [v] => write v
  | v :: vs => write v ++ "," ++ writeItems vs

/-- The members of an object, separated by commas. -/
def writeMembers : Members → String
  | [] => ""
  | [(name, v)] => writeText name ++ ":" ++ write v
  | (name, v) :: ms => writeText name ++ ":" ++ write v ++ "," ++ writeMembers ms

end

end DeviceRegistry.Json
