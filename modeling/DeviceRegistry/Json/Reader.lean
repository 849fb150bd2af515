import DeviceRegistry.Json.Basic
import DeviceRegistry.Text.Digit

/-!
# Reading JSON

A text is read as one value between blanks. Beside the standard's grammar the words `NaN`,
`Infinity` and `-Infinity` are numbers, an integer may have at most 4300 digits, and arrays and
objects may be nested up to a limit. A text that ends too early, goes on too long or is not a value
at all is malformed; of two faults the one that comes first is reported. Half of a surrogate pair
may stand on its own, but only between quotes.
-/

namespace DeviceRegistry.Json

/-- Why a text is not read. -/
inductive ReadError where
  | malformed
  | overlongInteger
  | tooDeep
  deriving DecidableEq, Repr, Inhabited

/-- The largest number of arrays and objects around a value. -/
def maxDepth : Nat := 950

/-- One place of a text that is read: a character, or half of a surrogate pair on its own. -/
inductive Symbol where
  | char (c : Char)
  | half (code : Nat)
  deriving DecidableEq, Repr, Inhabited

namespace Symbol

/-- The symbol of a code point. -/
def ofCode (code : Nat) : Symbol :=
  if RawText.isHalf code then .half code else .char (Char.ofNat code)

/-- The code point of a symbol. -/
def code : Symbol → Nat
  | char c => c.toNat
  | half code => code

/-- The character of a symbol that is one. -/
def char? : Symbol → Option Char
  | char c => some c
  | half _ => none

/-- The blanks between the tokens. -/
def isSpace : Symbol → Bool
  | char c => c == ' ' || c == '\t' || c == '\n' || c == '\r'
  | half _ => false

/-- The digits of a number. -/
def isDigit : Symbol → Bool
  | char c => c.isDigit
  | half _ => false

end Symbol

/-- The text after its leading blanks. -/
def skipSpace (cs : List Symbol) : List Symbol :=
  cs.dropWhile Symbol.isSpace

/-- The text after a word, if it starts with that word. -/
def after? (word : String) (cs : List Symbol) : Option (List Symbol) :=
  let symbols := word.toList.map Symbol.char
  if symbols.isPrefixOf cs then some (cs.drop symbols.length) else none

/-- The code unit that hexadecimal digits denote. -/
def codeUnit? (digits : List Symbol) : Option Nat := do
  let values ← digits.mapM fun c => c.char?.bind Text.hexDigit?
  return values.foldl (fun n digit => 16 * n + digit) 0

/-- The character that a letter after a backslash stands for. -/
def escapeLetter? : Char → Option Char
  | '\"' => some '\"'
  | '\\' => some '\\'
  | '/' => some '/'
  | 'b' => some '\x08'
  | 'f' => some '\x0c'
  | 'n' => some '\n'
  | 'r' => some '\r'
  | 't' => some '\t'
  | _ => none

/-- One unit of a text between quotes: a code point as it stands there, or an escaped code unit. -/
inductive TextUnit where
  | point (code : Nat)
  | escaped (unit : Nat)
  deriving DecidableEq, Repr, Inhabited

/-- The units of a text up to its closing quote, and what follows the quote. -/
def textUnits : List Symbol → Option (List TextUnit × List Symbol)
  | [] => none
  | .char '\"' :: cs => some ([], cs)
  | .char '\\' :: .char 'u' :: a :: b :: c :: d :: cs => do
    let unit ← codeUnit? [a, b, c, d]
    let (us, rest) ← textUnits cs
    return (.escaped unit :: us, rest)
  | .char '\\' :: e :: cs => do
    let c ← e.char?.bind escapeLetter?
    let (us, rest) ← textUnits cs
    return (.point c.toNat :: us, rest)
  | c :: cs =>
    if c.code < 0x20 then none
    else do
      let (us, rest) ← textUnits cs
      return (.point c.code :: us, rest)

/-- The code points of the units: two escaped halves of a pair in order make one. A half that is not
escaped stays on its own. -/
def joinUnits : List TextUnit → List Nat
  | [] => []
  | .point code :: us => code :: joinUnits us
  | .escaped high :: .escaped low :: us =>
    if 0xD800 ≤ high ∧ high < 0xDC00 ∧ 0xDC00 ≤ low ∧ low < 0xE000 then
      (0x10000 + 0x400 * (high - 0xD800) + (low - 0xDC00)) :: joinUnits us
    else high :: joinUnits (.escaped low :: us)
  | .escaped unit :: us => unit :: joinUnits us

example : joinUnits [.escaped 0xD83D, .escaped 0xDE00] = [0x1F600] := rfl

example : joinUnits [.point 0xD83D, .escaped 0xDE00] = [0xD83D, 0xDE00] := rfl

/-- A text after its opening quote. -/
def text (cs : List Symbol) : Except ReadError (RawText × List Symbol) :=
  match textUnits cs with
  | some (us, rest) => .ok (.ofCodes (joinUnits us), rest)
  | none => .error .malformed

/-- The digits at the front, and what follows them. -/
def digits (cs : List Symbol) : List Char × List Symbol :=
  ((cs.takeWhile Symbol.isDigit).filterMap Symbol.char?, cs.dropWhile Symbol.isDigit)

/-- The whole part of a number: zero, or digits that do not start with one. -/
def wholePart (cs : List Symbol) : Option (List Char × List Symbol) :=
  match cs with
  | .char '0' :: rest => some (['0'], rest)
  | _ => if (digits cs).1.isEmpty then none else some (digits cs)

/-- The digits after a point; none of them if no digit follows a point. -/
def fraction (cs : List Symbol) : List Char × List Symbol :=
  match cs with
  | .char '.' :: rest => if (digits rest).1.isEmpty then ([], cs) else digits rest
  | _ => ([], cs)

/-- The text after a sign, and whether the sign is a minus. -/
def signed (cs : List Symbol) : Bool × List Symbol :=
  match cs with
  | .char '-' :: rest => (true, rest)
  | .char '+' :: rest => (false, rest)
  | _ => (false, cs)

/-- The power of ten of a number, if one is written. -/
def power (cs : List Symbol) : Option Int × List Symbol :=
  match cs with
  | .char e :: rest =>
    if e == 'e' || e == 'E' then
      let (negative, unsigned) := signed rest
      let (ds, after) := digits unsigned
      let size : Int := Text.numeral ds
      if ds.isEmpty then (none, cs) else (some (if negative then -size else size), after)
    else (none, cs)
  | _ => (none, cs)

/-- A number without its sign. -/
def unsignedNumber (negative : Bool) (cs : List Symbol) :
    Except ReadError (Number × List Symbol) :=
  match wholePart cs with
  | none => .error .malformed
  | some (whole, rest) =>
    let (decimals, rest) := fraction rest
    let (exponent, rest) := power rest
    if decimals.isEmpty ∧ exponent.isNone then
      if Text.maxDigits < whole.length then .error .overlongInteger
      else
        let size : Int := Text.numeral whole
        .ok (.int (if negative then -size else size), rest)
    else
      .ok (.decimal negative (Text.numeral (whole ++ decimals))
        (exponent.getD 0 - decimals.length), rest)

/-- A number with digits. -/
def number : List Symbol → Except ReadError (Number × List Symbol)
  | .char '-' :: rest => unsignedNumber true rest
  | cs => unsignedNumber false cs

/-- The values that have a word of their own. -/
def words : List (String × Json) := [
  ("null", .null), ("true", .bool true), ("false", .bool false), ("NaN", .num .undefined),
  ("Infinity", .num (.infinite false)), ("-Infinity", .num (.infinite true))]

/-- The value whose word stands in front, and what follows it. -/
def word? (cs : List Symbol) : Option (Json × List Symbol) :=
  words.findSome? fun (word, v) => (after? word cs).map fun rest => (v, rest)

mutual

/-- A value after blanks; the second number is how many levels may still be entered. -/
def value : Nat → Nat → List Symbol → Except ReadError (Json × List Symbol)
  | 0, _, _ => .error .malformed
  | fuel + 1, depth, cs =>
    match skipSpace cs with
    | .char '\"' :: rest => (text rest).map fun (s, rest) => (.str s, rest)
    | .char '[' :: rest =>
      match depth with
      | 0 => .error .tooDeep
      | depth + 1 =>
        match skipSpace rest with
        | .char ']' :: rest => .ok (.arr [], rest)
        | rest => (items fuel depth rest).map fun (vs, rest) => (.arr vs, rest)
    | .char '\x7b' :: rest =>
      match depth with
      | 0 => .error .tooDeep
      | depth + 1 =>
        match skipSpace rest with
        | .char '\x7d' :: rest => .ok (.obj [], rest)
        | rest => (members fuel depth [] rest).map fun (ms, rest) => (.obj ms, rest)
    | rest =>
      match word? rest with
      | some found => .ok found
      | none => (number rest).map fun (n, rest) => (.num n, rest)

/-- The items of an array up to its closing bracket. -/
def items : Nat → Nat → List Symbol → Except ReadError (List Json × List Symbol)
  | 0, _, _ => .error .malformed
  | fuel + 1, depth, cs => do
    let (v, rest) ← value fuel depth cs
    match skipSpace rest with
    | .char ',' :: rest =>
      let (vs, rest) ← items fuel depth rest
      return (v :: vs, rest)
    | .char ']' :: rest => return ([v], rest)
    | _ => throw .malformed

/-- The members of an object up to its closing brace, after those already read. -/
def members : Nat → Nat → Members → List Symbol → Except ReadError (Members × List Symbol)
  | 0, _, _, _ => .error .malformed
  | fuel + 1, depth, known, cs => do
    let (name, rest) ← match skipSpace cs with
      | .char '\"' :: rest => text rest
      | _ => throw .malformed
    let (v, rest) ← match skipSpace rest with
      | .char ':' :: rest => value fuel depth rest
      | _ => throw .malformed
    let known := setMember name v known
    match skipSpace rest with
    | .char ',' :: rest => members fuel depth known rest
    | .char '\x7d' :: rest => return (known, rest)
    | _ => throw .malformed

end

/-- The value that symbols denote, with at most so many arrays and objects around each part. -/
def readSymbols (depth : Nat) (cs : List Symbol) : Except ReadError Json := do
  let (v, rest) ← value (cs.length + 1) depth cs
  if (skipSpace rest).isEmpty then return v else throw .malformed

/-- The value that characters denote, with at most so many arrays and objects around each part. -/
def readChars (depth : Nat) (cs : List Char) : Except ReadError Json :=
  readSymbols depth (cs.map .char)

/-- The value that a text denotes. -/
def read (s : String) : Except ReadError Json :=
  readChars maxDepth s.toList

end DeviceRegistry.Json
