import DeviceRegistry.Json.Basic
import DeviceRegistry.Text.Blank
import DeviceRegistry.Text.Digit

/-!
# Reading payloads

A payload is a value that has to fit a type. What does not fit is reported with the place where it
stands and the kind of misfit, and all misfits of a payload are reported together. Unknown members
of an object do not count unless the type admits no others, and no value is made into a text.

An integer may be written as a text. White space around it, a sign, leading zeros, single
underscores between the digits and a point with zeros after it do not count. Among the leading zeros
underscores may stand in any number, and after them a minus sign. Only a text that starts with its
digits can be one of too many.
-/

namespace DeviceRegistry

/-- How a value does not fit. -/
inductive Misfit where
  | missing
  | notText
  | notInteger
  | noIntegerText
  | integerTooLong
  | fraction
  | infinite
  | notList
  | notObject
  | notAChoice
  | notTruth
  | noTruthText
  | notNumber
  | noNumberText
  | notAllowed
  | notExpected
  deriving DecidableEq, Repr, Inhabited

/-- The reported name of a misfit. -/
def Misfit.name : Misfit → String
  | .missing => "missing"
  | .notText => "string_type"
  | .notInteger => "int_type"
  | .noIntegerText => "int_parsing"
  | .integerTooLong => "int_parsing_size"
  | .fraction => "int_from_float"
  | .infinite => "finite_number"
  | .notList => "list_type"
  | .notObject => "model_type"
  | .notAChoice => "enum"
  | .notTruth => "bool_type"
  | .noTruthText => "bool_parsing"
  | .notNumber => "float_type"
  | .noNumberText => "float_parsing"
  | .notAllowed => "value_error"
  | .notExpected => "extra_forbidden"

/-- A misfit, where it stands (the names and positions that lead to it), and the value that does not
fit; of a missing member it is the object without it. -/
structure Mismatch where
  path : List String
  misfit : Misfit
  value : Json
  deriving Repr, Inhabited

namespace Mismatch

/-- The place of a misfit as one text. -/
def place (m : Mismatch) : String :=
  ".".intercalate m.path

/-- The order in which misfits are reported: by place, then by name. -/
def le (a b : Mismatch) : Bool :=
  if a.place = b.place then decide (a.misfit.name ≤ b.misfit.name) else decide (a.place ≤ b.place)

/-- Misfits in the order of a report. -/
def sort (ms : List Mismatch) : List Mismatch :=
  ms.mergeSort le

end Mismatch

/-- A value of a type, or all misfits that were found. -/
def Decoded (α : Type) := Except (List Mismatch) α

namespace Decoded

variable {α β : Type}

/-- A value that fits. -/
def fit (a : α) : Decoded α := Except.ok a

/-- A value that does not fit. -/
def misfit (m : Misfit) (v : Json) : Decoded α :=
  Except.error [{ path := [], misfit := m, value := v }]

/-- A result of reading a value as a value of the type. -/
def ofExcept (r : Except Misfit α) (v : Json) : Decoded α :=
  match r with
  | .ok a => fit a
  | .error m => misfit m v

/-- Joins two parts of a value; the misfits of both are kept. -/
def join (f : Decoded (α → β)) (a : Decoded α) : Decoded β :=
  match f, a with
  | .ok f, .ok a => .ok (f a)
  | .ok _, .error ms => .error ms
  | .error ms, .ok _ => .error ms
  | .error ms, .error ns => .error (ms ++ ns)

instance : Applicative Decoded where
  pure := fit
  seq f a := join f (a ())

/-- The misfits of a part, with the name of the part in front of their places. -/
def inside (name : String) (a : Decoded α) : Decoded α :=
  match a with
  | .ok a => .ok a
  | .error ms => .error (ms.map fun m => { m with path := name :: m.path })

end Decoded

/-- A reader of values of a type. -/
abbrev Decoder (α : Type) := Json → Decoded α

namespace Decoder

variable {α : Type}

/-- A text as it is written. -/
def rawText : Decoder RawText
  | .str t => .fit t
  | v => .misfit .notText v

/-- A text as it is shown. -/
def text : Decoder String :=
  fun v => RawText.shown <$> rawText v

/-- A value that may be null. -/
def nullable (d : Decoder α) : Decoder (Option α)
  | .null => .fit none
  | v => some <$> d v

/-! ### Integers -/

/-- Whether a written integer is negative, and the rest of it; a plus sign stands before no
other. -/
def sign? : List Char → Option (Bool × List Char)
  | '-' :: cs => some (true, cs)
  | '+' :: '-' :: _ => none
  | '+' :: cs => some (false, cs)
  | cs => some (false, cs)

/-- A written integer without the point and the zeros that follow it. -/
def withoutDecimals (cs : List Char) : List Char :=
  let decimals := (cs.dropWhile (· != '.')).drop 1
  if !decimals.isEmpty && decimals.all (· == '0') then cs.takeWhile (· != '.') else cs

/-- The digits but zero, and the minus sign. -/
def startsInteger (c : Char) : Bool :=
  c == '-' || (c.isDigit && c != '0')

/-- What follows the leading zeros, or the last character if nothing does. -/
def afterZeros? : List Char → Option (List Char)
  | '0' :: cs =>
    match cs.dropWhile fun c => c == '0' || c == '_' with
    | [] => some [cs.getLastD '0']
    | c :: rest => if startsInteger c then some (c :: rest) else none
  | c :: cs => if startsInteger c then some (c :: cs) else none
  | [] => none

/-- The characters without underscores; they stay if one stands at an end or beside another. -/
def withoutUnderscores (cs : List Char) : List Char :=
  let misplaced := cs.head? == some '_' || cs.getLast? == some '_' ||
    (cs.zip (cs.drop 1)).any fun p => p.1 == '_' && p.2 == '_'
  if misplaced then cs else cs.filter (· != '_')

/-- The integer of digits that do not start with a zero beside others. -/
def plainInteger (negative : Bool) (cs : List Char) : Except Misfit Int :=
  let digits := cs.takeWhile Char.isDigit
  if digits.head? == some '0' && digits.length != 1 then .error .noIntegerText
  else if Text.maxDigits < digits.length then .error .integerTooLong
  else if digits.isEmpty || digits.length < cs.length then .error .noIntegerText
  else
    let size : Int := Text.numeral digits
    .ok (if negative then -size else size)

/-- An integer after its sign; a second minus sign may stand where no first one does. -/
def signedInteger (negative : Bool) : List Char → Except Misfit Int
  | '-' :: cs => if negative then .error .noIntegerText else plainInteger true cs
  | cs => plainInteger negative cs

/-- The integer that a text writes when all that does not count is taken away. -/
def tidiedInteger? (s : String) : Option Int := do
  let (negative, cs) ← sign? (Text.trimBy Text.isWhite s.toList)
  let cs ← afterZeros? (withoutDecimals cs)
  (signedInteger negative (withoutUnderscores cs)).toOption

/-- The integer that a text writes, as it stands or else tidied. -/
def integerText (s : String) : Except Misfit Int :=
  match signedInteger false s.toList with
  | .error .noIntegerText =>
    match tidiedInteger? s with
    | some n => .ok n
    | none => .error .noIntegerText
  | plain => plain

/-- The least integer of 64 bits with a sign. -/
def leastWord : Int := -9223372036854775808

/-- The integers of 64 bits with a sign. -/
def isWord (n : Int) : Bool :=
  decide (leastWord ≤ n) && decide (n < -leastWord)

/-- An integer from a number with decimals: one whose value is whole and fits 64 bits, the least
one excepted. -/
def wholeDecimal (negative : Bool) (digits : Nat) (exponent : Int) : Except Misfit Int :=
  match Decimal.Binary64.ofDecimal? digits exponent with
  | none => .error .infinite
  | some x =>
    let (num, den) := x.ratio
    let size : Int := (num / den : Nat)
    let value := if negative then -size else size
    if num % den != 0 then .error .fraction
    else if isWord value && value != leastWord then .ok value
    else .error .integerTooLong

/-- The integer that a value stands for: a whole number, a truth value as 0 or 1, or a text that
writes an integer. -/
def toInteger : Json → Except Misfit Int
  | .num (.int n) => .ok n
  | .num (.decimal negative digits exponent) => wholeDecimal negative digits exponent
  | .num _ => .error .infinite
  | .bool b => .ok (if b then 1 else 0)
  | .str t => integerText t.shown
  | _ => .error .notInteger

/-- An integer. -/
def integer : Decoder Int :=
  fun v => .ofExcept (toInteger v) v

example : (integerText " +0_07.00").toOption = some 7 := by decide +kernel

example : (integerText "0__-1_2").toOption = some (-12) := by decide +kernel

example : (integerText "1__2").toOption = none := by decide +kernel

example : (integerText "7.").toOption = none := by decide +kernel

example : (integerText "-0").toOption = some 0 := by decide +kernel

/-! ### Numbers -/

/-- Digits alone, and at least one. -/
def areDigits (cs : List Char) : Bool :=
  !cs.isEmpty && cs.all Char.isDigit

/-- What follows a sign. -/
def unsigned : List Char → List Char
  | '+' :: cs => cs
  | '-' :: cs => cs
  | cs => cs

/-- Nothing, or the exponent that ends a number. -/
def isExponent : List Char → Bool
  | [] => true
  | c :: cs => c.toLower == 'e' && areDigits (unsigned cs)

/-- Digits with a point before, among or after them, and an exponent. -/
def isPositional (cs : List Char) : Bool :=
  let whole := cs.takeWhile Char.isDigit
  match cs.dropWhile Char.isDigit with
  | '.' :: rest =>
    !(whole.isEmpty && (rest.takeWhile Char.isDigit).isEmpty) &&
      isExponent (rest.dropWhile Char.isDigit)
  | rest => !whole.isEmpty && isExponent rest

/-- The words for the numbers that have no digits, in any case. -/
def numberWords : List String := ["inf", "infinity", "nan"]

/-- Characters that write a number. -/
def isNumber (cs : List Char) : Bool :=
  let cs := unsigned cs
  isPositional cs || numberWords.contains (String.ofList (cs.map Char.toLower))

/-- A text writes a number with white space around it, or with single underscores inside. -/
def isNumberText (s : String) : Bool :=
  isNumber (Text.trimBy Text.isWhite s.toList) || isNumber (withoutUnderscores s.toList)

/-- Refuses what stands for no number in double precision: a text that writes none, a whole number
too large, and all that is neither a number, a truth value nor a text. -/
def number : Decoder Unit
  | .num (.int n) =>
    if (Decimal.Binary64.ofRatio? n.natAbs 1).isSome then .fit ()
    else .misfit .notNumber (.num (.int n))
  | .num _ => .fit ()
  | .bool _ => .fit ()
  | .str t => if isNumberText t.shown then .fit () else .misfit .noNumberText (.str t)
  | v => .misfit .notNumber v

example : isNumberText " -1.e5 " = true ∧ isNumberText "1_0.5" = true := by decide +kernel

example : isNumberText "+Inf" = true := by decide +kernel

example : isNumberText "." = false ∧ isNumberText "1__0" = false ∧ isNumberText "1e" = false := by
  decide +kernel

/-! ### Truth values, choices, lists and objects -/

/-- The words for the truth values, in any case. -/
def truthWords : List (String × Bool) :=
  [("0", false), ("off", false), ("f", false), ("false", false), ("n", false), ("no", false),
    ("1", true), ("on", true), ("t", true), ("true", true), ("y", true), ("yes", true)]

/-- The truth value that a value stands for: true and false, the numbers 1 and 0, or one of the
words for them. -/
def toTruth : Json → Except Misfit Bool
  | .bool b => .ok b
  | .str t =>
    match truthWords.lookup (String.ofList (t.shown.toList.map Char.toLower)) with
    | some b => .ok b
    | none => .error .noTruthText
  | .num n =>
    match toInteger (.num n) with
    | .ok 0 => .ok false
    | .ok 1 => .ok true
    | .ok m => .error (if isWord m then .noTruthText else .notTruth)
    | .error _ => .error .notTruth
  | _ => .error .notTruth

/-- A truth value. -/
def truth : Decoder Bool :=
  fun v => .ofExcept (toTruth v) v

/-- One of the choices of a type, by its name. -/
def choice (ofName? : String → Option α) : Decoder α
  | .str t =>
    match t.string?.bind ofName? with
    | some a => .fit a
    | none => .misfit .notAChoice (.str t)
  | v => .misfit .notAChoice v

/-- The items of a list, read one by one from a position on. -/
def items (d : Decoder α) : Nat → List Json → Decoded (List α)
  | _, [] => .fit []
  | n, v :: vs => List.cons <$> (d v).inside (toString n) <*> items d (n + 1) vs

/-- A list. -/
def list (d : Decoder α) : Decoder (List α)
  | .arr vs => items d 0 vs
  | v => .misfit .notList v

/-- An object, read by its members. -/
def object (d : Json.Members → Decoded α) : Decoder α
  | .obj ms => d ms
  | v => .misfit .notObject v

/-- A member; the second value is for an object without it. -/
def field (name : String) (absent : Decoded α) (d : Decoder α) (ms : Json.Members) : Decoded α :=
  Decoded.inside name <|
    match ms.lookup (.whole name) with
    | some v => d v
    | none => absent

/-- A member that has to be there. -/
def needed (name : String) (d : Decoder α) (ms : Json.Members) : Decoded α :=
  field name (.misfit .missing (.obj ms)) d ms

/-- A member that may be null or missing. -/
def optional (name : String) (d : Decoder α) (ms : Json.Members) : Decoded (Option α) :=
  field name (.fit none) (nullable d) ms

/-- Refuses the members that are not among the names. -/
def noOthers (names : List String) : Json.Members → Decoded Unit
  | [] => .fit ()
  | (name, v) :: ms =>
    let rest := noOthers names ms
    if names.any fun known => name = .whole known then rest
    else (fun _ _ => ()) <$> Decoded.inside name.shown (.misfit (α := Unit) .notExpected v) <*> rest

end Decoder

end DeviceRegistry
