import DeviceRegistry.Text.Printable
import DeviceRegistry.Text.Raw

/-!
# Quoted texts

A message that lists request values shows each in quotes: single ones, or double ones when the
text holds a single quote and no double one. A backslash and the quote in use are escaped, tab and
line ends have letters, and an unprintable character is written by its code point in hexadecimal;
so is half of a surrogate pair.
-/

namespace DeviceRegistry.Text

/-- The lower-case hexadecimal digits of a number, padded with zeros to a width. -/
def hex (width n : Nat) : List Char :=
  let digits := Nat.toDigits 16 n
  List.replicate (width - digits.length) '0' ++ digits

/-- One character inside quotes. -/
def quoteChar (quote c : Char) : List Char :=
  if c = quote ∨ c = '\\' then ['\\', c]
  else if c = '\n' then ['\\', 'n']
  else if c = '\r' then ['\\', 'r']
  else if c = '\t' then ['\\', 't']
  else if isPrintable c then [c]
  else if c.toNat ≤ 0xFF then '\\' :: 'x' :: hex 2 c.toNat
  else if c.toNat ≤ 0xFFFF then '\\' :: 'u' :: hex 4 c.toNat
  else '\\' :: 'U' :: hex 8 c.toNat

/-- The quote that a text is put in. -/
def quoteFor (cs : List Char) : Char :=
  if cs.contains '\'' && !cs.contains '\"' then '\"' else '\''

/-- A text in quotes. -/
def quoted (s : String) : String :=
  let cs := s.toList
  let quote := quoteFor cs
  String.ofList (quote :: cs.flatMap (quoteChar quote) ++ [quote])

/-- One code point inside quotes. -/
def quoteCode (quote : Char) (code : Nat) : List Char :=
  if RawText.isHalf code then '\\' :: 'u' :: hex 4 code else quoteChar quote (Char.ofNat code)

/-- A raw text in quotes. -/
def quotedRaw : RawText → String
  | .whole s => quoted s
  | .broken codes =>
    let quote := quoteFor (codes.map Char.ofNat)
    String.ofList (quote :: codes.flatMap (quoteCode quote) ++ [quote])

/-- A list of texts in square brackets. -/
def quotedList (items : List String) : String :=
  "[" ++ ", ".intercalate (items.map quoted) ++ "]"

end DeviceRegistry.Text
