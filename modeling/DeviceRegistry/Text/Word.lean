/-!
# Words without case

Request names and switches (`imei`, `asc`, `true`) are ASCII words that may be written in any case.
A character counts as the ASCII letter that is its lower case: besides the capitals that is the
Kelvin sign alone, so no other character of any script can stand for a letter of such a word. Words
that are compared in capitals (`POST`) know more stand-ins: the long and the dotless letter, and
the ligatures, each of which rises to several letters.
-/

namespace DeviceRegistry.Text

/-- The ASCII letter that a character lowers to, and any other character unchanged. -/
def lowerChar (c : Char) : Char :=
  if c = '\u212A' then 'k' else c.toLower

/-- A text lowered as far as an ASCII word can tell. -/
def lower (s : String) : String :=
  String.ofList (s.toList.map lowerChar)

/-- Two texts that name the same word in any case. -/
def sameWord (s t : String) : Bool :=
  lower s == lower t

/-- The characters beyond ASCII that rise to ASCII letters. -/
def risingToAscii : List (Char × String) := [
  ('\u00DF', "SS"), ('\u0131', "I"), ('\u017F', "S"), ('\uFB00', "FF"), ('\uFB01', "FI"),
  ('\uFB02', "FL"), ('\uFB03', "FFI"), ('\uFB04', "FFL"), ('\uFB05', "ST"), ('\uFB06', "ST")]

/-- The ASCII letters that a character rises to, and any other character unchanged. -/
def upperChar (c : Char) : List Char :=
  match risingToAscii.lookup c with
  | some letters => letters.toList
  | none => [c.toUpper]

/-- A text in capitals as far as an ASCII word can tell. -/
def upper (s : String) : String :=
  String.ofList (s.toList.flatMap upperChar)

example : upper "po\uFB06" = "POST" := by decide +kernel

/-- Words that agree when lowered are the same word. -/
theorem sameWord_iff {s t : String} : sameWord s t = true ↔ lower s = lower t := by
  simp [sameWord]

theorem sameWord_refl (s : String) : sameWord s s = true := by
  simp [sameWord]

end DeviceRegistry.Text
