/-!
# Blank characters

The blanks at the ends of a value do not count. Around a number they are the characters that Unicode
calls white space; at the ends of any other request value the four information separators are
blanks too. The zero-width characters are none.
-/

namespace DeviceRegistry.Text

/-- The characters that Unicode calls white space. -/
def isWhite (c : Char) : Bool :=
  let n := c.toNat
  (0x09 ≤ n && n ≤ 0x0D) || n == 0x20 || n == 0x85 || n == 0xA0 || n == 0x1680 ||
    (0x2000 ≤ n && n ≤ 0x200A) || n == 0x2028 || n == 0x2029 || n == 0x202F || n == 0x205F ||
    n == 0x3000

/-- White space and the information separators. -/
def isBlank (c : Char) : Bool :=
  isWhite c || (0x1C ≤ c.toNat && c.toNat ≤ 0x1F)

/-- The characters without those of a class at both ends. -/
def trimBy (blank : Char → Bool) (cs : List Char) : List Char :=
  ((cs.dropWhile blank).reverse.dropWhile blank).reverse

/-- A text without the blanks at both ends. -/
def trim (s : String) : String :=
  String.ofList (trimBy isBlank s.toList)

/-- A text that holds nothing but blanks. -/
def isBlankText (s : String) : Bool :=
  s.toList.all isBlank

end DeviceRegistry.Text
