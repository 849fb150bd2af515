/-!
# Wildcard patterns

The patterns of a contains-filter: `%` stands for any run of characters, `_` for one character and
a backslash takes the next character literally. ASCII letters match without case, the two last code
points of the first plane count as the replacement character, and every other character matches
itself. Patterns and texts count up to their first NUL character. `escape` writes a text so that a
pattern takes it literally.
-/

namespace DeviceRegistry.Text.Like

/-- One unit of a pattern. -/
inductive Token where
  | run
  | one
  | char (c : Char)
  deriving DecidableEq, Repr

/-- The units of a written pattern; none if a backslash ends it. -/
def tokens? : List Char → Option (List Token)
  | [] => some []
  | ['\\'] => none
  | '\\' :: c :: cs => (tokens? cs).map (.char c :: ·)
  | '%' :: cs => (tokens? cs).map (.run :: ·)
  | '_' :: cs => (tokens? cs).map (.one :: ·)
  | c :: cs => (tokens? cs).map (.char c :: ·)

/-- Equality of characters up to the case of ASCII letters. -/
def sameChar (c d : Char) : Bool :=
  c.toLower == d.toLower

/-- A pattern covers the whole text. -/
def matchTokens : List Token → List Char → Bool
  | [], [] => true
  | [], _ :: _ => false
  | .char _ :: _, [] => false
  | .char c :: ts, d :: cs => sameChar c d && matchTokens ts cs
  | .one :: _, [] => false
  | .one :: ts, _ :: cs => matchTokens ts cs
  | .run :: ts, [] => matchTokens ts []
  | .run :: ts, c :: cs => matchTokens ts (c :: cs) || matchTokens (.run :: ts) cs
termination_by ts cs => ts.length + cs.length

/-- What a character counts as: the code points U+FFFE and U+FFFF are no characters. -/
def countedChar (c : Char) : Char :=
  if c = '\uFFFE' ∨ c = '\uFFFF' then '\uFFFD' else c

/-- What counts of a text: all characters before the first NUL. -/
def counted (s : String) : List Char :=
  (s.toList.takeWhile (· != '\x00')).map countedChar

/-- The largest size of a pattern, in bytes. -/
def maxPatternBytes : Nat := 50000

/-- A pattern that is too large to be matched. -/
def isOverlong (pattern : String) : Bool :=
  decide (maxPatternBytes < pattern.utf8ByteSize)

/-- Whether a text matches a written pattern; a pattern that ends in a backslash matches nothing. -/
def holds (pattern text : String) : Bool :=
  match tokens? (counted pattern) with
  | some ts => matchTokens ts (counted text)
  | none => false

/-- The characters of a text with a backslash before each special one. -/
def escapeChars : List Char → List Char
  | [] => []
  | c :: cs =>
    if c = '\\' ∨ c = '%' ∨ c = '_' then '\\' :: c :: escapeChars cs else c :: escapeChars cs

/-- A text with a backslash before each special character. -/
def escape (s : String) : String :=
  String.ofList (escapeChars s.toList)

/-- The pattern of the texts that contain `s`. -/
def containing (s : String) : String :=
  "%" ++ escape s ++ "%"

/-- An escaped text reads as its own characters. -/
theorem tokens?_escapeChars (cs : List Char) :
    tokens? (escapeChars cs) = some (cs.map .char) := by
  induction cs with
  | nil => rfl
  | cons c cs ih =>
    unfold escapeChars
    split
    · simp [tokens?, ih]
    · next h =>
      rw [tokens?.eq_def]
      split <;> simp_all

end DeviceRegistry.Text.Like
