/-!
# Encoded characters

Characters as bytes, in the encoding that takes one to four of them for each. Bytes that encode no
character are read as replacement characters: one for the bytes that start a character and do not
finish it, and one for each byte that starts none.
-/

namespace DeviceRegistry.Text

/-- The bytes of some characters. -/
def toUtf8 (cs : List Char) : List Nat :=
  (cs.flatMap String.utf8EncodeChar).map UInt8.toNat

/-- A character that lacks bytes: the range of the next one, how many follow that one, and the bits
read so far. -/
structure Unfinished where
  low : Nat := 0x80
  high : Nat := 0xBF
  after : Nat
  bits : Nat
  deriving DecidableEq, Repr, Inhabited

/-- The character that a byte starts. -/
def Unfinished.ofByte? (b : Nat) : Option Unfinished :=
  if b < 0xC2 then none
  else if b < 0xE0 then some { after := 0, bits := b - 0xC0 }
  else if b = 0xE0 then some { low := 0xA0, after := 1, bits := b - 0xE0 }
  else if b = 0xED then some { high := 0x9F, after := 1, bits := b - 0xE0 }
  else if b < 0xF0 then some { after := 1, bits := b - 0xE0 }
  else if b = 0xF0 then some { low := 0x90, after := 2, bits := b - 0xF0 }
  else if b = 0xF4 then some { high := 0x8F, after := 2, bits := b - 0xF0 }
  else if b < 0xF4 then some { after := 2, bits := b - 0xF0 }
  else none

/-- What stands for bytes that encode no character. -/
def replacement : Char := '\uFFFD'

/-- The characters that a first byte finishes, and the one that it starts. -/
def firstByte (b : Nat) : List Char × Option Unfinished :=
  if b < 0x80 then ([Char.ofNat b], none)
  else
    match Unfinished.ofByte? b with
    | some u => ([], some u)
    | none => ([replacement], none)

/-- The characters that a further byte finishes, and the one that then lacks bytes. -/
def furtherByte (u : Unfinished) (b : Nat) : List Char × Option Unfinished :=
  if u.low ≤ b ∧ b ≤ u.high then
    let bits := 64 * u.bits + (b - 0x80)
    if u.after = 0 then ([Char.ofNat bits], none)
    else ([], some { after := u.after - 1, bits := bits })
  else (replacement :: (firstByte b).1, (firstByte b).2)

/-- The characters of some bytes, after those of one that lacks bytes. -/
def fromUtf8 (pending : Option Unfinished) : List Nat → List Char
  | [] => if pending.isSome then [replacement] else []
  | b :: bs =>
    let (finished, pending) := pending.elim (firstByte b) (furtherByte · b)
    finished ++ fromUtf8 pending bs

/-- The characters that some bytes encode. -/
def ofUtf8 (bytes : List Nat) : List Char :=
  fromUtf8 none bytes

example : ofUtf8 (toUtf8 "aé€😀".toList) = "aé€😀".toList := by decide +kernel

example : ofUtf8 [0xE2, 0x82, 0x41, 0xC0] = [replacement, 'A', replacement] := by decide +kernel

end DeviceRegistry.Text
