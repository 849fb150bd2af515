import DeviceRegistry.Json.Reader

/-!
# Encoded JSON

What arrives as bytes may be encoded in units of one, two or four bytes. A value starts with an
ASCII character, so the zeros among the first bytes tell the size of the units and the order of the
bytes in them. Bytes without such zeros are the text as it is, but for a mark in front.
-/

namespace DeviceRegistry.Json

/-- The order of the bytes of a unit. -/
inductive ByteOrder where
  | bigEndian
  | littleEndian
  deriving DecidableEq, Repr, Inhabited

/-- The sizes of the units that a text is encoded in. -/
inductive Encoding where
  | oneByte
  | twoBytes (order : ByteOrder)
  | fourBytes (order : ByteOrder)
  deriving DecidableEq, Repr, Inhabited

namespace Encoding

/-- The encoding that the first bytes tell. -/
def ofBytes : List Nat → Encoding
  | [a, b] =>
    if a = 0 then .twoBytes .bigEndian else if b = 0 then .twoBytes .littleEndian else .oneByte
  | a :: b :: c :: d :: _ =>
    if a = 0 then (if b = 0 then .fourBytes .bigEndian else .twoBytes .bigEndian)
    else if b = 0 then
      (if c = 0 ∧ d = 0 then .fourBytes .littleEndian else .twoBytes .littleEndian)
    else .oneByte
  | _ => .oneByte

end Encoding

/-- The number of some bytes. -/
def ByteOrder.number (order : ByteOrder) (bytes : List Nat) : Nat :=
  match order with
  | .bigEndian => bytes.foldl (fun n b => 256 * n + b) 0
  | .littleEndian => bytes.foldr (fun b n => b + 256 * n) 0

/-- The units of two bytes each; none if a byte is left over. -/
def pairUnits? (order : ByteOrder) : List Nat → Option (List Nat)
  | [] => some []
  | a :: b :: bytes => (pairUnits? order bytes).map (order.number [a, b] :: ·)
  | _ => none

/-- The units of four bytes each; none if bytes are left over. -/
def quadUnits? (order : ByteOrder) : List Nat → Option (List Nat)
  | [] => some []
  | a :: b :: c :: d :: bytes => (quadUnits? order bytes).map (order.number [a, b, c, d] :: ·)
  | _ => none

/-- The largest code point. -/
def maxCode : Nat := 0x10FFFF

/-- The code points of encoded bytes in units of more than one byte. -/
def wideCodes? (bytes : List Nat) : Encoding → Option (List Nat)
  | .oneByte => none
  | .twoBytes order => (pairUnits? order bytes).map fun units => joinUnits (units.map .escaped)
  | .fourBytes order => (quadUnits? order bytes).filter (·.all fun c => decide (c ≤ maxCode))

/-- The characters without a mark in front. -/
def withoutMark : List Char → List Char
  | '\uFEFF' :: cs => cs
  | cs => cs

/-- Why encoded bytes are not read: they are no text, or the text is not read. -/
inductive DecodeError where
  | noText
  | unread (cause : ReadError)
  deriving DecidableEq, Repr, Inhabited

/-- The value that the bytes of a text denote. -/
def decode (content : String) : Except DecodeError Json :=
  let bytes := content.toUTF8.data.toList.map UInt8.toNat
  match Encoding.ofBytes bytes with
  | .oneByte => (readChars maxDepth (withoutMark content.toList)).mapError .unread
  | encoding =>
    match wideCodes? bytes encoding with
    | some codes => (readSymbols maxDepth (codes.map Symbol.ofCode)).mapError .unread
    | none => .error .noText

example : Encoding.ofBytes [0x7B, 0, 0x7D, 0] = .twoBytes .littleEndian := rfl

example : Encoding.ofBytes [0, 0, 0, 0x31] = .fourBytes .bigEndian := rfl

end DeviceRegistry.Json
