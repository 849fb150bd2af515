/-!
# Raw texts

A text as a payload may write it. The escapes of a payload name code units, so half of a surrogate
pair can stand alone. Such a text is broken: it can be read and looked at, but neither stored nor
sent. Every other text is whole.
-/

namespace DeviceRegistry

/-- A whole text, or the code points of a broken one. -/
inductive RawText where
  | whole (text : String)
  | broken (codes : List Nat)
  deriving DecidableEq, Repr, Inhabited

namespace RawText

instance : Coe String RawText := ⟨whole⟩

/-- Half of a surrogate pair. -/
def isHalf (code : Nat) : Bool :=
  decide (0xD800 ≤ code) && decide (code < 0xE000)

/-- The text of some code points. -/
def ofCodes (codes : List Nat) : RawText :=
  if codes.any isHalf then broken codes else whole (String.ofList (codes.map Char.ofNat))

/-- The code points of a text. -/
def codes : RawText → List Nat
  | whole s => s.toList.map Char.toNat
  | broken codes => codes

/-- The text itself, if it is whole. -/
def string? : RawText → Option String
  | whole s => some s
  | broken _ => none

/-- A text is whole. -/
def isWhole (t : RawText) : Bool :=
  t.string?.isSome

/-- A text as it is shown, with a replacement character for each half of a pair. -/
def shown : RawText → String
  | whole s => s
  | broken codes =>
    String.ofList (codes.map fun c => if isHalf c then '\uFFFD' else Char.ofNat c)

/-- A text without characters. -/
def isEmpty (t : RawText) : Bool :=
  t.shown.isEmpty

/-- The value of a field unless it is null or the empty text. -/
def filled? (value : Option RawText) : Option RawText :=
  value.filter fun t => !t.isEmpty

@[simp] theorem shown_whole (s : String) : (whole s).shown = s := rfl

@[simp] theorem isEmpty_whole (s : String) : (whole s).isEmpty = s.isEmpty := rfl

theorem string?_eq_some {t : RawText} {s : String} : t.string? = some s ↔ t = whole s := by
  cases t <;> simp [string?]

end RawText

end DeviceRegistry
