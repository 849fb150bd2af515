/-!
# Filled fields

A field of a request may be null or the empty text, and many rules take the two alike: such a field
is not filled.
-/

namespace DeviceRegistry.Text

/-- The value of a field unless it is null or the empty text. -/
def filled? (value : Option String) : Option String :=
  value.filter fun s => !s.isEmpty

/-- A field that is neither null nor the empty text. -/
def isFilled (value : Option String) : Bool :=
  (filled? value).isSome

theorem filled?_eq_some {value : Option String} {s : String} :
    filled? value = some s ↔ value = some s ∧ s.isEmpty = false := by
  simp [filled?, Option.filter_eq_some_iff]

end DeviceRegistry.Text
