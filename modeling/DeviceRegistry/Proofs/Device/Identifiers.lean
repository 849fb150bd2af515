import DeviceRegistry.Device.Identifier

/-!
# Identifiers of one device

A request about one device gives its IMEI or its serial number in full, or leaves it empty. The
check of such a value says whether all its characters are good, and refuses it for one cause.
-/

namespace DeviceRegistry.Identifier

/-- A value that is neither null nor empty has good characters alone. -/
def Consists (good : Char → Bool) (value : Option String) : Prop :=
  ∀ s, Text.filled? value = some s → ∀ c ∈ s.toList, good c = true

/-- An IMEI in digits, or none. -/
abbrev IsNumeric (imei : Option String) : Prop :=
  Consists Char.isDigit imei

/-- A serial number in letters and digits, or none. -/
abbrev IsAlphanumeric (serialNumber : Option String) : Prop :=
  Consists Char.isAlphanum serialNumber

section

variable {good : Char → Bool} {value : Option String}

/-- Whether a filled value consists of good characters is a check of a text that is not empty. -/
theorem consists_iff :
    Consists good value ↔
      (Text.filled? value).all (fun s => !s.toList.isEmpty && s.toList.all good) = true := by
  unfold Consists
  cases hvalue : Text.filled? value with
  | none => simp
  | some s =>
    have hfilled := (Text.filled?_eq_some.mp hvalue).2
    have hne : s.toList ≠ [] := by
      rw [ne_eq, String.toList_eq_nil_iff]
      rintro rfl
      cases hfilled
    simp [hne]

instance : Decidable (Consists good value) :=
  decidable_of_iff _ consists_iff.symm

theorem ifFilled_require (test : String → Bool) (cause : Rejection) :
    ifFilled value (fun s => require (test s) cause) =
      require ((Text.filled? value).all test) cause := by
  unfold ifFilled
  cases Text.filled? value <;> rfl

theorem require_consists {cause : Rejection} :
    require ((Text.filled? value).all fun s => !s.toList.isEmpty && s.toList.all good) cause =
      if Consists good value then .ok () else .error cause := by
  unfold require
  simp only [consists_iff]

end

theorem checkWholeImei_eq (imei : Option String) :
    checkWholeImei imei = if IsNumeric imei then .ok () else .error .imeiNotNumeric :=
  (ifFilled_require _ _).trans require_consists

theorem checkWholeSerialNumber_eq (serialNumber : Option String) :
    checkWholeSerialNumber serialNumber =
      if IsAlphanumeric serialNumber then .ok () else .error .serialNumberNotAlphanumeric :=
  (ifFilled_require _ _).trans require_consists

theorem checkWholeImei_eq_ok {imei : Option String} :
    checkWholeImei imei = .ok () ↔ IsNumeric imei := by
  rw [checkWholeImei_eq]
  by_cases h : IsNumeric imei
  · exact iff_of_true (if_pos h) h
  · rw [if_neg h]
    exact ⟨nofun, fun hn => absurd hn h⟩

theorem checkWholeSerialNumber_eq_ok {serialNumber : Option String} :
    checkWholeSerialNumber serialNumber = .ok () ↔ IsAlphanumeric serialNumber := by
  rw [checkWholeSerialNumber_eq]
  by_cases h : IsAlphanumeric serialNumber
  · exact iff_of_true (if_pos h) h
  · rw [if_neg h]
    exact ⟨nofun, fun hn => absurd hn h⟩

end DeviceRegistry.Identifier
