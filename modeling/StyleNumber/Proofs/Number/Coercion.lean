import StyleNumber.Number.Basic
import StyleNumber.Proofs.Signature.Conversion

/-! # Bringing numbers to one signature

Two numbers are comparable exactly when the right one converts to the units of the left
(`Number.isComparableTo_iff_exists_valueIn`), and if both have units, exactly when their
units are commensurable (`Number.isComparableTo_iff`). An operation on two such numbers
converts the right scalar and keeps the left units
(`Number.coercedOperation_of_commensurable`), and so it does, in effect, when neither number
has units.
-/

namespace StyleNumber

/-- A changed computation succeeds where the computation does. -/
theorem map_eq_ok_iff {α β : Type} {computed : Except Error α} {change : α → β} {result : β} :
    computed.map change = .ok result ↔ ∃ value, computed = .ok value ∧ change value = result := by
  cases computed <;> simp [Except.map]

/-- A changed computation fails as the computation does. -/
theorem map_eq_error_iff {α β : Type} {computed : Except Error α} {change : α → β} {error : Error} :
    computed.map change = .error error ↔ computed = .error error := by
  cases computed <;> simp [Except.map]

namespace Number

section

variable {K : Type}

/-- A number has units if its signature is not empty. -/
theorem hasUnits_iff {number : Number K} : number.hasUnits ↔ ¬number.units.isEmpty := by
  simp [hasUnits]

/-- Of commensurable numbers both or none have units. -/
theorem hasUnits_eq_of_commensurable {left right : Number K}
    (matched : left.units.Commensurable right.units) : left.hasUnits = right.hasUnits :=
  congrArg not matched.isEmpty_eq

end

variable {K : Type} [Mul K] [Div K] [Constants K]

/-- A converted number has the units it was converted to. -/
theorem units_of_coerce {number result : Number K} {target : Signature}
    (success : number.coerce target = .ok result) : result.units = target := by
  obtain ⟨value, _, rfl⟩ := map_eq_ok_iff.mp success
  rfl

/-- A scalar stays as it is where the number or the other one has no units. -/
theorem valueIn_of_not_hasUnits {number other : Number K}
    (bare : ¬number.hasUnits ∨ ¬other.hasUnits) :
    number.valueIn other.units = .ok number.value := by
  simp only [hasUnits_iff, not_not] at bare
  exact Signature.convert_of_isEmpty _ bare

/-- Both scalars in one signature are the left one as it is and the right one in the units
of the left. That the left one is converted if it has no units changes nothing, because
conversion then leaves either of them as it is. -/
theorem coercedValues_eq (left right : Number K) :
    left.coercedValues right = (right.valueIn left.units).map (left.value, ·) := by
  by_cases bearing : left.hasUnits
  · simp only [coercedValues, bearing, ↓reduceIte]
  · simp only [coercedValues, bearing, Bool.false_eq_true, ↓reduceIte,
      valueIn_of_not_hasUnits (.inl bearing), valueIn_of_not_hasUnits (.inr bearing), Except.map]

/-- Numbers are comparable exactly when the right one converts to the units of the left. -/
theorem isComparableTo_iff_exists_valueIn {left right : Number K} :
    left.isComparableTo right ↔ ∃ converted, right.valueIn left.units = .ok converted := by
  by_cases bare : ¬right.hasUnits ∨ ¬left.hasUnits
  · have converted := valueIn_of_not_hasUnits bare
    have comparable : left.isComparableTo right := by
      simp only [isComparableTo, Bool.or_eq_true, Bool.not_eq_true']
      simp only [Bool.not_eq_true] at bare
      exact .inl bare.symm
    exact ⟨fun _ => ⟨_, converted⟩, fun _ => comparable⟩
  · simp only [not_or, not_not] at bare
    rw [isComparableTo, coercedValues_eq, bare.1, bare.2]
    cases right.valueIn left.units <;> simp [Except.map, Except.isOk, Except.toBool]

/-- Numbers with units are comparable exactly when their units are commensurable. -/
theorem isComparableTo_iff {left right : Number K} (leftUnits : left.hasUnits)
    (rightUnits : right.hasUnits) :
    left.isComparableTo right ↔ left.units.Commensurable right.units := by
  rw [isComparableTo_iff_exists_valueIn, valueIn,
    Signature.exists_convert_iff (hasUnits_iff.mp rightUnits) (hasUnits_iff.mp leftUnits)]
  exact ⟨.symm, .symm⟩

/-- Being comparable is symmetric. -/
theorem isComparableTo_comm (left right : Number K) :
    left.isComparableTo right = right.isComparableTo left := by
  rw [Bool.eq_iff_iff]
  by_cases bare : ¬right.hasUnits ∨ ¬left.hasUnits
  · rw [isComparableTo_iff_exists_valueIn, isComparableTo_iff_exists_valueIn,
      valueIn_of_not_hasUnits bare, valueIn_of_not_hasUnits bare.symm]
    simp only [Except.ok.injEq, exists_eq']
  · simp only [not_or, not_not] at bare
    rw [isComparableTo_iff bare.2 bare.1, isComparableTo_iff bare.1 bare.2]
    exact ⟨.symm, .symm⟩

/-- An operation on numbers with commensurable units, or without units, converts the right
scalar and keeps the left units. -/
theorem coercedOperation_of_commensurable (operation : K → K → K) {left right : Number K}
    (matched : left.units.Commensurable right.units) :
    ∃ converted, right.valueIn left.units = .ok converted ∧
      left.coercedOperation operation right =
        .ok (ofUnits (operation left.value converted) left.units) := by
  by_cases bearing : left.hasUnits
  · obtain ⟨converted, success⟩ := matched.symm.exists_convert right.value
    refine ⟨converted, success, ?_⟩
    simp only [coercedOperation, coercedValues, bearing, ↓reduceIte, valueIn, success, Except.map]
  · have leftBare : left.units.isEmpty := by simpa [hasUnits] using bearing
    have rightBare : right.units.isEmpty := matched.isEmpty_eq ▸ leftBare
    have same : right.units = left.units :=
      (Signature.isEmpty_iff.mp rightBare).trans (Signature.isEmpty_iff.mp leftBare).symm
    refine ⟨right.value, Signature.convert_of_isEmpty _ (.inl rightBare), ?_⟩
    simp only [coercedOperation, coercedValues, bearing, Bool.false_eq_true, ↓reduceIte, valueIn,
      same, Signature.convert_self, Except.map]

end Number

end StyleNumber
