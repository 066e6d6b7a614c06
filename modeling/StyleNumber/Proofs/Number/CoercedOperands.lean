import StyleNumber.Proofs.Number.Comparison
import StyleNumber.Proofs.Number.Operability

/-! # Operands converted beforehand

Sums, differences, remainders and comparisons see of their operands only the scalars in one
signature and the units of the result (`Number.apply_eq_of_coercedValues_eq`). One of the two
numbers can therefore be converted beforehand, the right one if the left has units and else the
left one: the answer is the same, and with both operands in one signature the operator has
nothing left to convert (`Number.operators_factor_through_coerce`).
-/

namespace StyleNumber

/-- Whether an operator brings its operands to one signature; products and quotients do not. -/
def Operator.Coerces (operator : Operator) : Prop :=
  operator ∉ [arithmetic .times, arithmetic .dividedBy]

instance (operator : Operator) : Decidable operator.Coerces :=
  inferInstanceAs (Decidable (_ ∉ _))

namespace Number

section

variable {K : Type}

/-- The units of a sum, a difference or a remainder: those of the left operand if it has any, else
those of the right one. -/
def resultUnits (left right : Number K) : Signature :=
  if left.hasUnits then left.units else right.units

variable [Mul K] [Div K] [Constants K]

private theorem coercedOperation_eq (operation : K → K → K) (left right : Number K) :
    left.coercedOperation operation right =
      (left.coercedValues right).map fun values =>
        ofUnits (operation values.1 values.2) (left.resultUnits right) := rfl

/-- What has been converted to some units is not changed by converting it to them again. -/
theorem coerce_of_coerce_eq_ok {number coerced : Number K} {target : Signature}
    (success : number.coerce target = .ok coerced) : coerced.coerce target = .ok coerced := by
  obtain ⟨converted, _, rfl⟩ := map_eq_ok_iff.mp success
  exact map_eq_ok_iff.mpr ⟨converted, Signature.convert_self converted target, rfl⟩

/-- Operands of one signature need no conversion. -/
theorem coercedValues_of_units_eq {left right : Number K} (same : left.units = right.units) :
    left.coercedValues right = .ok (left.value, right.value) := by
  rw [coercedValues_eq, valueIn, same, Signature.convert_self, Except.map]

/-- The right operand may be converted to the units of the left one beforehand. -/
theorem coercedValues_coerce_right {left right coerced : Number K}
    (success : right.coerce left.units = .ok coerced) :
    left.coercedValues right = .ok (left.value, coerced.value) ∧
      left.coercedValues coerced = .ok (left.value, coerced.value) := by
  obtain ⟨converted, isConverted, rfl⟩ := map_eq_ok_iff.mp success
  refine ⟨?_, coercedValues_of_units_eq rfl⟩
  rw [coercedValues_eq, isConverted, Except.map]
  rfl

/-- A left operand without units may take those of the right one beforehand. -/
theorem coercedValues_coerce_left {left right coerced : Number K} (bare : ¬left.hasUnits)
    (success : left.coerce right.units = .ok coerced) :
    left.coercedValues right = .ok (coerced.value, right.value) ∧
      coerced.coercedValues right = .ok (coerced.value, right.value) := by
  obtain ⟨converted, isConverted, rfl⟩ := map_eq_ok_iff.mp success
  refine ⟨?_, coercedValues_of_units_eq rfl⟩
  simp only [coercedValues, bare, Bool.false_eq_true, ↓reduceIte, isConverted, Except.map]
  rfl

end

/-- An operator that brings its operands to one signature sees of them only the scalars in it and
the units of the result. -/
theorem apply_eq_of_coercedValues_eq {operator : Operator} (coerces : operator.Coerces)
    {left right left' right' : Number Double}
    (values : left.coercedValues right = left'.coercedValues right')
    (units : left.resultUnits right = left'.resultUnits right') :
    left.apply operator (.number right) = left'.apply operator (.number right') := by
  have results (operation : Double → Double → Double) :
      left.coercedOperation operation right = left'.coercedOperation operation right' := by
    rw [coercedOperation_eq, coercedOperation_eq, values, units]
  cases operator with
  | arithmetic operator =>
    cases operator with
    | plus | minus | modulo => simp only [apply, operate, calculate, plus, minus, modulo, results]
    | times | dividedBy => exact (coerces (by decide)).elim
  | comparison operator => simp only [apply, compare, values]

/-- Comparable operands get an answer, and so do others with the same scalars in one signature and
the same units of the result. -/
theorem exists_common_answer {operator : Operator} (coerces : operator.Coerces)
    {left right left' right' : Number Double} (comparable : left.isComparableTo right)
    (values : left.coercedValues right = left'.coercedValues right')
    (units : left.resultUnits right = left'.resultUnits right') :
    ∃ answer, left.apply operator (.number right) = .ok answer ∧
      left'.apply operator (.number right') = .ok answer := by
  obtain ⟨answer, success⟩ : ∃ answer, left.apply operator (.number right) = .ok answer :=
    exists_apply_eq_ok_iff.mpr (by simp [Operator.Undefined, Operator.Incompatible, comparable])
  rw [← apply_eq_of_coercedValues_eq coerces values units]
  exact ⟨answer, success, success⟩

private theorem exists_calculate_of_comparable {left right : Number Double}
    (comparable : left.isComparableTo right) {operator : Arithmetic}
    (coerces : operator ∈ [Arithmetic.plus, .minus, .modulo]) :
    ∃ result, left.calculate operator right = .ok result ∧
      result.units = left.resultUnits right := by
  obtain ⟨converted, success⟩ := isComparableTo_iff_exists_valueIn.mp comparable
  have values : left.coercedValues right = .ok (left.value, converted) := by
    rw [coercedValues_eq, success, Except.map]
  cases operator with
  | plus | minus | modulo => exact ⟨_, map_eq_ok_iff.mpr ⟨_, values, rfl⟩, rfl⟩
  | times | dividedBy => exact absurd coerces (by decide)

/-- **Operators factor through conversion.** Of two comparable numbers, one can be converted
beforehand: the right one to the units of the left if that has any, else the left one to those
of the right. Sums, differences, remainders and comparisons then give the same answer, and they
convert nothing any more, both operands having one signature. It is the signature of the result,
and converting to it again changes nothing. -/
theorem operators_factor_through_coerce :
    (∀ left right : Number Double, left.isComparableTo right →
      (left.hasUnits →
        ∃ coerced, right.coerce left.units = .ok coerced ∧ coerced.units = left.units ∧
          left.Meet coerced left.value coerced.value ∧
          ∀ operator : Operator, operator.Coerces →
            ∃ answer, left.apply operator (.number right) = .ok answer ∧
              left.apply operator (.number coerced) = .ok answer) ∧
      (¬left.hasUnits →
        ∃ coerced, left.coerce right.units = .ok coerced ∧ coerced.units = right.units ∧
          coerced.Meet right coerced.value right.value ∧
          ∀ operator : Operator, operator.Coerces →
            ∃ answer, left.apply operator (.number right) = .ok answer ∧
              coerced.apply operator (.number right) = .ok answer) ∧
      ∀ operator ∈ [Arithmetic.plus, .minus, .modulo],
        ∃ result, left.calculate operator right = .ok result ∧
          result.units = if left.hasUnits then left.units else right.units) ∧
    ∀ (number coerced : Number Double) (target : Signature),
      number.coerce target = .ok coerced →
        coerced.units = target ∧ coerced.coerce target = .ok coerced := by
  refine ⟨fun left right comparable => ⟨?_, ?_, ?_⟩, ?_⟩
  · intro leftUnits
    obtain ⟨coerced, success⟩ :=
      exists_coerce_iff.mpr (isComparableTo_iff_exists_valueIn.mp comparable)
    obtain ⟨before, after⟩ := coercedValues_coerce_right success
    have units : left.resultUnits right = left.resultUnits coerced := by
      simp only [resultUnits, leftUnits, ↓reduceIte]
    exact ⟨coerced, success, units_of_coerce success, meet_iff.mpr after, fun _ coerces =>
      exists_common_answer coerces comparable (before.trans after.symm) units⟩
  · intro bare
    have stays : left.valueIn right.units = .ok left.value := valueIn_of_not_hasUnits (.inl bare)
    obtain ⟨coerced, success⟩ := exists_coerce_iff.mpr ⟨left.value, stays⟩
    obtain ⟨before, after⟩ := coercedValues_coerce_left bare success
    have taken := units_of_coerce success
    have units : left.resultUnits right = coerced.resultUnits right := by
      simp only [resultUnits, bare, Bool.false_eq_true, ↓reduceIte, taken, ite_self]
    exact ⟨coerced, success, taken, meet_iff.mpr after, fun _ coerces =>
      exists_common_answer coerces comparable (before.trans after.symm) units⟩
  · intro operator coerces
    exact exists_calculate_of_comparable comparable coerces
  · intro number coerced target success
    exact ⟨units_of_coerce success, coerce_of_coerce_eq_ok success⟩

/-- Forty-eight pixels are taken from an inch as half an inch is, which leaves half an inch,
and a bare three is compared with them as three pixels are, which are less. -/
theorem inch_minus_half_inch :
    let inch : Number Double := ofUnit 1 ⟨"in"⟩
    let half : Number Double := ofUnit 0.5 ⟨"in"⟩
    let pixels : Number Double := ofUnit 48 ⟨"px"⟩
    let bare : Number Double := unitless 3
    let three : Number Double := ofUnit 3 ⟨"px"⟩
    (inch.isComparableTo pixels ∧ inch.hasUnits ∧ (Operator.arithmetic .minus).Coerces ∧
      pixels.coerce inch.units = .ok half ∧ half.coerce inch.units = .ok half ∧
      inch.apply (.arithmetic .minus) (.number pixels) = .ok (.inl (.number half)) ∧
      inch.apply (.arithmetic .minus) (.number half) = .ok (.inl (.number half))) ∧
    bare.isComparableTo pixels ∧ ¬bare.hasUnits ∧ (Operator.comparison .lessThan).Coerces ∧
      bare.coerce pixels.units = .ok three ∧
      bare.apply (.comparison .lessThan) (.number pixels) = .ok (.inr true) ∧
      three.apply (.comparison .lessThan) (.number pixels) = .ok (.inr true) := by
  intro inch half pixels bare three
  have inInches : pixels.coerce inch.units = .ok half := by decide +kernel
  have inPixels : bare.coerce pixels.units = .ok three := by decide +kernel
  have inchComparable : inch.isComparableTo pixels := by decide
  have bareComparable : bare.isComparableTo pixels := by decide
  obtain ⟨inInchesToo, sameInches, _, _, subtracts⟩ :=
    (operators_factor_through_coerce.1 inch pixels inchComparable).1 (by decide)
  obtain ⟨inPixelsToo, samePixels, _, _, compares⟩ :=
    (operators_factor_through_coerce.1 bare pixels bareComparable).2.1 (by decide)
  obtain rfl : half = inInchesToo := Except.ok.inj (inInches.symm.trans sameInches)
  obtain rfl : three = inPixelsToo := Except.ok.inj (inPixels.symm.trans samePixels)
  have difference : inch.apply (.arithmetic .minus) (.number pixels) = .ok (.inl (.number half)) :=
    by decide +kernel
  have less : bare.apply (.comparison .lessThan) (.number pixels) = .ok (.inr true) := by
    decide +kernel
  obtain ⟨_, beforehand, sameDifference⟩ := subtracts (.arithmetic .minus) (by decide)
  obtain rfl := Except.ok.inj (beforehand.symm.trans difference)
  obtain ⟨_, given, sameAnswer⟩ := compares (.comparison .lessThan) (by decide)
  obtain rfl := Except.ok.inj (given.symm.trans less)
  exact ⟨⟨inchComparable, by decide, by decide, inInches,
      (operators_factor_through_coerce.2 _ _ _ inInches).2, difference, sameDifference⟩,
    bareComparable, by decide, by decide, inPixels, less, sameAnswer⟩

end Number

end StyleNumber
