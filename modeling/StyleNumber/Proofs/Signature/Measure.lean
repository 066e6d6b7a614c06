import StyleNumber.Proofs.Signature.Conversion
import StyleNumber.Proofs.Signature.Product
import StyleNumber.Proofs.Unit.Scale

/-! # What exact computation preserves

A scale measures a signature by the sizes of its numerators over those of its
denominators (`Scale.measure`). In exact scalars neither conversion nor a product
changes the quantity, which is the scalar times that measure
(`Signature.measure_of_convert`, `Signature.measure_multiply`). A conversion has
therefore no choice in its result: it depends on the two signatures alone and not on
the pairs that happened to be made.
-/

namespace StyleNumber

variable [ExactConstants]

/-- The product of the factors of pairs. -/
noncomputable def ratio (pairs : List Pair) : ℝ :=
  (pairs.map fun pair => pair.factor.eval).prod

private theorem ratio_append (first second : List Pair) :
    ratio (first ++ second) = ratio first * ratio second := by
  rw [ratio, List.map_append, List.prod_append, ratio, ratio]

/-- Scaling by pairs multiplies by the product of their factors. -/
theorem scaled_eq (value : ℝ) (pairs : List Pair) : scaled value pairs = value * ratio pairs := by
  induction pairs generalizing value with
  | nil => exact (mul_one value).symm
  | cons pair pairs ih =>
    change scaled (value * pair.factor.eval) pairs = _
    rw [ih, ratio, ratio, List.map_cons, List.prod_cons, mul_assoc]

/-- A search keeps the balance of weights when each factor balances its two units. -/
theorem Search.prod_weight_eq {factor? : UnitSymbol → UnitSymbol → Option Factor}
    {seekers pool idle rest : List UnitSymbol} {pairs : List Pair}
    (search : Search factor? seekers pool idle rest pairs) (weight : UnitSymbol → ℝ)
    (balanced : ∀ seeker partner factor, factor? seeker partner = some factor →
      weight seeker = factor.eval * weight partner) :
    (seekers.map weight).prod * (rest.map weight).prod =
      ratio pairs * ((pool.map weight).prod * (idle.map weight).prod) := by
  induction search with
  | done pool => simp only [ratio, List.map_nil, List.prod_nil, one_mul, mul_one]
  | @found seeker partner factor seekers pool remaining idle rest pairs related removed later ih =>
    rw [(removed.map weight).prod_eq]
    simp only [ratio, List.map_cons, List.prod_cons] at ih ⊢
    rw [balanced _ _ _ related]
    linear_combination (factor.eval * weight partner) * ih
  | @missed seeker seekers pool idle rest pairs unrelated later ih =>
    simp only [List.map_cons, List.prod_cons]
    linear_combination weight seeker * ih

namespace Scale

variable (scale : Scale)

/-- The size of a unit of the signature. -/
noncomputable def measure (units : Signature) : ℝ :=
  scale.total units.numerators / scale.total units.denominators

/-- The order of units does not change the measure. -/
theorem measure_eq_of_perm {left right : Signature} (same : left.Perm right) :
    scale.measure left = scale.measure right := by
  simp only [measure, total, (same.1.map scale.size).prod_eq, (same.2.map scale.size).prod_eq]

/-- No signature has the measure zero. -/
theorem measure_ne_zero (units : Signature) : scale.measure units ≠ 0 :=
  div_ne_zero (scale.total_ne_zero _) (scale.total_ne_zero _)

private theorem measure_inverted (units : Signature) :
    scale.measure units.inverted = (scale.measure units)⁻¹ :=
  (inv_div _ _).symm

private theorem total_of_cancelled {seekers pool idle rest : List UnitSymbol} {pairs : List Pair}
    (search : Search UnitSymbol.tableFactor? seekers pool idle rest pairs) :
    scale.total seekers * scale.total rest =
      ratio pairs * (scale.total pool * scale.total idle) :=
  search.prod_weight_eq scale.size fun _ _ _ => scale.size_eq

private theorem total_of_filled_denominators {slots pool : List UnitSymbol} {pairs : List Pair}
    (search : Search (fun slot unit => slot.conversionFactor? unit) slots pool [] [] pairs) :
    scale.total slots = ratio pairs * scale.total pool := by
  have balance := search.prod_weight_eq scale.size fun _ _ _ =>
    scale.size_eq_of_conversionFactor
  simp only [List.map_nil, List.prod_nil, mul_one] at balance
  exact balance

private theorem total_inv (units : List UnitSymbol) :
    (units.map fun symbol => (scale.size symbol)⁻¹).prod = (scale.total units)⁻¹ := by
  rw [total, List.prod_inv, List.map_map]
  rfl

private theorem total_of_filled_numerators {slots pool : List UnitSymbol} {pairs : List Pair}
    (search : Search (fun slot unit => unit.conversionFactor? slot) slots pool [] [] pairs) :
    scale.total pool = ratio pairs * scale.total slots := by
  -- The factor leads from the unit to the slot, so it is the reciprocals that balance.
  have balance := search.prod_weight_eq (fun symbol => (scale.size symbol)⁻¹)
    fun slot unit factor related => by
      have split := scale.size_eq_of_conversionFactor related
      have nonzero := left_ne_zero_of_mul (split ▸ scale.size_ne_zero unit)
      rw [split, mul_inv, mul_inv_cancel_left₀ nonzero]
  simp only [total_inv, List.map_nil, List.prod_nil, mul_one] at balance
  have slotsNonzero := scale.total_ne_zero slots
  have poolNonzero := scale.total_ne_zero pool
  field_simp at balance
  linear_combination balance

end Scale

namespace Signature

variable (scale : Scale)

/-- A conversion keeps the quantity. -/
theorem measure_of_convert {value converted : ℝ} {source target : Signature}
    (sourceUnits : ¬source.isEmpty) (targetUnits : ¬target.isEmpty)
    (success : convert value source target = .ok converted) :
    converted * scale.measure target = value * scale.measure source := by
  by_cases same : source = target
  · subst same
    rw [convert_self] at success
    cases success
    rfl
  · rw [convert_eq_ok_iff sourceUnits targetUnits same] at success
    obtain ⟨halfway, above, below⟩ := pairUp_eq_some_iff.mp success
    obtain ⟨abovePairs, aboveSearch, rfl⟩ := fill_search above
    obtain ⟨belowPairs, belowSearch, rfl⟩ := fill_search below
    have numerators := scale.total_of_filled_numerators aboveSearch
    have denominators := scale.total_of_filled_denominators belowSearch
    have sourceNonzero := scale.total_ne_zero source.denominators
    have targetNonzero := scale.total_ne_zero target.denominators
    rw [← scaled_append, scaled_eq, ratio_append, Scale.measure, Scale.measure, numerators,
      denominators]
    rw [denominators] at targetNonzero
    have ratioNonzero := left_ne_zero_of_mul targetNonzero
    field_simp

/-- What two searches leave, with the factors they found, is the same quantity, whichever pairs
they made. -/
theorem measure_of_searches {left right : Signature}
    {leftIdle rightIdle leftRest rightRest : List UnitSymbol} {leftPairs rightPairs : List Pair}
    (first : Search UnitSymbol.tableFactor? left.numerators right.denominators leftIdle rightRest
      leftPairs)
    (second : Search UnitSymbol.tableFactor? right.numerators left.denominators rightIdle leftRest
      rightPairs)
    (value : ℝ) :
    scaled value (leftPairs ++ rightPairs) *
        scale.measure ⟨leftIdle ++ rightIdle, leftRest ++ rightRest⟩ =
      value * scale.measure left * scale.measure right := by
  have leftBalance := scale.total_of_cancelled first
  have rightBalance := scale.total_of_cancelled second
  have leftNonzero := scale.total_ne_zero left.denominators
  have rightNonzero := scale.total_ne_zero right.denominators
  have leftRestNonzero := scale.total_ne_zero leftRest
  have rightRestNonzero := scale.total_ne_zero rightRest
  rw [scaled_eq, ratio_append]
  simp only [Scale.measure, Scale.total_append]
  field_simp
  linear_combination
    (-value * scale.total right.numerators * scale.total leftRest) * leftBalance -
      (value * ratio leftPairs * scale.total right.denominators * scale.total leftIdle) *
        rightBalance

/-- Multiplying keeps the quantity: the product of the scalars in base units is the scalar of
the product in base units. -/
theorem measure_multiply (value : ℝ) (left right : Signature) :
    (multiply value left right).value * scale.measure (multiply value left right).units =
      value * scale.measure left * scale.measure right := by
  obtain ⟨_, _, _, _, _, _, first, second, product⟩ := multiply_searches value left right
  rw [product]
  exact measure_of_searches scale first second value

/-- Dividing keeps the quantity, as multiplying does. -/
theorem measure_divide (value : ℝ) (left right : Signature) :
    (divide value left right).value * scale.measure (divide value left right).units =
      value * scale.measure left / scale.measure right := by
  rw [divide, measure_multiply, scale.measure_inverted, div_eq_mul_inv]

/-- On any scale, the result of a conversion is the one that keeps the quantity. -/
theorem convert_eq_ok_iff_measure {value converted : ℝ} {source target : Signature}
    (sourceUnits : ¬source.isEmpty) (targetUnits : ¬target.isEmpty) :
    convert value source target = .ok converted ↔
      source.Commensurable target ∧
        converted * scale.measure target = value * scale.measure source := by
  constructor
  · intro success
    exact ⟨(exists_convert_iff sourceUnits targetUnits value).mp ⟨converted, success⟩,
      measure_of_convert scale sourceUnits targetUnits success⟩
  · rintro ⟨matched, kept⟩
    obtain ⟨found, success⟩ := (exists_convert_iff sourceUnits targetUnits value).mpr matched
    have foundKept := measure_of_convert scale sourceUnits targetUnits success
    have same : found = converted :=
      mul_right_cancel₀ (scale.measure_ne_zero target) (foundKept.trans kept.symm)
    rw [success, same]

/-- Between commensurable signatures, with units or without, the result of a conversion is
the one that keeps the quantity. -/
theorem Commensurable.convert_eq_ok_iff {source target : Signature}
    (matched : source.Commensurable target) {value converted : ℝ} :
    convert value source target = .ok converted ↔
      converted * scale.measure target = value * scale.measure source := by
  by_cases bare : source.isEmpty
  · have targetBare : target.isEmpty := matched.isEmpty_eq ▸ bare
    rw [convert_of_isEmpty value (.inl bare), isEmpty_iff.mp bare, isEmpty_iff.mp targetBare,
      Except.ok.injEq, mul_left_inj' (scale.measure_ne_zero unitless)]
    exact eq_comm
  · have targetUnits : ¬target.isEmpty := matched.isEmpty_eq ▸ bare
    rw [convert_eq_ok_iff_measure scale bare targetUnits]
    exact and_iff_right matched

/-- **Products and quotients preserve the quantity**, on every scale and whichever units
cancel. -/
theorem products_preserve_quantity (value : ℝ) (left right : Signature) :
    (multiply value left right).value * scale.measure (multiply value left right).units =
        value * scale.measure left * scale.measure right ∧
      (divide value left right).value * scale.measure (divide value left right).units =
        value * scale.measure left / scale.measure right :=
  ⟨measure_multiply scale value left right, measure_divide scale value left right⟩

omit [ExactConstants] in
/-- Two inches times three per pixel are 576, and the base units agree. -/
theorem inches_per_pixel_quantity :
    letI := ExactConstants.standard
    multiply (6 : ℝ) ⟨[⟨"in"⟩], []⟩ ⟨[], [⟨"px"⟩]⟩ = ⟨576, .unitless⟩ ∧
      576 * Scale.standard.measure .unitless =
        6 * Scale.standard.measure ⟨[⟨"in"⟩], []⟩ * Scale.standard.measure ⟨[], [⟨"px"⟩]⟩ := by
  let _ := ExactConstants.standard
  have product : multiply (6 : ℝ) ⟨[⟨"in"⟩], []⟩ ⟨[], [⟨"px"⟩]⟩ = ⟨576, .unitless⟩ := by
    have steps : multiply (6 : ℝ) ⟨[⟨"in"⟩], []⟩ ⟨[], [⟨"px"⟩]⟩ =
        ⟨6 * Factor.eval 96, .unitless⟩ := rfl
    rw [steps]
    norm_num
  have kept := (products_preserve_quantity .standard 6 ⟨[⟨"in"⟩], []⟩ ⟨[], [⟨"px"⟩]⟩).1
  rw [product] at kept
  exact ⟨product, kept⟩

/-- **Conversion does not depend on the path**: two conversions in a row give what one
gives, and converting there and back gives the value back. -/
theorem conversions_compose {first second third : Signature} (firstUnits : ¬first.isEmpty)
    (secondUnits : ¬second.isEmpty) (thirdUnits : ¬third.isEmpty) (value : ℝ) :
    (∀ halfway converted, convert value first second = .ok halfway →
        convert halfway second third = .ok converted →
        convert value first third = .ok converted) ∧
      ∀ halfway, convert value first second = .ok halfway →
        convert halfway second first = .ok value := by
  constructor
  · intro halfway converted toSecond toThird
    rw [convert_eq_ok_iff_measure .standard firstUnits secondUnits] at toSecond
    rw [convert_eq_ok_iff_measure .standard secondUnits thirdUnits] at toThird
    rw [convert_eq_ok_iff_measure .standard firstUnits thirdUnits]
    exact ⟨toSecond.1.trans toThird.1, toThird.2.trans toSecond.2⟩
  · intro halfway toSecond
    rw [convert_eq_ok_iff_measure .standard firstUnits secondUnits] at toSecond
    rw [convert_eq_ok_iff_measure .standard secondUnits firstUnits]
    exact ⟨toSecond.1.symm, toSecond.2.symm⟩

omit [ExactConstants] in
/-- Inches to the second, pixels to the millisecond and points to the second agree. -/
theorem speeds_compose :
    letI := ExactConstants.standard
    convert (2 : ℝ) ⟨[⟨"in"⟩], [⟨"s"⟩]⟩ ⟨[⟨"px"⟩], [⟨"ms"⟩]⟩ = .ok 0.192 ∧
      convert (0.192 : ℝ) ⟨[⟨"px"⟩], [⟨"ms"⟩]⟩ ⟨[⟨"pt"⟩], [⟨"s"⟩]⟩ = .ok 144 ∧
      convert (2 : ℝ) ⟨[⟨"in"⟩], [⟨"s"⟩]⟩ ⟨[⟨"pt"⟩], [⟨"s"⟩]⟩ = .ok 144 ∧
      convert (0.192 : ℝ) ⟨[⟨"px"⟩], [⟨"ms"⟩]⟩ ⟨[⟨"in"⟩], [⟨"s"⟩]⟩ = .ok 2 := by
  let _ := ExactConstants.standard
  have toPixels : convert (2 : ℝ) ⟨[⟨"in"⟩], [⟨"s"⟩]⟩ ⟨[⟨"px"⟩], [⟨"ms"⟩]⟩ = .ok 0.192 := by
    have steps : convert (2 : ℝ) ⟨[⟨"in"⟩], [⟨"s"⟩]⟩ ⟨[⟨"px"⟩], [⟨"ms"⟩]⟩ =
        .ok (2 * Factor.eval 96 * Factor.eval (1 / 1000)) := rfl
    rw [steps]
    norm_num
  have toPoints : convert (0.192 : ℝ) ⟨[⟨"px"⟩], [⟨"ms"⟩]⟩ ⟨[⟨"pt"⟩], [⟨"s"⟩]⟩ = .ok 144 := by
    have steps : convert (0.192 : ℝ) ⟨[⟨"px"⟩], [⟨"ms"⟩]⟩ ⟨[⟨"pt"⟩], [⟨"s"⟩]⟩ =
        .ok (0.192 * Factor.eval (3 / 4) * Factor.eval 1000) := rfl
    rw [steps]
    norm_num
  have composed := @conversions_compose _ ⟨[⟨"in"⟩], [⟨"s"⟩]⟩ ⟨[⟨"px"⟩], [⟨"ms"⟩]⟩
    ⟨[⟨"pt"⟩], [⟨"s"⟩]⟩ (by decide) (by decide) (by decide) 2
  exact ⟨toPixels, toPoints, composed.1 _ _ toPixels toPoints, composed.2 _ toPixels⟩

end Signature

end StyleNumber
