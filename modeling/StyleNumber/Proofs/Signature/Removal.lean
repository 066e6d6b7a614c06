import StyleNumber.Proofs.Signature.Distinction
import StyleNumber.Proofs.Signature.Measure
import StyleNumber.Proofs.Signature.Shortcuts

/-! # What the removal of partners decides

Products that close the gaps of the partners taken in different ways (`Closing.multiply`) have the
same numerators, as many denominators of every dimension, and are the same amount
(`Closing.numerators_multiply_eq`, `Closing.commensurable_multiply`, `Closing.convert_multiply`).
They need not have the same denominators: what stays of a category, and with it the scalar, can
depend on the choice. It does so for some order of the operands' units exactly where one of the two
searches is not determined (`Closing.multiplications_agree_iff`).
-/

namespace StyleNumber

namespace Closing

section

variable {K : Type} [Mul K] [Div K] [Constants K]

/-- The product of two signatures, by two searches. -/
def combine (closing : Closing) (value : K) (left right : Signature) : Quantity K :=
  let first := closing.cancel value right.denominators left.numerators
  let second := closing.cancel first.value left.denominators right.numerators
  ⟨second.value,
    ⟨first.numerators ++ second.numerators, second.denominators ++ first.denominators⟩⟩

/-- The product of two signatures, joined without a search where multiplication does so. -/
def multiply (closing : Closing) (value : K) (left right : Signature) : Quantity K :=
  if Signature.TakesShortcut left right then ⟨value, left.joined right⟩
  else closing.combine value left right

variable (closing : Closing)

/-- However gaps are closed, the shortcuts of a product give what its two searches give. -/
theorem multiply_eq_combine (value : K) (left right : Signature) :
    closing.multiply value left right = closing.combine value left right := by
  unfold multiply
  split
  · next shortcut =>
    obtain ⟨first, second⟩ := shortcut.not_anyCancel
    have above := Signature.unrelated_of_not_anyCancel first
    have below := Signature.unrelated_of_not_anyCancel second
    simp only [combine, closing.cancel_of_unrelated _ above, closing.cancel_of_unrelated _ below,
      Signature.joined]
  · rfl

/-- Moving the last unit into the gap is what the product does. -/
theorem multiply_lastIn (value : K) (left right : Signature) :
    lastIn.multiply value left right = Signature.multiply value left right := by
  simp only [multiply_eq_combine, Signature.multiply_eq_combine, combine, Signature.combine,
    cancel_lastIn]

end

variable (closing other : Closing)

/-- However the gaps are closed, a product consists of what two searches leave. -/
theorem exists_multiply_eq (left right : Signature) :
    ∃ leftIdle rightIdle leftPairs rightPairs,
      Search UnitSymbol.tableFactor? left.numerators right.denominators leftIdle
          (closing.leave right.denominators left.numerators) leftPairs ∧
        Search UnitSymbol.tableFactor? right.numerators left.denominators rightIdle
          (closing.leave left.denominators right.numerators) rightPairs ∧
        ∀ (K : Type) [Mul K] [Div K] [Constants K] (value : K),
          closing.multiply value left right =
            ⟨scaled value (leftPairs ++ rightPairs),
              ⟨leftIdle ++ rightIdle,
                closing.leave left.denominators right.numerators ++
                  closing.leave right.denominators left.numerators⟩⟩ := by
  obtain ⟨leftIdle, leftPairs, first, firstEq⟩ :=
    closing.exists_cancel_eq right.denominators left.numerators
  obtain ⟨rightIdle, rightPairs, second, secondEq⟩ :=
    closing.exists_cancel_eq left.denominators right.numerators
  refine ⟨leftIdle, rightIdle, leftPairs, rightPairs, first, second, ?_⟩
  intro K _ _ _ value
  simp only [multiply_eq_combine, combine, firstEq, secondEq, scaled_append]

section

variable {K : Type} [Mul K] [Div K] [Constants K]

private theorem denominators_multiply (value : K) (left right : Signature) :
    (closing.multiply value left right).units.denominators =
      closing.leave left.denominators right.numerators ++
        closing.leave right.denominators left.numerators := by
  obtain ⟨_, _, _, _, _, _, product⟩ := closing.exists_multiply_eq left right
  rw [product K value]

/-- Units do not depend on the scalars, nor on their kind. -/
theorem units_multiply_eq {L : Type} [Mul L] [Div L] [Constants L] (value : K) (another : L)
    (left right : Signature) :
    (closing.multiply value left right).units = (closing.multiply another left right).units := by
  obtain ⟨_, _, _, _, _, _, product⟩ := closing.exists_multiply_eq left right
  rw [product K value, product L another]

/-- The numerators of a product do not depend on how gaps are closed, not even in order. -/
theorem numerators_multiply_eq (value : K) (left right : Signature) :
    (closing.multiply value left right).units.numerators =
      (other.multiply value left right).units.numerators := by
  obtain ⟨_, _, _, _, first, second, product⟩ := closing.exists_multiply_eq left right
  obtain ⟨_, _, _, _, first', second', product'⟩ := other.exists_multiply_eq left right
  rw [product K value, product' K value, first.idle_eq first' (.refl _),
    second.idle_eq second' (.refl _)]

/-- As many denominators of every dimension are left, however the gaps are closed. -/
theorem commensurable_multiply (value : K) (left right : Signature) :
    (closing.multiply value left right).units.Commensurable
      (other.multiply value left right).units := by
  obtain ⟨_, _, _, _, first, second, _⟩ := closing.exists_multiply_eq left right
  obtain ⟨_, _, _, _, first', second', _⟩ := other.exists_multiply_eq left right
  rw [Signature.commensurable_iff, closing.numerators_multiply_eq other, denominators_multiply,
    denominators_multiply, UnitSymbol.dimensions, UnitSymbol.dimensions, UnitSymbol.dimensions,
    List.map_append, List.map_append]
  exact ⟨.refl _,
    (second.dimensions_rest_perm second').append (first.dimensions_rest_perm first')⟩

/-- Where both searches are determined, the units are the same up to order. -/
theorem units_multiply_perm (value : K) {left right : Signature}
    (above : Determined left.numerators right.denominators)
    (below : Determined right.numerators left.denominators) :
    (closing.multiply value left right).units.Perm (other.multiply value left right).units := by
  refine ⟨closing.numerators_multiply_eq other value left right ▸ .refl _, ?_⟩
  rw [denominators_multiply, denominators_multiply]
  exact (closing.leave_perm_of_determined other below).append
    (closing.leave_perm_of_determined other above)

end

section

variable [ExactConstants]

/-- However gaps are closed, a product keeps the quantity. -/
theorem measure_multiply (scale : Scale) (value : ℝ) (left right : Signature) :
    (closing.multiply value left right).value *
        scale.measure (closing.multiply value left right).units =
      value * scale.measure left * scale.measure right := by
  obtain ⟨_, _, _, _, first, second, product⟩ := closing.exists_multiply_eq left right
  rw [product ℝ value]
  exact Signature.measure_of_searches scale first second value

/-- The products are the same amount: the one, converted, is the other. -/
theorem convert_multiply (value : ℝ) (left right : Signature) :
    Signature.convert (closing.multiply value left right).value
        (closing.multiply value left right).units (other.multiply value left right).units =
      .ok (other.multiply value left right).value := by
  have matched := closing.commensurable_multiply other value left right
  rw [matched.convert_eq_ok_iff .standard, measure_multiply, measure_multiply]

/-- In the same units, up to order, the scalars are the same. -/
theorem value_multiply_eq (value : ℝ) {left right : Signature}
    (same : (closing.multiply value left right).units.Perm
      (other.multiply value left right).units) :
    (closing.multiply value left right).value = (other.multiply value left right).value := by
  have kept := closing.measure_multiply .standard value left right
  rw [← other.measure_multiply .standard value left right, Scale.standard.measure_eq_of_perm same]
    at kept
  exact mul_right_cancel₀ (Scale.standard.measure_ne_zero _) kept

/-- **The way gaps are closed shows exactly where a search is not determined.** Whether the last
unit moves into a gap or the units behind it move up, a product has the same numerators, as many
denominators of every dimension, and is the same amount: its exact scalar, converted between the
units of the two products, is the same. For all orders of the operands' units, the denominators are
the same up to order and the exact scalars the same, if and only if both searches are determined. -/
theorem multiplications_agree_iff (left right : Signature) :
    (∀ (value : Double) (exact : ℝ),
      let moved := Signature.multiply value left right
      let kept := inOrder.multiply value left right
      moved.units.numerators = kept.units.numerators ∧
        moved.units.Commensurable kept.units ∧
        Signature.convert (Signature.multiply exact left right).value moved.units kept.units =
          .ok (inOrder.multiply exact left right).value) ∧
    (Determined left.numerators right.denominators ∧
        Determined right.numerators left.denominators ↔
      ∀ left' right' : Signature, left'.Perm left → right'.Perm right →
        ∀ (value : Double) (exact : ℝ),
          (Signature.multiply value left' right').units.Perm
              (inOrder.multiply value left' right').units ∧
            (Signature.multiply exact left' right').value =
              (inOrder.multiply exact left' right').value) := by
  simp only [← multiply_lastIn]
  refine ⟨?_, ?_, ?_⟩
  · intro value exact
    refine ⟨lastIn.numerators_multiply_eq inOrder value left right,
      lastIn.commensurable_multiply inOrder value left right, ?_⟩
    rw [lastIn.units_multiply_eq value exact, inOrder.units_multiply_eq value exact]
    exact lastIn.convert_multiply inOrder exact left right
  · rintro ⟨above, below⟩ left' right' leftPerm rightPerm value exact
    have above' := above.of_perm leftPerm.1 rightPerm.2
    have below' := below.of_perm rightPerm.1 leftPerm.2
    have same := lastIn.units_multiply_perm inOrder exact above' below'
    exact ⟨lastIn.units_multiply_perm inOrder value above' below',
      lastIn.value_multiply_eq inOrder exact same⟩
  · intro agree
    have denominators (left' right' : Signature) (leftPerm : left'.Perm left)
        (rightPerm : right'.Perm right) := (agree left' right' leftPerm rightPerm 0 0).1.2
    simp only [denominators_multiply] at denominators
    refine ⟨?_, ?_⟩
    · apply determined_of_perm (lastIn.leave left.denominators right.numerators)
        (inOrder.leave left.denominators right.numerators)
      intro seekers pool seekersPerm poolPerm
      exact denominators ⟨seekers, left.denominators⟩ ⟨right.numerators, pool⟩
        ⟨seekersPerm, .refl _⟩ ⟨.refl _, poolPerm⟩
    · apply determined_of_perm (lastIn.leave right.denominators left.numerators)
        (inOrder.leave right.denominators left.numerators)
      intro seekers pool seekersPerm poolPerm
      have same := denominators ⟨left.numerators, pool⟩ ⟨seekers, right.denominators⟩
        ⟨.refl _, poolPerm⟩ ⟨seekersPerm, .refl _⟩
      exact (List.perm_append_comm.trans same).trans List.perm_append_comm

omit [ExactConstants] in
/-- Pixels and inches over seconds and three centimeters can only leave a centimeter. -/
theorem lengths_over_centimeters :
    let lengths : Signature := ⟨[⟨"px"⟩, ⟨"in"⟩], []⟩
    let perLength : Signature := ⟨[], [⟨"s"⟩, ⟨"cm"⟩, ⟨"cm"⟩, ⟨"cm"⟩]⟩
    Determined lengths.numerators perLength.denominators ∧
      (Signature.multiply (1 : Double) lengths perLength).units = ⟨[], [⟨"s"⟩, ⟨"cm"⟩]⟩ ∧
      letI := ExactConstants.standard
      (Signature.multiply (1 : ℝ) lengths perLength).value =
        (inOrder.multiply (1 : ℝ) lengths perLength).value := by
  intro lengths perLength
  let _ := ExactConstants.standard
  have above : Determined lengths.numerators perLength.denominators := by decide
  have below : Determined perLength.numerators lengths.denominators := by decide
  have agree := (multiplications_agree_iff lengths perLength).2.mp ⟨above, below⟩ lengths perLength
    ⟨.refl _, .refl _⟩ ⟨.refl _, .refl _⟩ 1 1
  exact ⟨above, by decide +kernel, agree.2⟩

omit [ExactConstants] in
/-- Millimeters and quarters over pixels, inches and centimeters: behind the pixel taken first, the
quarter finds the centimeter where the last unit has moved in, and the inch where the units have
moved up. -/
theorem quarters_tell_closings_apart :
    letI := ExactConstants.standard
    let lengths : Signature := ⟨[⟨"mm"⟩, ⟨"q"⟩], []⟩
    let perLength : Signature := ⟨[], [⟨"px"⟩, ⟨"in"⟩, ⟨"cm"⟩]⟩
    (Signature.multiply (1 : Double) lengths perLength).units = ⟨[], [⟨"in"⟩]⟩ ∧
      (inOrder.multiply (1 : Double) lengths perLength).units = ⟨[], [⟨"cm"⟩]⟩ ∧
      (Signature.multiply (1 : ℝ) lengths perLength).value = 12 / 127 ∧
      (inOrder.multiply (1 : ℝ) lengths perLength).value = 600 / 16129 ∧
      ¬∀ (left right : Signature) (value : Double) (exact : ℝ),
          (Signature.multiply value left right).units.numerators.Perm
              (inOrder.multiply value left right).units.numerators ∧
            (Signature.multiply value left right).units.denominators.Perm
              (inOrder.multiply value left right).units.denominators ∧
            (Signature.multiply exact left right).value =
              (inOrder.multiply exact left right).value := by
  let _ := ExactConstants.standard
  let lengths : Signature := ⟨[⟨"mm"⟩, ⟨"q"⟩], []⟩
  let perLength : Signature := ⟨[], [⟨"px"⟩, ⟨"in"⟩, ⟨"cm"⟩]⟩
  have moved : (Signature.multiply (1 : ℝ) lengths perLength).value = 12 / 127 := by
    have steps : (Signature.multiply (1 : ℝ) lengths perLength).value =
        1 * Factor.eval (96 / 25.4) * Factor.eval (1 / 40) := rfl
    rw [steps]
    norm_num
  have kept : (inOrder.multiply (1 : ℝ) lengths perLength).value = 600 / 16129 := by
    have steps : (inOrder.multiply (1 : ℝ) lengths perLength).value =
        1 * Factor.eval (96 / 25.4) * Factor.eval (1 / 101.6) := rfl
    rw [steps]
    norm_num
  refine ⟨by decide +kernel, by decide +kernel, moved, kept, fun agree => ?_⟩
  have same := (agree lengths perLength 1 1).2.2
  rw [moved, kept] at same
  norm_num at same

end

end Closing

end StyleNumber
