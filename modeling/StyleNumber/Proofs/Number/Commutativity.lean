import StyleNumber.Number.Basic
import StyleNumber.Proofs.Double.Rank
import StyleNumber.Proofs.Signature.Measure

/-! # Products commute up to order

The two searches of a product do not touch each other: the left numerators look among the right
denominators, and the right numerators among the left denominators. With the operands exchanged
the same two searches are made in the opposite order (`Signature.exists_multiply_eq`). The product
therefore has the same units in another order, and its scalar the same factors in another order
(`Number.times_comm_up_to_order`). In doubles that order can show in the rounding, but only where
both searches find something to cancel.
-/

namespace StyleNumber

/-- Two runs of factors can be exchanged where one of them is empty. -/
theorem scaled_comm_of_eq_nil {K : Type} [Mul K] [Div K] [Constants K] (value : K)
    {first second : List Pair} (empty : first = [] ∨ second = []) :
    scaled (scaled value first) second = scaled (scaled value second) first := by
  rcases empty with rfl | rfl
  · rfl
  · rfl

private theorem scaled_comm [ExactConstants] (value : ℝ) (first second : List Pair) :
    scaled (scaled value first) second = scaled (scaled value second) first := by
  rw [scaled_eq, scaled_eq, scaled_eq, scaled_eq, mul_right_comm]

namespace Number

variable {K : Type} [Mul K] [Div K] [Constants K]

/-- In scalars whose multiplication commutes, exchanging the operands of a product exchanges what
its two searches leave, and the factors they contribute. -/
theorem exists_times_eq (mul_comm : ∀ first second : K, first * second = second * first)
    (left right : Number K) :
    ∃ leftIdle rightIdle leftRest rightRest leftPairs rightPairs,
      Search UnitSymbol.tableFactor? left.units.numerators right.units.denominators
          leftIdle rightRest leftPairs ∧
        Search UnitSymbol.tableFactor? right.units.numerators left.units.denominators
          rightIdle leftRest rightPairs ∧
        left.times right =
          ofUnits (scaled (scaled (left.value * right.value) leftPairs) rightPairs)
            ⟨leftIdle ++ rightIdle, leftRest ++ rightRest⟩ ∧
        right.times left =
          ofUnits (scaled (scaled (left.value * right.value) rightPairs) leftPairs)
            ⟨rightIdle ++ leftIdle, rightRest ++ leftRest⟩ := by
  obtain ⟨leftIdle, rightIdle, leftRest, rightRest, leftPairs, rightPairs, first, second,
    product⟩ := Signature.exists_multiply_eq left.units right.units
  refine ⟨leftIdle, rightIdle, leftRest, rightRest, leftPairs, rightPairs, first, second, ?_, ?_⟩
  · rw [times, (product K (left.value * right.value)).1, ofUnits]
  · rw [times, mul_comm, (product K (left.value * right.value)).2, ofUnits]

/-- **Products commute up to order.** There are lists of units and of cancelled pairs, depending on
the operands alone, that make up both products: exchanging the operands exchanges, above the bar
and below it, what is left of each, and the order in which the factors of the pairs are applied to
the product of the scalars. So both products have the same units up to order. Their scalars are the
same double wherever only one of the two searches finds a pair, and the same number in exact
scalars. -/
theorem times_comm_up_to_order [ExactConstants] :
    (∀ left right : Number Double,
      ∃ leftIdle rightIdle leftRest rightRest leftPairs rightPairs,
        (Search UnitSymbol.tableFactor? left.units.numerators right.units.denominators
            leftIdle rightRest leftPairs ∧
          Search UnitSymbol.tableFactor? right.units.numerators left.units.denominators
            rightIdle leftRest rightPairs) ∧
        left.times right =
          ofUnits (scaled (scaled (left.value * right.value) leftPairs) rightPairs)
            ⟨leftIdle ++ rightIdle, leftRest ++ rightRest⟩ ∧
        right.times left =
          ofUnits (scaled (scaled (left.value * right.value) rightPairs) leftPairs)
            ⟨rightIdle ++ leftIdle, rightRest ++ leftRest⟩ ∧
        (left.times right).units.Perm (right.times left).units ∧
        (leftPairs = [] ∨ rightPairs = [] → (left.times right).value = (right.times left).value) ∧
        (leftPairs = [] ↔
          ¬Signature.anyCancel left.units.numerators right.units.denominators) ∧
        (rightPairs = [] ↔
          ¬Signature.anyCancel right.units.numerators left.units.denominators)) ∧
    ∀ left right : Number ℝ,
      (left.times right).units.Perm (right.times left).units ∧
        (left.times right).value = (right.times left).value := by
  refine ⟨fun left right => ?_, fun left right => ?_⟩
  · obtain ⟨leftIdle, rightIdle, leftRest, rightRest, leftPairs, rightPairs, first, second,
      product, exchanged⟩ := exists_times_eq Double.mul_comm left right
    refine ⟨leftIdle, rightIdle, leftRest, rightRest, leftPairs, rightPairs, ⟨first, second⟩,
      product, exchanged, ?_, ?_, first.pairs_eq_nil_iff, second.pairs_eq_nil_iff⟩
    · rw [product, exchanged]
      exact ⟨List.perm_append_comm, List.perm_append_comm⟩
    · intro empty
      rw [product, exchanged]
      exact scaled_comm_of_eq_nil _ empty
  · obtain ⟨leftIdle, rightIdle, leftRest, rightRest, leftPairs, rightPairs, _, _, product,
      exchanged⟩ := exists_times_eq mul_comm left right
    rw [product, exchanged]
    exact ⟨⟨List.perm_append_comm, List.perm_append_comm⟩, scaled_comm _ _ _⟩

/-- Inches cancel against the pixels of two ems per pixel, and nothing cancels the other way round,
so both products are the same double. -/
theorem inches_times_ems_per_pixel :
    let inches : Number Double := ofUnit 3 ⟨"in"⟩
    let density : Number Double := ofUnits 2 ⟨[⟨"em"⟩], [⟨"px"⟩]⟩
    ¬Signature.anyCancel density.units.numerators inches.units.denominators ∧
      inches.times density = ofUnit 576 ⟨"em"⟩ ∧
      (inches.times density).value = (density.times inches).value := by
  intro inches density
  let _ := ExactConstants.standard
  have oneSided : ¬Signature.anyCancel density.units.numerators inches.units.denominators := by
    decide
  obtain ⟨_, _, _, _, _, _, _, _, _, _, same, _, empty⟩ :=
    times_comm_up_to_order.1 inches density
  exact ⟨oneSided, by decide +kernel, same (.inr (empty.mpr oneSided))⟩

end Number

end StyleNumber
