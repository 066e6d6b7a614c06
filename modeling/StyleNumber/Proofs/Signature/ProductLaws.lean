import StyleNumber.Proofs.Signature.Leftovers
import StyleNumber.Proofs.Signature.Reduced

/-! # Laws of products up to conversion

Which units a product leaves depends on the operands' order and grouping, but how many
it leaves of each dimension depends on the counts of the operands alone, so products
of commensurable signatures are commensurable (`Signature.Commensurable.multiply`).
The difference between what stands above and what stands below the bar adds up
(`Signature.balance_multiply`), and in a reduced signature it determines both counts
(`Signature.Reduced.counts_eq`). Hence products of reduced signatures are associative
(`Signature.multiply_assoc_commensurable`). Dividing by what was multiplied with gives
the counts of a reduced signature back, even though the divisor need not be reduced
(`Signature.divide_multiply_commensurable`).
-/

namespace StyleNumber

namespace Signature

/-- Whether the table has all units of a signature. -/
def Convertible (units : Signature) : Prop :=
  ∀ unit ∈ units.numerators ++ units.denominators, unit.isConvertible

instance (units : Signature) : Decidable units.Convertible :=
  inferInstanceAs (Decidable (∀ _ ∈ _, _ = true))

private theorem above_inverted (units : Signature) (dimension : Dimension) :
    units.inverted.above dimension = units.below dimension := rfl

private theorem below_inverted (units : Signature) (dimension : Dimension) :
    units.inverted.below dimension = units.above dimension := rfl

private theorem Reduced.above_or_below_eq_zero {units : Signature} (reduced : units.Reduced)
    (category : Category) : units.above (.known category) = 0 ∨ units.below (.known category) = 0 :=
  UnitSymbol.count_eq_zero_of_unrelated reduced category

/-- A category that stands equally far out of balance in two reduced signatures has the
same counts in both. -/
theorem Reduced.counts_eq {first second : Signature} (firstReduced : first.Reduced)
    (secondReduced : second.Reduced) {category : Category}
    (balanced : first.above (.known category) + second.below (.known category) =
      second.above (.known category) + first.below (.known category)) :
    first.above (.known category) = second.above (.known category) ∧
      first.below (.known category) = second.below (.known category) := by
  have firstSide := firstReduced.above_or_below_eq_zero category
  have secondSide := secondReduced.above_or_below_eq_zero category
  omega

private theorem Convertible.counts_custom {units : Signature} (convertible : units.Convertible)
    (symbol : UnitSymbol) :
    units.above (.custom symbol) = 0 ∧ units.below (.custom symbol) = 0 := by
  constructor
  · apply UnitSymbol.count_custom_eq_zero
    exact fun unit member => convertible unit (List.mem_append_left _ member)
  · apply UnitSymbol.count_custom_eq_zero
    exact fun unit member => convertible unit (List.mem_append_right _ member)

variable {K : Type} [Mul K] [Div K] [Constants K]

/-- A product counts dimensions by the counts of its operands alone. -/
theorem Commensurable.multiply {left right leftAnew rightAnew : Signature}
    (leftSame : left.Commensurable leftAnew) (rightSame : right.Commensurable rightAnew)
    (value other : K) :
    (multiply value left right).units.Commensurable (multiply other leftAnew rightAnew).units := by
  rw [commensurable_iff_counts] at leftSame rightSame ⊢
  intro dimension
  obtain ⟨above, below⟩ := counts_multiply value left right dimension
  obtain ⟨aboveAnew, belowAnew⟩ := counts_multiply other leftAnew rightAnew dimension
  simp only [cancelledPairs, leftSame dimension, rightSame dimension] at above below
  constructor
  · exact Nat.add_right_cancel (above.trans aboveAnew.symm)
  · exact Nat.add_right_cancel (below.trans belowAnew.symm)

/-- A pair that cancels leaves the balance of its dimension as it is. -/
theorem balance_multiply (value : K) (left right : Signature) (dimension : Dimension) :
    (multiply value left right).units.above dimension +
        (left.below dimension + right.below dimension) =
      (left.above dimension + right.above dimension) +
        (multiply value left right).units.below dimension := by
  obtain ⟨above, below⟩ := counts_multiply value left right dimension
  omega

private theorem counts_multiply_custom (value : K) (left right : Signature) (symbol : UnitSymbol) :
    (multiply value left right).units.above (.custom symbol) =
        left.above (.custom symbol) + right.above (.custom symbol) ∧
      (multiply value left right).units.below (.custom symbol) =
        left.below (.custom symbol) + right.below (.custom symbol) :=
  counts_multiply value left right (.custom symbol)

/-- The grouping of a product changes which units are left, not how many of each class. -/
theorem multiply_assoc_commensurable {first second third : Signature} (firstReduced : first.Reduced)
    (secondReduced : second.Reduced) (thirdReduced : third.Reduced)
    (leftInner leftOuter rightInner rightOuter : K) :
    (multiply leftOuter (multiply leftInner first second).units third).units.Commensurable
      (multiply rightOuter first (multiply rightInner second third).units).units := by
  rw [commensurable_iff_counts]
  intro dimension
  cases dimension with
  | known category =>
    apply Reduced.counts_eq
    · exact multiply_reduced _ (multiply_reduced _ firstReduced secondReduced) thirdReduced
    · exact multiply_reduced _ firstReduced (multiply_reduced _ secondReduced thirdReduced)
    have leftStart := balance_multiply leftInner first second (.known category)
    have leftEnd := balance_multiply leftOuter (multiply leftInner first second).units third
      (.known category)
    have rightStart := balance_multiply rightInner second third (.known category)
    have rightEnd := balance_multiply rightOuter first (multiply rightInner second third).units
      (.known category)
    omega
  | custom symbol =>
    simp only [counts_multiply_custom]
    exact ⟨Nat.add_assoc _ _ _, Nat.add_assoc _ _ _⟩

/-- Dividing by convertible units undoes multiplying with them. -/
theorem divide_multiply_commensurable {units factor : Signature} (reduced : units.Reduced)
    (convertible : factor.Convertible) (inner outer : K) :
    (divide outer (multiply inner units factor).units factor).units.Commensurable units := by
  rw [commensurable_iff_counts]
  intro dimension
  cases dimension with
  | known category =>
    -- Which side of the bar runs out first differs from case to case, but the counts that
    -- cancel in the product and in the quotient make up for each other in each.
    have product := counts_multiply inner units factor (.known category)
    have quotient := counts_multiply outer (multiply inner units factor).units factor.inverted
      (.known category)
    have oneSided := reduced.above_or_below_eq_zero category
    simp only [cancelledPairs, Dimension.cancelled, above_inverted, below_inverted] at *
    rw [divide]
    omega
  | custom symbol =>
    obtain ⟨noneAbove, noneBelow⟩ := convertible.counts_custom symbol
    simp only [divide, counts_multiply_custom, above_inverted, below_inverted, noneAbove,
      noneBelow, Nat.add_zero, and_self]

end Signature

end StyleNumber
