import StyleNumber.Proofs.Signature.Product

/-! # Reduced signatures

A signature is reduced when the table relates none of its numerators to any of its
denominators. Multiplication never looks inside one operand, and yet products and
quotients of reduced signatures are reduced (`Signature.multiply_reduced`,
`Signature.divide_reduced`): what one search leaves is unrelated because the search
has left it, and what the two searches leave together was unrelated in an operand.
-/

namespace StyleNumber

/-- The table reads in both directions or in neither. -/
theorem UnitSymbol.tableFactor?_eq_none_comm {first second : UnitSymbol} :
    first.tableFactor? second = none ↔ second.tableFactor? first = none := by
  rw [← Option.not_isSome_iff_eq_none, ← Option.not_isSome_iff_eq_none, isSome_tableFactor?,
    isSome_tableFactor?]
  simp only [and_comm]

namespace Signature

/-- Whether the table relates no numerator to a denominator. -/
def Reduced (units : Signature) : Prop :=
  ∀ numerator ∈ units.numerators, ∀ denominator ∈ units.denominators,
    numerator.tableFactor? denominator = none

instance (units : Signature) : Decidable units.Reduced :=
  inferInstanceAs (Decidable (∀ _ ∈ _, ∀ _ ∈ _, _ = _))

/-- A reduced signature is reduced upside down, too. -/
theorem Reduced.inverted {units : Signature} (reduced : units.Reduced) : units.inverted.Reduced :=
  fun numerator above denominator below =>
    UnitSymbol.tableFactor?_eq_none_comm.mp (reduced denominator below numerator above)

variable {K : Type} [Mul K] [Div K] [Constants K]

/-- The product of reduced signatures is reduced. -/
theorem multiply_reduced (value : K) {left right : Signature} (leftReduced : left.Reduced)
    (rightReduced : right.Reduced) : (multiply value left right).units.Reduced := by
  obtain ⟨leftIdle, rightIdle, leftRest, rightRest, leftPairs, rightPairs, first, second,
    product⟩ := multiply_searches value left right
  rw [product]
  intro numerator above denominator below
  rcases List.mem_append.mp above with fromLeft | fromRight
  · rcases List.mem_append.mp below with ofLeft | ofRight
    · exact leftReduced numerator (first.idle_sublist.subset fromLeft) denominator
        (second.rest_subset ofLeft)
    · exact first.idle_unrelated numerator fromLeft denominator ofRight
  · rcases List.mem_append.mp below with ofLeft | ofRight
    · exact second.idle_unrelated numerator fromRight denominator ofLeft
    · exact rightReduced numerator (second.idle_sublist.subset fromRight) denominator
        (first.rest_subset ofRight)

/-- The quotient of reduced signatures is reduced. -/
theorem divide_reduced (value : K) {left right : Signature} (leftReduced : left.Reduced)
    (rightReduced : right.Reduced) : (divide value left right).units.Reduced :=
  multiply_reduced value leftReduced rightReduced.inverted

end Signature

end StyleNumber
