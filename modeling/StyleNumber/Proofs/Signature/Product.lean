import StyleNumber.Proofs.Signature.Search
import StyleNumber.Signature.Product

/-! # Products as two searches

The shortcuts of multiplication give what the search would have given
(`Signature.multiply_eq_combine`), so a product is always made by two searches that do
not touch each other: the left numerators look among the right denominators, and the
right numerators among the left denominators (`Signature.multiply_searches`).
-/

namespace StyleNumber

variable {K : Type} [Mul K] [Div K] [Constants K]

/-- Where the table relates nothing, nothing cancels. -/
theorem cancel_of_unrelated (value : K) {denominators numerators : List UnitSymbol}
    (unrelated : ∀ numerator ∈ numerators, ∀ denominator ∈ denominators,
      numerator.tableFactor? denominator = none) :
    cancel value denominators numerators = ⟨value, numerators, denominators⟩ := by
  rw [← Closing.cancel_lastIn]
  exact Closing.lastIn.cancel_of_unrelated value unrelated

private theorem cancel_nil_numerators (value : K) (denominators : List UnitSymbol) :
    cancel value denominators [] = ⟨value, [], denominators⟩ := rfl

private theorem cancel_nil_denominators (value : K) (numerators : List UnitSymbol) :
    cancel value [] numerators = ⟨value, numerators, []⟩ :=
  cancel_of_unrelated value fun _ _ _ member => nomatch member

namespace Signature

/-- Something cancels when the table relates a numerator to a denominator. -/
theorem anyCancel_iff {numerators denominators : List UnitSymbol} :
    anyCancel numerators denominators ↔
      ∃ numerator ∈ numerators, ∃ denominator ∈ denominators,
        (numerator.tableFactor? denominator).isSome := by
  simp only [anyCancel, List.any_eq_true]

/-- Where nothing cancels the table relates no numerator to any denominator. -/
theorem unrelated_of_not_anyCancel {numerators denominators : List UnitSymbol}
    (nothing : ¬anyCancel numerators denominators) :
    ∀ numerator ∈ numerators, ∀ denominator ∈ denominators,
      numerator.tableFactor? denominator = none := by
  intro numerator above denominator below
  by_contra related
  apply nothing
  rw [anyCancel_iff]
  exact ⟨numerator, above, denominator, below, Option.isSome_iff_ne_none.mpr related⟩

end Signature

open Signature in
/-- A search makes no pair exactly when the table relates no seeker to the pool. -/
theorem Search.pairs_eq_nil_iff {seekers pool idle rest : List UnitSymbol} {pairs : List Pair}
    (search : Search UnitSymbol.tableFactor? seekers pool idle rest pairs) :
    pairs = [] ↔ ¬anyCancel seekers pool := by
  rw [anyCancel_iff]
  refine ⟨?_, ?_⟩
  · rintro rfl ⟨seeker, seeks, candidate, stands, related⟩
    have isIdle : seeker ∈ idle := search.seekers_perm.mem_iff.mp seeks
    have isLeft : candidate ∈ rest := search.pool_perm.mem_iff.mp stands
    rw [search.idle_unrelated seeker isIdle candidate isLeft] at related
    cases related
  · intro nothing
    apply List.eq_nil_iff_forall_not_mem.mpr
    intro pair member
    exact nothing ⟨pair.seeker, search.seeker_mem member, pair.partner, search.partner_mem member,
      Option.isSome_iff_exists.mpr ⟨pair.factor, search.related_of_mem member⟩⟩

namespace Signature

/-- The shortcuts of multiplication do not change its result. -/
theorem multiply_eq_combine (value : K) (left right : Signature) :
    multiply value left right = combine value left right := by
  unfold multiply
  split
  · simp only [combine, cancel_nil_numerators, cancel_nil_denominators, List.nil_append]
  · split
    · rfl
    · next nothing =>
      simp only [combine, cancel_nil_numerators, List.nil_append, List.append_nil,
        cancel_of_unrelated value (unrelated_of_not_anyCancel nothing)]
  · simp only [combine, cancel_nil_numerators, cancel_nil_denominators, List.append_nil]
  · split
    · rfl
    · next nothing =>
      simp only [combine, cancel_nil_numerators, List.nil_append, List.append_nil,
        cancel_of_unrelated value (unrelated_of_not_anyCancel nothing)]
  · rfl

/-- The two searches of a product are the same with the operands exchanged, and the same for all
scalars of every kind; only the order of what they leave, and of their factors, is exchanged. -/
theorem exists_multiply_eq (left right : Signature) :
    ∃ leftIdle rightIdle leftRest rightRest leftPairs rightPairs,
      Search UnitSymbol.tableFactor? left.numerators right.denominators leftIdle rightRest
          leftPairs ∧
        Search UnitSymbol.tableFactor? right.numerators left.denominators rightIdle leftRest
          rightPairs ∧
        ∀ (K : Type) [Mul K] [Div K] [Constants K] (value : K),
          multiply value left right =
              ⟨scaled (scaled value leftPairs) rightPairs,
                ⟨leftIdle ++ rightIdle, leftRest ++ rightRest⟩⟩ ∧
            multiply value right left =
              ⟨scaled (scaled value rightPairs) leftPairs,
                ⟨rightIdle ++ leftIdle, rightRest ++ leftRest⟩⟩ := by
  obtain ⟨leftIdle, rightRest, leftPairs, first, firstEq⟩ :=
    exists_cancel_eq right.denominators left.numerators
  obtain ⟨rightIdle, leftRest, rightPairs, second, secondEq⟩ :=
    exists_cancel_eq left.denominators right.numerators
  refine ⟨leftIdle, rightIdle, leftRest, rightRest, leftPairs, rightPairs, first, second, ?_⟩
  intro K _ _ _ value
  simp only [multiply_eq_combine, combine, firstEq, secondEq, and_self]

/-- The units of a product do not depend on the scalars. -/
theorem units_multiply_eq (value other : K) (left right : Signature) :
    (multiply value left right).units = (multiply other left right).units := by
  obtain ⟨_, _, _, _, _, _, _, _, product⟩ := exists_multiply_eq left right
  rw [(product K value).1, (product K other).1]

/-- A product consists of the units that two searches leave. -/
theorem multiply_searches (value : K) (left right : Signature) :
    ∃ leftIdle rightIdle leftRest rightRest leftPairs rightPairs,
      Search UnitSymbol.tableFactor? left.numerators right.denominators leftIdle rightRest
          leftPairs ∧
        Search UnitSymbol.tableFactor? right.numerators left.denominators rightIdle leftRest
          rightPairs ∧
        multiply value left right =
          ⟨scaled value (leftPairs ++ rightPairs),
            ⟨leftIdle ++ rightIdle, leftRest ++ rightRest⟩⟩ := by
  obtain ⟨leftIdle, rightIdle, leftRest, rightRest, leftPairs, rightPairs, first, second,
    product⟩ := exists_multiply_eq left right
  refine ⟨leftIdle, rightIdle, leftRest, rightRest, leftPairs, rightPairs, first, second, ?_⟩
  rw [(product K value).1, scaled_append]

end Signature

end StyleNumber
