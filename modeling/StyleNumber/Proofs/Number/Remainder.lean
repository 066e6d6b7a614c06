import StyleNumber.Proofs.Double.Nearest
import StyleNumber.Proofs.Number.Comparison

/-! # Remainders of numbers

The remainder of two comparable numbers is that of their scalars in one signature. It is never
negative and never larger than the divisor. For a dividend that is not negative it is the exact
Euclidean remainder (`IsRemainder`); for a negative one it is the double nearest to it, so that a
small negative dividend leaves the whole divisor (`Number.modulo_is_euclidean`).
-/

namespace StyleNumber

/-- Whether a value is what is left of a dividend, from zero up to the size of the divisor, after
the divisor is taken away or added a whole number of times. -/
def IsRemainder (dividend divisor remainder : ℚ) : Prop :=
  0 ≤ remainder ∧ remainder < |divisor| ∧ ∃ whole : ℤ, dividend - remainder = whole * divisor

private theorem isRemainder_emod (place : ℤ) {divisor : ℤ} (nonzero : divisor ≠ 0) :
    IsRemainder (place / quantaPerOne) (divisor / quantaPerOne)
      ((place % divisor : ℤ) / quantaPerOne) := by
  have positive := Double.quantaPerOne_cast_pos
  refine ⟨?_, ?_, place / divisor, ?_⟩
  · exact div_nonneg (Int.cast_nonneg (Int.emod_nonneg place nonzero)) positive.le
  · rw [abs_div, abs_of_pos positive, div_lt_div_iff_of_pos_right positive, ← Int.cast_abs,
      Int.cast_lt]
    exact Int.emod_lt_abs place nonzero
  · have whole : place - place % divisor = divisor * (place / divisor) := by
      have := Int.mul_ediv_add_emod place divisor
      omega
    rw [← sub_div, ← Int.cast_sub, whole, Int.cast_mul]
    ring

namespace Double

/-- The remainder of finite doubles, by the sign of the dividend. -/
theorem mod_is_euclidean {dividend divisor : Double} (dividendFinite : dividend.isFinite)
    (divisorFinite : divisor.isFinite) (nonzero : divisor.exact ≠ 0) :
    (dividend % divisor).isFinite ∧ 0 ≤ (dividend % divisor).exact ∧
      (dividend % divisor).exact ≤ |divisor.exact| ∧
      (0 ≤ dividend.exact →
        IsRemainder dividend.exact divisor.exact (dividend % divisor).exact) ∧
      ∃ remainder, IsRemainder dividend.exact divisor.exact remainder ∧
        (dividend % divisor).IsNearest remainder := by
  obtain ⟨negative, m, rfl⟩ := exists_eq_finite dividendFinite
  obtain ⟨sign, n, rfl⟩ := exists_eq_finite divisorFinite
  have positive := quantaPerOne_cast_pos
  have somePlace : signed sign n.quanta ≠ 0 := by
    intro nothing
    rw [exact, exactValue, nothing, Int.cast_zero, zero_div] at nonzero
    exact nonzero rfl
  have someQuanta : n.quanta ≠ 0 := by
    rwa [← Int.natAbs_ne_zero, natAbs_signed] at somePlace
  have bounded := isFinite_mod negative sign m someQuanta
  obtain ⟨least, most⟩ := nearestRank_emod_mem (signed negative m.quanta) someQuanta
  have value := exact_eq bounded (rank?_mod negative sign m someQuanta)
  have euclidean := isRemainder_emod (signed negative m.quanta) somePlace
  rw [← Int.emod_abs, abs_signed] at euclidean
  refine ⟨bounded, ?_, ?_, ?_, _, euclidean, isNearest_mod negative sign m someQuanta⟩
  · rw [value]
    exact div_nonneg (Int.cast_nonneg least) positive.le
  · rw [value, exact, exactValue, abs_div, abs_of_pos positive,
      div_le_div_iff_of_pos_right positive, ← Int.cast_abs, abs_signed, Int.cast_le]
    exact most
  · intro nonnegative
    have places : 0 ≤ signed negative m.quanta := by
      rwa [exact, exactValue, le_div_iff₀ positive, zero_mul, Int.cast_nonneg_iff] at nonnegative
    rw [exact_eq bounded (rank?_mod_of_nonneg sign someQuanta places)]
    exact euclidean

end Double

namespace Number

/-- **The remainder of comparable numbers is Euclidean.** Their scalars in one signature have a
remainder whenever they are finite and the divisor is not zero; it is finite, not negative and at
most the size of the divisor. If the dividend is not negative, it is the exact remainder, else it is
the double nearest to that. -/
theorem modulo_is_euclidean (left right : Number Double) (comparable : left.isComparableTo right) :
    ∃ dividend divisor, left.Meet right dividend divisor ∧
      (dividend.isFinite → divisor.isFinite → divisor.exact ≠ 0 →
        ∃ result, left.modulo right = .ok result ∧ result.value.isFinite ∧
          0 ≤ result.value.exact ∧ result.value.exact ≤ |divisor.exact| ∧
          (0 ≤ dividend.exact → IsRemainder dividend.exact divisor.exact result.value.exact) ∧
          (dividend.exact < 0 → ∃ remainder, IsRemainder dividend.exact divisor.exact remainder ∧
            result.value.IsNearest remainder)) := by
  obtain ⟨dividend, divisor, meet⟩ := exists_meet comparable
  refine ⟨dividend, divisor, meet, ?_⟩
  intro dividendFinite divisorFinite nonzero
  obtain ⟨bounded, least, most, exactly, nearest⟩ :=
    Double.mod_is_euclidean dividendFinite divisorFinite nonzero
  refine ⟨ofUnits (dividend % divisor) (if left.hasUnits then left.units else right.units), ?_,
    bounded, least, most, exactly, fun _ => nearest⟩
  rw [modulo, coercedOperation, meet_iff.mp meet, Except.map]

/-- A hundred pixels leave four modulo an inch, exactly; a tiny length below zero lacks next to
nothing to an inch, which is rounded to the whole inch. -/
theorem pixels_modulo_inch :
    let inch : Number Double := ofUnit 1 ⟨"in"⟩
    let many : Number Double := ofUnit 100 ⟨"px"⟩
    let little : Number Double := ofUnit (-1e-30) ⟨"px"⟩
    (many.isComparableTo inch ∧ many.modulo inch = .ok (ofUnit 4 ⟨"px"⟩) ∧
      IsRemainder (100 : Double).exact (96 : Double).exact (4 : Double).exact) ∧
    little.isComparableTo inch ∧ little.modulo inch = .ok (ofUnit 96 ⟨"px"⟩) ∧
      ∃ remainder, IsRemainder (-1e-30 : Double).exact (96 : Double).exact remainder ∧
        (96 : Double).IsNearest remainder := by
  intro inch many little
  have manyComparable : many.isComparableTo inch := by decide
  have littleComparable : little.isComparableTo inch := by decide
  constructor
  · obtain ⟨dividend, divisor, meet, remains⟩ := modulo_is_euclidean many inch manyComparable
    have scalars : many.coercedValues inch = .ok (100, 96) := by decide +kernel
    have left : many.modulo inch = .ok (ofUnit 4 ⟨"px"⟩) := by decide +kernel
    rw [meet_iff, scalars, Except.ok.injEq, Prod.mk.injEq] at meet
    obtain ⟨rfl, rfl⟩ := meet
    obtain ⟨result, success, _, _, _, exactly, _⟩ :=
      remains (by decide +kernel) (by decide +kernel) (by decide +kernel)
    rw [left, Except.ok.injEq] at success
    subst success
    exact ⟨manyComparable, left, exactly (by decide +kernel)⟩
  · obtain ⟨dividend, divisor, meet, remains⟩ := modulo_is_euclidean little inch littleComparable
    have scalars : little.coercedValues inch = .ok (-1e-30, 96) := by decide +kernel
    have left : little.modulo inch = .ok (ofUnit 96 ⟨"px"⟩) := by decide +kernel
    rw [meet_iff, scalars, Except.ok.injEq, Prod.mk.injEq] at meet
    obtain ⟨rfl, rfl⟩ := meet
    obtain ⟨result, success, _, _, _, _, nearest⟩ :=
      remains (by decide +kernel) (by decide +kernel) (by decide +kernel)
    rw [left, Except.ok.injEq] at success
    subst success
    exact ⟨littleComparable, left, nearest (by decide +kernel)⟩

end Number

end StyleNumber
