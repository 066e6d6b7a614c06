import StyleNumber.Proofs.Decimal.Canonical
import StyleNumber.Proofs.Double.NearWhole

/-! # How doubles are written

A finite double is written as the decimal of ten places nearest to its exact value, a tie
going to the even one, and canonically (`Double.text_canonical`). Doubles that count as
whole are rounded first and written without places, which gives the same text
(`Double.NearWhole.text_eq`), because they are nearer to a whole number than half a unit
of the tenth place.
-/

namespace StyleNumber

/-! ## Nearest whole numbers -/

/-- Whether a whole number is nearest to a fraction, and even if there are two. -/
def IsNearestEven (fraction : ℚ) (number : ℤ) : Prop :=
  |fraction - number| ≤ 1 / 2 ∧ (|fraction - number| = 1 / 2 → Even number)

private theorem IsNearestEven.eq {fraction : ℚ} {first second : ℤ}
    (isFirst : IsNearestEven fraction first) (isSecond : IsNearestEven fraction second) :
    first = second := by
  by_contra different
  have apart : (1 : ℚ) ≤ |(first : ℚ) - second| := by
    exact_mod_cast Int.one_le_abs (sub_ne_zero.mpr different)
  have triangle := abs_sub_le (first : ℚ) fraction second
  rw [abs_sub_comm (first : ℚ) fraction] at triangle
  have firstEven := isFirst.2 (by linarith [isFirst.1, isSecond.1])
  have secondEven := isSecond.2 (by linarith [isFirst.1, isSecond.1])
  have neighbours : |first - second| ≤ 1 := by
    have bound : |(first : ℚ) - second| ≤ 1 := by linarith [isFirst.1, isSecond.1]
    exact_mod_cast bound
  rw [abs_le] at neighbours
  rw [Int.even_iff] at firstEven secondEven
  omega

/-- Rounding a tie gives an even number. -/
theorem even_nearestEven_of_tie (numerator : ℕ) {denominator : ℕ} (positive : 0 < denominator)
    (tie : 2 * numerator = 2 * (denominator * nearestEven numerator denominator) + denominator ∨
      2 * numerator + denominator = 2 * (denominator * nearestEven numerator denominator)) :
    Even (nearestEven numerator denominator) := by
  have whole := Nat.div_add_mod numerator denominator
  have next := Nat.mul_succ denominator (numerator / denominator)
  have small := Nat.mod_lt numerator positive
  simp only [nearestEven] at tie ⊢
  split
  · next low =>
    simp only [low, ↓reduceIte] at tie
    omega
  · next high =>
    simp only [high, ↓reduceIte] at tie
    split
    · next higher =>
      simp only [higher, ↓reduceIte, Nat.add_one, next] at tie
      omega
    · rw [Nat.even_iff]
      omega

/-- Rounding a quotient of natural numbers gives the nearest number, the even one of two. -/
theorem isNearestEven_nearestEven (numerator : ℕ) {denominator : ℕ} (positive : 0 < denominator) :
    IsNearestEven (numerator / denominator) (nearestEven numerator denominator) := by
  have above := nearestEven_two_mul_le numerator denominator
  have below := two_mul_le_nearestEven numerator positive
  have tie := even_nearestEven_of_tie numerator positive
  generalize nearestEven numerator denominator = number at above below tie ⊢
  have scale : (0 : ℚ) < denominator := by exact_mod_cast positive
  have distance : |(numerator : ℚ) / denominator - (number : ℤ)| =
      |(numerator - denominator * number : ℤ)| / denominator := by
    have fraction : (numerator : ℚ) / denominator - (number : ℤ) =
        (numerator - denominator * number : ℤ) / denominator := by
      push_cast
      field_simp
    rw [fraction, abs_div, abs_of_pos scale, Int.cast_abs]
  rw [IsNearestEven, distance, div_le_iff₀ scale, div_eq_iff scale.ne']
  zify at above below tie
  generalize productIs : (denominator * number : ℤ) = product at above below tie ⊢
  constructor
  · have bound : 2 * |(numerator - product : ℤ)| ≤ denominator := by
      rcases abs_cases (numerator - product : ℤ) with ⟨size, _⟩ | ⟨size, _⟩ <;> omega
    have cast : (2 : ℚ) * ↑|(numerator - product : ℤ)| ≤ denominator := by exact_mod_cast bound
    linarith
  · intro isTie
    have size : 2 * |(numerator - product : ℤ)| = denominator := by
      have cast : (2 : ℚ) * ↑|(numerator - product : ℤ)| = denominator := by linarith
      exact_mod_cast cast
    rw [Int.even_coe_nat]
    apply tie
    rcases abs_cases (numerator - product : ℤ) with ⟨sign, _⟩ | ⟨sign, _⟩
    · left
      omega
    · right
      omega

/-- The opposite of the nearest number is nearest to the opposite. -/
theorem IsNearestEven.neg {fraction : ℚ} {number : ℤ} (nearest : IsNearestEven fraction number) :
    IsNearestEven (-fraction) (-number) := by
  have distance : |-fraction - ((-number : ℤ) : ℚ)| = |fraction - number| := by
    rw [← abs_neg]
    push_cast
    congr 1
    ring
  rw [IsNearestEven, distance, even_neg]
  exact nearest

/-- What lies within half a unit of a whole number is rounded to it. -/
theorem nearestEven_eq_of_lt {numerator denominator number : ℕ}
    (below : 2 * (denominator * number) < 2 * numerator + denominator)
    (above : 2 * numerator < 2 * (denominator * number) + denominator) :
    nearestEven numerator denominator = number := by
  have positive : 0 < denominator := by omega
  have upper := nearestEven_two_mul_le numerator denominator
  have lower := two_mul_le_nearestEven numerator positive
  apply Nat.le_antisymm
  · by_contra larger
    have next := Nat.mul_le_mul_left denominator (Nat.lt_of_not_le larger)
    rw [Nat.mul_succ] at next
    omega
  · by_contra smaller
    have next := Nat.mul_le_mul_left denominator (Nat.lt_of_not_le smaller)
    rw [Nat.mul_succ] at next
    omega

/-- What lies near a whole number of ones is rounded to it on every scale that keeps it within
half a unit. -/
theorem nearestEven_mul_of_near {quanta one near scale : ℕ} (onePositive : 0 < one)
    (positive : 0 < scale) (fine : 2 * (near * scale) ≤ one)
    (isNear : quanta % one < near ∨ one < quanta % one + near) :
    nearestEven (quanta * scale) one =
      (if 2 * (quanta % one) < one then quanta / one else quanta / one + 1) * scale := by
  have small := Nat.mod_lt quanta onePositive
  have split : quanta * scale = one * (quanta / one * scale) + quanta % one * scale := by
    rw [← Nat.mul_assoc, ← Nat.add_mul, Nat.div_add_mod]
  have nearScaled : near ≤ near * scale := Nat.le_mul_of_pos_right near positive
  generalize quanta / one = ones at split ⊢
  generalize quanta % one = rest at isNear small split ⊢
  rw [split]
  rcases isNear with low | high
  · rw [if_pos (by omega)]
    have scaled := Nat.mul_lt_mul_of_pos_right low positive
    exact nearestEven_eq_of_lt (by omega) (by omega)
  · rw [if_neg (by omega)]
    have scaled := Nat.mul_lt_mul_of_pos_right high positive
    have missing := Nat.mul_lt_mul_of_pos_right small positive
    rw [Nat.add_mul] at scaled
    rw [Nat.add_mul, Nat.one_mul]
    have next : one * (ones * scale + scale) = one * (ones * scale) + one * scale :=
      Nat.mul_add _ _ _
    exact nearestEven_eq_of_lt (by omega) (by omega)

/-! ## Texts -/

namespace Decimal

/-- Zeros behind the point are not written. -/
theorem text_mul_tenPow (negative : Bool) (number places : ℕ) :
    (Decimal.mk negative (number * tenPow places) places).text =
      (Decimal.mk negative number 0).text := by
  have nothing : number * tenPow places = 0 ↔ number = 0 := by
    rw [Nat.mul_eq_zero, or_iff_left (tenPow_pos places).ne']
  have one : tenPow 0 = 1 := rfl
  simp only [text, characters, ne_eq, nothing, Nat.mul_div_cancel _ (tenPow_pos places),
    Nat.mul_mod_left, fractionDigits_zero, one, Nat.div_one, Nat.mod_one]

/-- Nothing but zero is written as zero. -/
theorem text_eq_zero_iff (negative : Bool) (number : ℕ) :
    (Decimal.mk negative number 0).text = "0" ↔ number = 0 := by
  constructor
  · intro isZero
    have one : tenPow 0 = 1 := rfl
    have characters := characters_eq ⟨negative, number, 0⟩
    rw [text, ← String.toList_inj, String.toList_ofList, characters, one, Nat.div_one, Nat.mod_one,
      fractionDigits_zero, if_pos rfl, List.append_nil] at isZero
    split at isZero
    · cases isZero
    · rw [List.nil_append] at isZero
      rw [← Nat.ofDigitChars_ten_toDigits (n := number), isZero]
      rfl
  · rintro rfl
    cases negative <;> rfl

end Decimal

namespace Double

/-- The exact value of a finite double. -/
def exactValue (negative : Bool) (magnitude : Magnitude) : ℚ :=
  signed negative magnitude.quanta / quantaPerOne

private theorem count_toDecimal (negative : Bool) (magnitude : Magnitude) (places : ℕ) :
    (magnitude.toDecimal negative places).count =
      nearestEven (magnitude.quanta * tenPow places) quantaPerOne := by
  simp only [Magnitude.toDecimal]

/-- The decimal of a double counts the nearest number of units of its last place. -/
theorem isNearestEven_toDecimal (negative : Bool) (magnitude : Magnitude) (places : ℕ) :
    IsNearestEven (exactValue negative magnitude * 10 ^ places)
      (signed negative (magnitude.toDecimal negative places).count) := by
  have nearest := isNearestEven_nearestEven (magnitude.quanta * tenPow places) quantaPerOne_pos
  have value : exactValue false magnitude * 10 ^ places =
      (magnitude.quanta * tenPow places : ℕ) / quantaPerOne := by
    rw [exactValue, signed_false, tenPow_eq]
    push_cast
    ring
  rw [count_toDecimal]
  cases negative with
  | false => rwa [value, signed_false]
  | true =>
    have opposite : exactValue true magnitude = -exactValue false magnitude := by
      rw [exactValue, exactValue, ← Bool.not_false, signed_not, Int.cast_neg, neg_div]
    rw [opposite, neg_mul, value, ← Bool.not_false, signed_not, signed_false]
    exact nearest.neg

private theorem nearQuanta_fine : 2 * (nearQuanta * tenPow precision) ≤ quantaPerOne := by
  have bits : 2 * tenPow precision ≤ twoPow 36 := by decide
  calc 2 * (nearQuanta * tenPow precision)
      = 2 * tenPow precision * nearQuanta := by ring
    _ ≤ twoPow 36 * nearQuanta := Nat.mul_le_mul_right _ bits
    _ = quantaPerOne := quantaPerOne_eq_near.symm

/-- A magnitude rounded to a whole number needs no decimal places. -/
theorem toDecimal_round (negative : Bool) (magnitude : Magnitude) :
    magnitude.round.toDecimal negative 0 = ⟨negative, magnitude.onesNearest, 0⟩ := by
  have one : tenPow 0 = 1 := rfl
  rw [Magnitude.toDecimal, Magnitude.round, one, Nat.mul_one,
    nearestEven_mul _ quantaPerOne_pos]

/-- **Both ways to write a double agree** where it counts as whole: rounded first and without
places, or with ten places. -/
theorem NearWhole.text_eq {negative : Bool} {magnitude : Magnitude}
    (near : (finite negative magnitude).NearWhole) :
    (magnitude.round.toDecimal negative 0).text =
      (magnitude.toDecimal negative precision).text := by
  have precise : magnitude.toDecimal negative precision =
      ⟨negative, magnitude.onesNearest * tenPow precision, precision⟩ := by
    rw [Magnitude.toDecimal, nearestEven_mul_of_near quantaPerOne_pos (tenPow_pos precision)
      nearQuanta_fine near.near, Magnitude.onesNearest, Magnitude.onesBelow]
  rw [toDecimal_round, precise, Decimal.text_mul_tenPow]

/-- Both ways of writing a finite double give its decimal to the full precision, with no
trailing zeros: what is close to a whole number has only zeros behind the point. -/
theorem text_finite (negative : Bool) (magnitude : Magnitude) :
    (finite negative magnitude).text = (magnitude.toDecimal negative precision).text := by
  rw [Double.text]
  split
  · next near => exact near.text_eq
  · rfl

/-- **Doubles are written canonically and rounded correctly.** A finite double is written as
the canonical text of the count of `1e-10` that is nearest to its exact value, the even one
if there are two, and this count and its text are determined by that. Where the double counts
as whole and is rounded first, the text is the one that ten places give. -/
theorem text_canonical (negative : Bool) (magnitude : Magnitude) :
    ∃ count : ℤ,
      (∀ other, IsNearestEven (exactValue negative magnitude * 10 ^ 10) other ↔ other = count) ∧
      (∀ characters, Decimal.IsCanonicalText count 10 characters ↔
        (finite negative magnitude).text = String.ofList characters) ∧
      ((finite negative magnitude).NearWhole →
        (magnitude.round.toDecimal negative 0).text =
          (magnitude.toDecimal negative precision).text) := by
  have nearest := isNearestEven_toDecimal negative magnitude precision
  refine ⟨signed negative (magnitude.toDecimal negative precision).count, ?_, ?_,
    NearWhole.text_eq⟩
  · intro other
    constructor
    · intro isNearest
      exact isNearest.eq nearest
    · rintro rfl
      exact nearest
  · intro characters
    rw [text_finite, Decimal.text, String.ofList_inj, eq_comm]
    exact (magnitude.toDecimal negative precision).isCanonicalText_iff

/-- `2 ^ -40` short of three, with a minus sign, counts as whole and is written as three. -/
theorem almost_minus_three_text :
    let almostThree : Magnitude :=
      ⟨(3 * twoPow 40 - 1) * twoPow 1034, 3 * twoPow 40 - 1, 1034, by decide, by decide, rfl⟩
    (finite true almostThree).NearWhole ∧
      (almostThree.round.toDecimal true 0).text = (almostThree.toDecimal true precision).text ∧
      (finite true almostThree).text = "-3" := by
  intro almostThree
  have near : (finite true almostThree).NearWhole := by decide +kernel
  obtain ⟨_, _, _, sameText⟩ := text_canonical true almostThree
  exact ⟨near, sameText near, by decide +kernel⟩

end Double

end StyleNumber
