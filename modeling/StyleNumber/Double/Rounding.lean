import StyleNumber.Double.Magnitude

/-! # Laws of rounding

A whole number is rounded to within half a unit (`nearestEven_two_mul_le`,
`two_mul_le_nearestEven`). Rounding to whole numbers, like rounding to the grid of
doubles, depends on the exact ratio alone (`roundToGrid_scale`), keeps its order
(`roundToGrid_le_roundToGrid`), and leaves a ratio that a double holds as it is
(`roundToGrid_of_representable`).
-/

namespace StyleNumber

/-- Rounding goes up by at most half a unit. -/
theorem nearestEven_two_mul_le (numerator denominator : Nat) :
    2 * (denominator * nearestEven numerator denominator) ≤ 2 * numerator + denominator := by
  have whole := Nat.div_add_mod numerator denominator
  have next := Nat.mul_succ denominator (numerator / denominator)
  simp only [nearestEven]
  split
  · omega
  · split
    · rw [Nat.add_one]
      omega
    · rcases Nat.mod_two_eq_zero_or_one (numerator / denominator) with even | odd
      · rw [even, Nat.add_zero]
        omega
      · rw [odd, Nat.add_one]
        omega

/-- Rounding goes down by at most half a unit. -/
theorem two_mul_le_nearestEven (numerator : Nat) {denominator : Nat} (positive : 0 < denominator) :
    2 * numerator ≤ 2 * (denominator * nearestEven numerator denominator) + denominator := by
  have whole := Nat.div_add_mod numerator denominator
  have next := Nat.mul_succ denominator (numerator / denominator)
  have small := Nat.mod_lt numerator positive
  simp only [nearestEven]
  split
  · omega
  · split
    · rw [Nat.add_one]
      omega
    · rcases Nat.mod_two_eq_zero_or_one (numerator / denominator) with even | odd
      · rw [even, Nat.add_zero]
        omega
      · rw [odd, Nat.add_one]
        omega

/-- Of two ratios with one denominator, the smaller one is not rounded higher. -/
theorem nearestEven_le_nearestEven {least most : Nat} (ordered : least ≤ most)
    (denominator : Nat) : nearestEven least denominator ≤ nearestEven most denominator := by
  have leastWhole := Nat.div_add_mod least denominator
  have mostWhole := Nat.div_add_mod most denominator
  have quotients : least / denominator ≤ most / denominator := Nat.div_le_div_right ordered
  have above := nearestEven_le least denominator
  have below := le_nearestEven most denominator
  by_cases same : least / denominator = most / denominator
  · rw [same] at leastWhole
    have rests : least % denominator ≤ most % denominator := by omega
    simp only [nearestEven, same]
    split <;> split <;> (try split) <;> (try split) <;> omega
  · omega

/-- Only the ratio matters for rounding. -/
theorem nearestEven_scale (numerator denominator : Nat) {factor : Nat} (positive : 0 < factor) :
    nearestEven (numerator * factor) (denominator * factor) =
      nearestEven numerator denominator := by
  simp only [nearestEven, Nat.mul_div_mul_right _ _ positive, Nat.mul_mod_mul_right,
    ← Nat.mul_assoc, Nat.mul_lt_mul_right positive]

/-- A whole ratio is rounded to itself. -/
theorem nearestEven_mul (number : Nat) {denominator : Nat} (positive : 0 < denominator) :
    nearestEven (number * denominator) denominator = number := by
  simp only [nearestEven, Nat.mul_mod_left, Nat.mul_zero, positive, ↓reduceIte,
    Nat.mul_div_left number positive]

/-- Larger counts have coarser grids. -/
theorem gridExponent_le_gridExponent {least most : Nat} (ordered : least ≤ most) :
    gridExponent least ≤ gridExponent most := by
  by_cases nonzero : least = 0
  · subst nonzero
    exact Nat.zero_le _
  · have bits : least.log2 < most.log2 + 1 := by
      refine lt_of_twoPow_lt ?_
      calc twoPow least.log2
          ≤ least := twoPow_log2_le nonzero
        _ ≤ most := ordered
        _ < twoPow (most.log2 + 1) := lt_twoPow_log2 most
    simp only [gridExponent]
    omega

/-- Only the ratio matters for rounding to the grid. -/
theorem roundToGrid_scale (numerator denominator : Nat) {factor : Nat} (positive : 0 < factor) :
    roundToGrid (numerator * factor) (denominator * factor) =
      roundToGrid numerator denominator := by
  simp only [roundToGrid, Nat.mul_div_mul_right _ _ positive]
  rw [Nat.mul_right_comm, nearestEven_scale _ _ positive]

/-- A rounded ratio has at most 53 bits on its grid. -/
theorem roundToGrid_le (numerator denominator : Nat) :
    roundToGrid numerator denominator ≤
      twoPow (53 + gridExponent (numerator / denominator)) := by
  simp only [roundToGrid]
  rw [twoPow_add]
  refine Nat.mul_le_mul_right _ ?_
  have above := nearestEven_le numerator
    (denominator * twoPow (gridExponent (numerator / denominator)))
  have bits : numerator / (denominator * twoPow (gridExponent (numerator / denominator))) <
      twoPow 53 := by
    rw [← Nat.div_div_eq_div_mul, Nat.div_lt_iff_lt_mul (twoPow_pos _)]
    exact lt_twoPow_gridExponent _
  omega

/-- On a coarse grid a rounded ratio has no fewer than 53 bits. -/
theorem le_roundToGrid {numerator denominator : Nat}
    (coarse : 0 < gridExponent (numerator / denominator)) :
    twoPow (52 + gridExponent (numerator / denominator)) ≤ roundToGrid numerator denominator := by
  simp only [roundToGrid]
  rw [twoPow_add]
  refine Nat.mul_le_mul_right _ (Nat.le_trans ?_ (le_nearestEven _ _))
  rw [← Nat.div_div_eq_div_mul, Nat.le_div_iff_mul_le (twoPow_pos _)]
  exact twoPow_gridExponent_le coarse

private theorem roundToGrid_le_of_le {least most : Nat} (ordered : least ≤ most)
    (denominator : Nat) : roundToGrid least denominator ≤ roundToGrid most denominator := by
  have exponents : gridExponent (least / denominator) ≤ gridExponent (most / denominator) :=
    gridExponent_le_gridExponent (Nat.div_le_div_right ordered)
  by_cases same : gridExponent (least / denominator) = gridExponent (most / denominator)
  · simp only [roundToGrid, same]
    exact Nat.mul_le_mul_right _ (nearestEven_le_nearestEven ordered _)
  · calc roundToGrid least denominator
        ≤ twoPow (53 + gridExponent (least / denominator)) := roundToGrid_le _ _
      _ ≤ twoPow (52 + gridExponent (most / denominator)) := twoPow_le_twoPow (by omega)
      _ ≤ roundToGrid most denominator := le_roundToGrid (by omega)

/-- Rounding to the grid keeps the order of ratios. -/
theorem roundToGrid_le_roundToGrid {least most leastDenominator mostDenominator : Nat}
    (leastPositive : 0 < leastDenominator) (mostPositive : 0 < mostDenominator)
    (ordered : least * mostDenominator ≤ most * leastDenominator) :
    roundToGrid least leastDenominator ≤ roundToGrid most mostDenominator := by
  rw [← roundToGrid_scale least leastDenominator mostPositive,
    ← roundToGrid_scale most mostDenominator leastPositive,
    Nat.mul_comm mostDenominator leastDenominator]
  exact roundToGrid_le_of_le ordered _

/-- A magnitude lies on its own grid. -/
theorem twoPow_gridExponent_dvd {quanta : Nat} (held : Representable quanta) :
    twoPow (gridExponent quanta) ∣ quanta := by
  by_cases coarse : 0 < gridExponent quanta
  · have large := twoPow_gridExponent_le coarse
    obtain ⟨significand, exponent, small, bounded, isProduct⟩ := held
    have scale : 52 + gridExponent quanta < 53 + exponent := by
      refine lt_of_twoPow_lt ?_
      rw [twoPow_add, twoPow_add]
      refine Nat.lt_of_le_of_lt large ?_
      rw [isProduct]
      exact Nat.mul_lt_mul_of_pos_right small (twoPow_pos exponent)
    obtain ⟨rest, sum⟩ := Nat.exists_eq_add_of_le (show gridExponent quanta ≤ exponent by omega)
    refine ⟨significand * twoPow rest, ?_⟩
    rw [Nat.mul_left_comm, ← twoPow_add, ← sum]
    exact isProduct
  · rw [Nat.eq_zero_of_not_pos coarse]
    exact Nat.one_dvd quanta

/-- A magnitude is rounded to itself. -/
theorem roundToGrid_of_representable {quanta : Nat} (held : Representable quanta) :
    roundToGrid quanta 1 = quanta := by
  obtain ⟨count, isProduct⟩ := twoPow_gridExponent_dvd held
  simp only [roundToGrid, Nat.div_one, Nat.one_mul]
  generalize twoPowIs : twoPow (gridExponent quanta) = spacing at isProduct ⊢
  have positive : 0 < spacing := twoPowIs ▸ twoPow_pos _
  rw [isProduct, Nat.mul_comm spacing count, nearestEven_mul count positive]

/-- Rounding a magnitude gives it back. -/
theorem Magnitude.nearest?_quanta (magnitude : Magnitude) :
    Magnitude.nearest? magnitude.quanta 1 = some magnitude := by
  have same := roundToGrid_of_representable magnitude.representable
  have bounded : magnitude.quanta < overflowQuanta := magnitude.representable.lt_overflowQuanta
  simp only [nearest?, same, bounded, ↓reduceDIte]

end StyleNumber
