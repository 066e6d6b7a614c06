import StyleNumber.Proofs.Double.Exact

/-! # Correct rounding

Rounding a ratio to the grid of its size gives the nearest count that a double can hold
(`prefers_roundToGrid`). Counts on the grid are further away, as whole numbers are from the
nearest one, and a count off the grid lies below a power of two that is on the grid and below the
ratio. So the double that is made of a ratio is the nearest finite one to it, with an even
significand if another one is as near (`Double.isNearest_ofRatio`), and a sum of doubles is the
nearest one to the exact sum unless it overflows (`Double.isNearest_add`). A Euclidean remainder is
exact or such a sum, and never overflows (`Double.isNearest_mod`).

There is only one such double, up to the sign of a zero (`Double.IsNearest.exact_eq`): two that are
equally near have none between them, and of two neighbours one has an odd significand.
-/

namespace StyleNumber

/-- Whether the rounding of a value prefers one number to another: it is nearer, or as near and
even, unless both are the same. -/
def Prefers (value first second : ℚ) (even : Prop) : Prop :=
  |first - value| < |second - value| ∨
    |first - value| = |second - value| ∧ (first = second ∨ even)

namespace Prefers

variable {value first second : ℚ} {even : Prop}

/-- What is preferred is at most as far away. -/
theorem abs_le (prefers : Prefers value first second even) :
    |first - value| ≤ |second - value| := by
  rcases prefers with nearer | ⟨asNear, _⟩
  · exact nearer.le
  · exact asNear.le

/-- The condition on ties can be replaced by one that follows from it. -/
theorem imp {other : Prop} (implies : even → other) (prefers : Prefers value first second even) :
    Prefers value first second other :=
  prefers.imp_right fun ⟨asNear, tie⟩ => ⟨asNear, tie.imp_right implies⟩

/-- Numbers that are preferred to each other are the same, or as near and both even. -/
theorem eq_or_tie {other : Prop} (prefers : Prefers value first second even)
    (reverse : Prefers value second first other) :
    first = second ∨ |first - value| = |second - value| ∧ even ∧ other := by
  have asNear := le_antisymm prefers.abs_le reverse.abs_le
  rcases prefers with nearer | ⟨_, same | isEven⟩
  · exact (nearer.ne asNear).elim
  · exact .inl same
  · rcases reverse with nearer | ⟨_, same | otherEven⟩
    · exact (nearer.ne asNear.symm).elim
    · exact .inl same.symm
    · exact .inr ⟨asNear, isEven, otherEven⟩

/-- A positive scale keeps preferences. -/
theorem mul (prefers : Prefers value first second even) {scale : ℚ} (positive : 0 < scale) :
    Prefers (value * scale) (first * scale) (second * scale) even := by
  have distance (number : ℚ) : |number * scale - value * scale| = |number - value| * scale := by
    rw [← sub_mul, abs_mul, abs_of_pos positive]
  rw [Prefers, distance, distance]
  rcases prefers with nearer | ⟨asNear, tie⟩
  · exact .inl (mul_lt_mul_of_pos_right nearer positive)
  · exact .inr ⟨congrArg (· * scale) asNear, tie.imp_left (congrArg (· * scale))⟩

/-- Negation keeps preferences. -/
theorem neg (prefers : Prefers value first second even) :
    Prefers (-value) (-first) (-second) even := by
  have distance (number : ℚ) : |-number - -value| = |number - value| := by
    rw [← neg_sub', abs_neg]
  rw [Prefers, distance, distance]
  exact prefers.imp_right fun ⟨asNear, tie⟩ => ⟨asNear, tie.imp_left (congrArg (-·))⟩

end Prefers

/-- The nearest whole number is preferred to every other one. -/
theorem IsNearestEven.prefers {fraction : ℚ} {number : ℤ} (nearest : IsNearestEven fraction number)
    (other : ℤ) : Prefers fraction number other (Even number) := by
  by_cases same : number = other
  · exact .inr ⟨by rw [same], .inl (by rw [same])⟩
  · have apart : (1 : ℚ) ≤ |(number : ℚ) - other| := by
      exact_mod_cast Int.one_le_abs (sub_ne_zero.mpr same)
    have triangle := abs_sub_le (number : ℚ) fraction other
    have half := nearest.1
    have even := nearest.2
    rw [abs_sub_comm fraction] at half even
    rw [abs_sub_comm fraction other] at triangle
    rcases (show |(number : ℚ) - fraction| ≤ |(other : ℚ) - fraction| by linarith).lt_or_eq with
      nearer | asNear
    · exact .inl nearer
    · exact .inr ⟨asNear, .inr (even (by linarith))⟩

/-! ## The grid of a ratio -/

section

variable {numerator denominator : ℕ}

/-- The places of its grid that a rounded ratio counts. -/
def gridCount (numerator denominator : ℕ) : ℕ :=
  nearestEven numerator (denominator * twoPow (gridExponent (numerator / denominator)))

private theorem roundToGrid_eq (numerator denominator : ℕ) :
    roundToGrid numerator denominator =
      gridCount numerator denominator * twoPow (gridExponent (numerator / denominator)) := rfl

/-- A rounded ratio is preferred to every other place of its grid. -/
theorem prefers_roundToGrid_of_multiple (numerator : ℕ) (positive : 0 < denominator) (places : ℕ) :
    Prefers (numerator / denominator) (roundToGrid numerator denominator)
      (places * twoPow (gridExponent (numerator / denominator)) : ℕ)
      (Even (gridCount numerator denominator)) := by
  have spacing := twoPow_pos (gridExponent (numerator / denominator))
  have nearest := isNearestEven_nearestEven numerator (Nat.mul_pos positive spacing)
  have nonzero : (twoPow (gridExponent (numerator / denominator)) : ℚ) ≠ 0 := by
    exact_mod_cast spacing.ne'
  have prefers := (nearest.prefers places).mul (Nat.cast_pos.mpr spacing)
  rw [Nat.cast_mul, ← div_div, div_mul_cancel₀ _ nonzero, Int.cast_natCast, Int.cast_natCast,
    Int.even_coe_nat] at prefers
  rw [roundToGrid_eq, Nat.cast_mul, Nat.cast_mul]
  exact prefers

/-- **Rounding a ratio prefers its result to every held count.** -/
theorem prefers_roundToGrid (numerator : ℕ) (positive : 0 < denominator) {quanta : ℕ}
    (held : Representable quanta) :
    Prefers (numerator / denominator) (roundToGrid numerator denominator) quanta
      (Even (gridCount numerator denominator)) := by
  by_cases onGrid : twoPow (gridExponent (numerator / denominator)) ∣ quanta
  · obtain ⟨places, rfl⟩ := onGrid
    rw [Nat.mul_comm]
    exact prefers_roundToGrid_of_multiple numerator positive places
  · -- Between the count and the ratio lies the least power of two with the spacing of the grid.
    have coarse : 0 < gridExponent (numerator / denominator) := by
      by_contra fine
      rw [Nat.eq_zero_of_not_pos fine] at onGrid
      exact onGrid (Nat.one_dvd quanta)
    have below : quanta < twoPow 52 * twoPow (gridExponent (numerator / denominator)) := by
      by_contra large
      rw [← twoPow_add, not_lt] at large
      exact onGrid (held.twoPow_dvd large)
    have reached := twoPow_gridExponent_le coarse
    have nearest := (prefers_roundToGrid_of_multiple numerator positive (twoPow 52)).abs_le
    generalize twoPow 52 * twoPow (gridExponent (numerator / denominator)) = power at *
    have belowRatio : (power : ℚ) ≤ numerator / denominator :=
      (Nat.cast_le.mpr reached).trans Nat.cast_div_le
    have belowPower : (quanta : ℚ) < power := Nat.cast_lt.mpr below
    rw [abs_of_nonpos (show (power : ℚ) - numerator / denominator ≤ 0 by linarith)] at nearest
    left
    rw [abs_of_nonpos (show (quanta : ℚ) - numerator / denominator ≤ 0 by linarith)]
    linarith

/-- Rounding a ratio prefers its result to every place of a double, on both sides of zero. -/
theorem prefers_roundToGrid_of_natAbs (numerator : ℕ) (positive : 0 < denominator) {place : ℤ}
    (held : Representable place.natAbs) :
    Prefers (numerator / denominator) (roundToGrid numerator denominator) place
      (Even (gridCount numerator denominator)) := by
  rcases le_or_gt 0 place with above | below
  · obtain ⟨quanta, rfl⟩ := Int.eq_ofNat_of_zero_le above
    rw [Int.cast_natCast]
    exact prefers_roundToGrid numerator positive held
  · have nearest := (prefers_roundToGrid numerator positive
      (representable_of_lt (twoPow_pos 53))).abs_le
    have ratio : (0 : ℚ) ≤ numerator / denominator := by positivity
    have negative : (place : ℚ) < 0 := Int.cast_lt_zero.mpr below
    rw [Nat.cast_zero, zero_sub, abs_neg, abs_of_nonneg ratio] at nearest
    left
    rw [abs_of_neg (show (place : ℚ) - numerator / denominator < 0 by linarith)]
    linarith

/-- The exponent of the grid is the one whose grid holds a count in 53 bits and no fewer. -/
theorem gridExponent_eq {quanta exponent : ℕ} (below : quanta < twoPow (53 + exponent))
    (above : 0 < exponent → twoPow (52 + exponent) ≤ quanta) : gridExponent quanta = exponent := by
  apply Nat.le_antisymm (gridExponent_le below)
  by_cases coarse : 0 < exponent
  · have bound := lt_twoPow_gridExponent quanta
    rw [← twoPow_add] at bound
    have := lt_of_twoPow_lt ((above coarse).trans_lt bound)
    omega
  · omega

/-- Of two held counts with none between them, not both have an even significand. -/
theorem not_even_significand_of_adjacent {least next : ℕ} (leastHeld : Representable least)
    (nextHeld : Representable next) (less : least < next)
    (adjacent : ∀ quanta, Representable quanta → least < quanta → next ≤ quanta)
    (even : Even (least / twoPow (gridExponent least))) :
    ¬Even (next / twoPow (gridExponent next)) := by
  have bound := lt_twoPow_gridExponent least
  have coarse : 0 < gridExponent least → twoPow (52 + gridExponent least) ≤ least := by
    rw [twoPow_add]
    exact twoPow_gridExponent_le
  obtain ⟨count, isMultiple⟩ := twoPow_gridExponent_dvd leastHeld
  generalize gridExponent least = exponent at bound coarse isMultiple even
  have spacing := twoPow_pos exponent
  rw [isMultiple, Nat.mul_div_cancel_left _ spacing] at even
  -- The significand is even, so the following one has no more bits.
  have room : count + 1 < twoPow 53 := by
    rw [isMultiple, Nat.mul_comm] at bound
    have small := Nat.lt_of_mul_lt_mul_right bound
    have halves : twoPow 53 = twoPow 52 * 2 := twoPow_succ 52
    obtain ⟨half, rfl⟩ := even
    omega
  have following : Representable ((count + 1) * twoPow exponent) := by
    refine ⟨count + 1, exponent, room, ?_, rfl⟩
    by_contra large
    have scale := lt_of_twoPow_lt ((coarse (by omega)).trans_lt leastHeld.lt_overflowQuanta)
    omega
  have onGrid : twoPow exponent ∣ next := by
    by_cases fine : exponent = 0
    · rw [fine]
      exact Nat.one_dvd next
    · exact nextHeld.twoPow_dvd ((coarse (by omega)).trans less.le)
  have isNext : next = (count + 1) * twoPow exponent := by
    apply Nat.le_antisymm
    · apply adjacent _ following
      rw [isMultiple, Nat.mul_comm]
      exact Nat.mul_lt_mul_of_pos_right (Nat.lt_succ_self count) spacing
    · obtain ⟨places, rfl⟩ := onGrid
      rw [isMultiple] at less
      rw [Nat.mul_comm]
      exact Nat.mul_le_mul_left _ (Nat.lt_of_mul_lt_mul_left less)
  have sameExponent : gridExponent next = exponent := by
    apply gridExponent_eq
    · rw [isNext, twoPow_add]
      exact Nat.mul_lt_mul_of_pos_right room spacing
    · exact fun positive => (coarse positive).trans less.le
  rw [sameExponent, isNext, Nat.mul_div_cancel _ spacing, Nat.even_add_one, not_not]
  exact even

/-- What counts an even number of places on the grid has an even significand. -/
theorem even_significand (even : Even (gridCount numerator denominator)) :
    Even (roundToGrid numerator denominator /
      twoPow (gridExponent (roundToGrid numerator denominator))) := by
  have most := roundToGrid_le numerator denominator
  have least : 0 < gridExponent (numerator / denominator) → _ := le_roundToGrid
  generalize exponentIs : gridExponent (numerator / denominator) = exponent at most least
  by_cases carried : roundToGrid numerator denominator = twoPow (53 + exponent)
  · have exponentNext : gridExponent (roundToGrid numerator denominator) = exponent + 1 := by
      rw [carried]
      apply gridExponent_eq
      · rw [← Nat.add_assoc, twoPow_succ]
        exact lt_mul_of_one_lt_right (twoPow_pos _) one_lt_two
      · intro _
        exact twoPow_le_twoPow (by omega)
    have carriedOver : twoPow (53 + exponent) = twoPow 52 * twoPow (exponent + 1) := by
      rw [← twoPow_add]
      congr 1
      omega
    rw [exponentNext, carried, carriedOver, Nat.mul_div_cancel _ (twoPow_pos _)]
    decide
  · rw [gridExponent_eq (most.lt_of_ne carried) least, roundToGrid_eq, exponentIs,
      Nat.mul_div_cancel _ (twoPow_pos _)]
    exact even

end

namespace Double

/-! ## Nearest doubles -/

/-- Whether the significand of a finite double is even. -/
def HasEvenSignificand : Double → Prop
  | finite _ magnitude => Even (magnitude.quanta / twoPow (gridExponent magnitude.quanta))
  | _ => False

/-- Whether a double is the nearest finite one to a value, and has an even significand if another
one is as near. -/
def IsNearest (number : Double) (value : ℚ) : Prop :=
  number.isFinite ∧ ∀ other : Double, other.isFinite →
    Prefers value number.exact other.exact number.HasEvenSignificand

private theorem isNearest_exact {number : Double} (bounded : number.isFinite) :
    number.IsNearest number.exact := by
  refine ⟨bounded, fun other _ => ?_⟩
  rw [Prefers, sub_self, abs_zero]
  rcases (abs_nonneg (other.exact - number.exact)).lt_or_eq with apart | same
  · exact .inl apart
  · exact .inr ⟨same, .inl (sub_eq_zero.mp (abs_eq_zero.mp same.symm)).symm⟩

private theorem exact_lt_exact_iff {left right : Bool} {m n : Magnitude} :
    (finite left m).exact < (finite right n).exact ↔
      signed left m.quanta < signed right n.quanta := by
  rw [exact, exact, exactValue, exactValue, div_lt_div_iff_of_pos_right quantaPerOne_cast_pos,
    Int.cast_lt]

/-- Of two doubles with none between, not both have an even significand. -/
theorem not_even_of_adjacent {low high : Double} (lowFinite : low.isFinite)
    (highFinite : high.isFinite) (less : low.exact < high.exact)
    (adjacent : ∀ number : Double, number.isFinite → low.exact < number.exact →
      high.exact ≤ number.exact) (even : low.HasEvenSignificand) : ¬high.HasEvenSignificand := by
  obtain ⟨lowNegative, m, rfl⟩ := exists_eq_finite lowFinite
  obtain ⟨highNegative, n, rfl⟩ := exists_eq_finite highFinite
  have places (negative : Bool) (magnitude : Magnitude)
      (above : signed lowNegative m.quanta < signed negative magnitude.quanta) :
      signed highNegative n.quanta ≤ signed negative magnitude.quanta := by
    have reached := adjacent (finite negative magnitude) rfl (exact_lt_exact_iff.mpr above)
    rwa [← not_lt, exact_lt_exact_iff, not_lt] at reached
  rw [exact_lt_exact_iff] at less
  have lowSize := abs_signed lowNegative m.quanta
  have highSize := abs_signed highNegative n.quanta
  rcases le_or_gt 0 (signed lowNegative m.quanta) with above | below
  · rw [abs_of_nonneg above] at lowSize
    rw [abs_of_nonneg (above.trans less.le)] at highSize
    rw [lowSize, highSize] at less
    refine not_even_significand_of_adjacent m.representable n.representable (by omega) ?_ even
    intro quanta held more
    have reached := places false ⟨quanta, held⟩
    rw [lowSize, highSize, signed_false] at reached
    exact_mod_cast reached (by exact_mod_cast more)
  · -- Zero is not between, so both doubles are reflected.
    have atMost : signed highNegative n.quanta ≤ 0 := by
      have reached := places false Magnitude.zero
      rw [signed_false, Magnitude.quanta_zero] at reached
      exact reached below
    rw [abs_of_neg below] at lowSize
    rw [abs_of_nonpos atMost] at highSize
    intro highEven
    refine not_even_significand_of_adjacent n.representable m.representable (by omega) ?_ highEven
      even
    intro quanta held more
    have reached : signed lowNegative m.quanta < -quanta → signed highNegative n.quanta ≤ -quanta :=
      places true ⟨quanta, held⟩
    omega

/-- **The nearest double is unique** up to the sign of a zero. -/
theorem IsNearest.exact_eq {first second : Double} {value : ℚ} (nearest : first.IsNearest value)
    (other : second.IsNearest value) : first.exact = second.exact := by
  have not_less {low high : Double} (lowNearest : low.IsNearest value)
      (highNearest : high.IsNearest value) : ¬low.exact < high.exact := by
    intro less
    rcases (lowNearest.2 high highNearest.1).eq_or_tie (highNearest.2 low lowNearest.1) with
      same | ⟨asNear, lowEven, highEven⟩
    · exact less.ne same
    · refine not_even_of_adjacent lowNearest.1 highNearest.1 less ?_ lowEven highEven
      intro number bounded above
      by_contra below
      have nearer := (lowNearest.2 number bounded).abs_le
      have size := neg_le_abs (low.exact - value)
      rcases abs_eq_abs.mp asNear with same | opposite
      · linarith
      · have between : |number.exact - value| < high.exact - value :=
          abs_lt.mpr ⟨by linarith, by linarith⟩
        linarith
  exact le_antisymm (not_lt.mp (not_less other nearest)) (not_lt.mp (not_less nearest other))

/-- **A double made of a ratio is nearest to it** unless it overflows. -/
theorem isNearest_ofRatio (negative : Bool) {numerator denominator : ℕ} (positive : 0 < denominator)
    (bounded : (ofRatio negative numerator denominator).isFinite) :
    (ofRatio negative numerator denominator).IsNearest
      (signed negative numerator / denominator / quantaPerOne) := by
  have small : roundToGrid numerator denominator < overflowQuanta := by
    by_contra overflows
    rw [ofRatio_of_le negative (not_lt.mp overflows)] at bounded
    cases bounded
  rw [ofRatio_of_lt negative small]
  refine ⟨rfl, fun other otherFinite => ?_⟩
  obtain ⟨otherNegative, magnitude, rfl⟩ := exists_eq_finite otherFinite
  have scale : (0 : ℚ) < (quantaPerOne : ℚ)⁻¹ := inv_pos.mpr quantaPerOne_cast_pos
  have held (sign : Bool) : Representable (signed sign magnitude.quanta).natAbs := by
    rw [natAbs_signed]
    exact magnitude.representable
  have even : Even (gridCount numerator denominator) →
      (finite negative ⟨_, representable_roundToGrid small⟩).HasEvenSignificand := even_significand
  refine Prefers.imp even ?_
  simp only [exact, exactValue, div_eq_mul_inv _ (quantaPerOne : ℚ)]
  cases negative with
  | false =>
    exact (prefers_roundToGrid_of_natAbs numerator positive (held otherNegative)).mul scale
  | true =>
    have opposite := (prefers_roundToGrid_of_natAbs numerator positive
      (held !otherNegative)).neg
    rw [signed_not, Int.cast_neg, neg_neg, ← neg_div] at opposite
    simp only [signed, ↓reduceIte, Int.cast_neg, Int.cast_natCast]
    exact opposite.mul scale

/-- **A sum of doubles is nearest to the exact sum** unless it overflows. -/
theorem isNearest_add {left right : Double} (leftFinite : left.isFinite)
    (rightFinite : right.isFinite) (bounded : (left + right).isFinite) :
    (left + right).IsNearest (left.exact + right.exact) := by
  obtain ⟨leftNegative, m, rfl⟩ := exists_eq_finite leftFinite
  obtain ⟨rightNegative, n, rfl⟩ := exists_eq_finite rightFinite
  have value : (finite leftNegative m).exact + (finite rightNegative n).exact =
      (signed leftNegative m.quanta + signed rightNegative n.quanta : ℤ) / quantaPerOne := by
    rw [exact, exact, exactValue, exactValue, ← add_div, Int.cast_add]
  rw [value]
  by_cases nothing : signed leftNegative m.quanta + signed rightNegative n.quanta = 0
  · have ranked := rank?_add leftNegative rightNegative m n
    rw [nothing, nearestRank_zero] at ranked
    rw [nothing, ← exact_eq bounded ranked]
    exact isNearest_exact bounded
  · rw [add_finite, if_neg nothing] at bounded ⊢
    have nearest := isNearest_ofRatio _ one_pos bounded
    rwa [signed_natAbs, Nat.cast_one, div_one] at nearest

/-- **The Euclidean remainder is nearest to the exact one**, which is that of the quanta. -/
theorem isNearest_mod (negative sign : Bool) (m : Magnitude) {n : Magnitude}
    (nonzero : n.quanta ≠ 0) :
    (finite negative m % finite sign n).IsNearest
      ((signed negative m.quanta % n.quanta : ℤ) / quantaPerOne) := by
  have bounded := isFinite_mod negative sign m nonzero
  rw [signed_emod]
  by_cases lifted : negative ∧ m.quanta % n.quanta ≠ 0
  · rw [mod_finite negative sign m nonzero, if_pos lifted] at bounded ⊢
    have nearest := isNearest_add (by rfl) (by rfl) bounded
    have sum : (finite negative (m.mod n)).exact + (finite false n).exact =
        (n.quanta - ↑(m.quanta % n.quanta) : ℤ) / quantaPerOne := by
      rw [exact, exact, exactValue, exactValue, ← add_div, lifted.1, Magnitude.quanta_mod,
        signed_false, signed, if_pos rfl]
      push_cast
      ring
    rw [if_pos lifted, ← sum]
    exact nearest
  · have ranked := rank?_mod_finite negative sign m nonzero
    rw [if_neg lifted] at ranked ⊢
    rw [← exact_eq bounded ranked]
    exact isNearest_exact bounded

end Double

end StyleNumber
