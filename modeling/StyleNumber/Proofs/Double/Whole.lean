import StyleNumber.Proofs.Double.Exact

/-! # Which doubles count as whole

Whether a double counts as whole is decided on its remainder modulo one. For a double without a
minus sign that remainder is exact, so the double counts as whole exactly if it is closer to a
whole number than the tolerance. For a negative double the remainder is a rounded sum with one.
Rounding moves the end of the tolerance towards zero, where doubles are finer than the sum: from
`180143 / 2 ^ 54` below zero on, a double does not count as whole although it is still close to
zero (`Double.Overlooked`). Away from zero doubles are too coarse to lie in that gap, so these
are the only doubles which are close to a whole number and do not count as whole
(`Double.nearWhole_iff`).
-/

namespace StyleNumber

namespace Double

/-- A double so little below zero that it is close to zero, but too much for its remainder
modulo one, which is rounded, to be close to one. -/
def Overlooked (number : Double) : Prop :=
  -tolerance.exact < number.exact ∧ number.exact ≤ -(180143 / 2 ^ 54)

instance (number : Double) : Decidable number.Overlooked :=
  inferInstanceAs (Decidable (_ ∧ _))

/-- The end of the gap in which doubles are overlooked, in quanta. -/
def noticedQuanta : ℕ :=
  180143 * twoPow 1020

/-! ## The remainder modulo one -/

/-- The place of the remainder of a double modulo one. -/
def modOneRank (negative : Bool) (rest : ℕ) : ℤ :=
  if negative ∧ rest ≠ 0 then nearestRank (quantaPerOne - rest) 1 else rest

private theorem nearestRank_one : nearestRank quantaPerOne 1 = quantaPerOne :=
  nearestRank_of_representable Magnitude.representable_quantaPerOne

/-- The place of a remainder modulo one, by the sign and by what the magnitude has above its
whole part. -/
theorem rank?_mod_one_eq_modOneRank (negative : Bool) (magnitude : Magnitude) :
    (finite negative magnitude % 1).rank? =
      some (modOneRank negative (magnitude.quanta % quantaPerOne)) :=
  rank?_mod_one negative magnitude

/-- A double counts as whole if the place of its remainder is within the tolerance of zero or
of one. -/
theorem nearWhole_iff_modOneRank {negative : Bool} {magnitude : Magnitude} :
    (finite negative magnitude).NearWhole ↔
      |modOneRank negative (magnitude.quanta % quantaPerOne)| < toleranceQuanta ∨
        |modOneRank negative (magnitude.quanta % quantaPerOne) - quantaPerOne| <
          toleranceQuanta := by
  have ranked := rank?_mod_one_eq_modOneRank negative magnitude
  have bounded := isFinite_mod_one negative magnitude
  have zeroRank : (0 : Double).rank? = some ((0 : ℤ) * quantaPerOne) := by rw [rank?_zero, zero_mul]
  have oneRank : (1 : Double).rank? = some ((1 : ℤ) * quantaPerOne) := by rw [rank?_one, one_mul]
  have zeroFinite : (0 : Double).isFinite := by rw [zero_eq, isFinite]
  have oneFinite : (1 : Double).isFinite := by rw [one_eq, isFinite]
  have numberFinite : (finite negative magnitude).isFinite := rfl
  rw [NearWhole, close_iff_of_rank? bounded ranked zeroFinite zeroRank,
    close_iff_of_rank? bounded ranked oneFinite oneRank, zero_mul, sub_zero, one_mul]
  simp only [numberFinite, true_and]

/-! ## The end of the tolerance below zero -/

private theorem nearestRank_noticed :
    nearestRank (quantaPerOne - noticedQuanta) 1 = quantaPerOne - 90072 * twoPow 1021 := by
  decide +kernel

private theorem nearestRank_before_noticed :
    nearestRank (quantaPerOne - noticedQuanta + 1) 1 = quantaPerOne - 90071 * twoPow 1021 := by
  decide +kernel

/-- The tolerance lies between two neighbours on the grid of the doubles just below one. -/
theorem toleranceQuanta_mem :
    90071 * twoPow 1021 < toleranceQuanta ∧ toleranceQuanta ≤ 90072 * twoPow 1021 := by
  have grid : twoPow 1021 = twoPow 36 * twoPow 985 := twoPow_add 36 985
  rw [toleranceQuanta_eq, grid, ← Nat.mul_assoc, ← Nat.mul_assoc]
  exact ⟨Nat.mul_lt_mul_of_pos_right (by decide) (twoPow_pos 985),
    Nat.mul_le_mul_right _ (by decide)⟩

/-- The gap ends below zero. -/
theorem noticedQuanta_pos : 0 < noticedQuanta :=
  Nat.mul_pos (by decide) (twoPow_pos 1020)

/-- The gap ends within the tolerance of zero. -/
theorem noticedQuanta_lt : noticedQuanta < toleranceQuanta := by
  have grid : twoPow 1020 = twoPow 35 * twoPow 985 := twoPow_add 35 985
  rw [toleranceQuanta_eq, noticedQuanta, grid, ← Nat.mul_assoc]
  exact Nat.mul_lt_mul_of_pos_right (by decide) (twoPow_pos 985)

/-- The end of the gap, counted in ones. -/
theorem noticed_eq : (180143 / 2 ^ 54 : ℚ) = noticedQuanta / quantaPerOne := by
  have ones : quantaPerOne = 2 ^ 54 * twoPow 1020 := by
    have bits : 2 ^ 54 = twoPow 54 := rfl
    rw [quantaPerOne, bits, ← twoPow_add]
  have positive : (twoPow 1020 : ℚ) ≠ 0 := by exact_mod_cast (twoPow_pos 1020).ne'
  rw [noticedQuanta, ones]
  push_cast
  rw [mul_div_mul_right _ _ positive]
  norm_num

private theorem two_toleranceQuanta_lt : 2 * toleranceQuanta < quantaPerOne := by
  have tolerated := toleranceQuanta_le
  have positive := toleranceQuanta_pos
  have coarse : 3 * nearQuanta ≤ quantaPerOne := by
    rw [quantaPerOne_eq_near]
    exact Nat.mul_le_mul_right _ (by decide)
  omega

/-- Rounded, the sum of a negative remainder and one is close to one just for remainders before
the gap. -/
theorem abs_nearestRank_sub_one_lt_iff {rest : ℕ} :
    |nearestRank (quantaPerOne - rest) 1 - quantaPerOne| < toleranceQuanta ↔
      rest < noticedQuanta := by
  obtain ⟨within, beyond⟩ := toleranceQuanta_mem
  have upper := nearestRank_le_nearestRank (show (quantaPerOne - rest : ℤ) ≤ quantaPerOne by omega)
    one_pos
  rw [nearestRank_one] at upper
  rw [abs_sub_comm, abs_of_nonneg (by omega)]
  constructor
  · intro close
    by_contra noticed
    have rounded := nearestRank_le_nearestRank
      (show (quantaPerOne - rest : ℤ) ≤ quantaPerOne - noticedQuanta by omega) one_pos
    rw [nearestRank_noticed] at rounded
    omega
  · intro noticed
    have rounded := nearestRank_le_nearestRank
      (show (quantaPerOne - noticedQuanta + 1 : ℤ) ≤ quantaPerOne - rest by omega) one_pos
    rw [nearestRank_before_noticed] at rounded
    omega

/-- A negative remainder close to minus one is lifted exactly. -/
theorem abs_nearestRank_lt_iff (magnitude : Magnitude) :
    |nearestRank (quantaPerOne - ↑(magnitude.quanta % quantaPerOne)) 1| < toleranceQuanta ↔
      quantaPerOne < magnitude.quanta % quantaPerOne + toleranceQuanta := by
  have small := Nat.mod_lt magnitude.quanta quantaPerOne_pos
  have whole := Nat.div_add_mod magnitude.quanta quantaPerOne
  constructor
  · intro close
    have difference := abs_lt_of_abs_nearestRank_lt toleranceMagnitude.representable close
    rw [abs_of_nonneg (by omega)] at difference
    change _ < (toleranceQuanta : ℤ) at difference
    omega
  · intro near
    have lifted : (quantaPerOne - ↑(magnitude.quanta % quantaPerOne) : ℤ) =
        signed true magnitude.quanta -
          -(magnitude.quanta / quantaPerOne + 1 : ℕ) * quantaPerOne := by
      have split : (magnitude.quanta : ℤ) = quantaPerOne * ↑(magnitude.quanta / quantaPerOne) +
          ↑(magnitude.quanta % quantaPerOne) := by
        exact_mod_cast whole.symm
      simp only [signed, ↓reduceIte]
      rw [split]
      push_cast
      ring
    have distance :
        |(quantaPerOne - ↑(magnitude.quanta % quantaPerOne) : ℤ)| < toleranceQuanta := by
      rw [abs_of_nonneg (by omega)]
      omega
    have exactly := distance
    rw [lifted] at exactly
    rw [lifted, nearestRank_of_representable_natAbs
      (representable_sub_whole true magnitude (exactly.trans_le tolerance_le_near))]
    exact exactly

/-- Doubles count as whole whose remainder is within the tolerance of one end, or for negative
ones before the gap. -/
theorem nearWhole_iff_mod {negative : Bool} {magnitude : Magnitude} :
    (finite negative magnitude).NearWhole ↔
      magnitude.quanta % quantaPerOne < (if negative then noticedQuanta else toleranceQuanta) ∨
        quantaPerOne < magnitude.quanta % quantaPerOne + toleranceQuanta := by
  have small := Nat.mod_lt magnitude.quanta quantaPerOne_pos
  have lifted := abs_nearestRank_lt_iff magnitude
  rw [nearWhole_iff_modOneRank]
  generalize magnitude.quanta % quantaPerOne = rest at small lifted ⊢
  by_cases below : negative ∧ rest ≠ 0
  · rw [modOneRank, if_pos below, lifted, abs_nearestRank_sub_one_lt_iff, if_pos below.1,
      or_comm]
  · rw [modOneRank, if_neg below, Nat.abs_cast, abs_sub_comm, abs_of_nonneg (by omega)]
    have positive := toleranceQuanta_pos
    have noticed := noticedQuanta_pos
    cases negative with
    | false =>
      simp only [Bool.false_eq_true, ↓reduceIte]
      omega
    | true =>
      have nothing : rest = 0 := by
        by_contra nonzero
        exact below ⟨rfl, nonzero⟩
      simp only [↓reduceIte, nothing]
      omega

/-! ## Closeness to whole numbers -/

/-- The tolerance is less than a half, counted in quanta. -/
theorem toleranceQuanta_lt_half : toleranceQuanta < halfQuanta := by
  have twice := two_toleranceQuanta_lt
  rw [← two_mul_halfQuanta] at twice
  exact Nat.lt_of_mul_lt_mul_left twice

/-- A double is within the tolerance of the nearest whole number if its remainder is within the
tolerance of one end. -/
theorem abs_exact_sub_nearestWhole_lt_iff {negative : Bool} {magnitude : Magnitude} :
    |(finite negative magnitude).exact - nearestWhole (finite negative magnitude)| <
        tolerance.exact ↔
      magnitude.quanta % quantaPerOne < toleranceQuanta ∨
        quantaPerOne < magnitude.quanta % quantaPerOne + toleranceQuanta := by
  have half := toleranceQuanta_lt_half
  have halves := two_mul_halfQuanta
  have small := Nat.mod_lt magnitude.quanta quantaPerOne_pos
  have distance := abs_sub_onesNearest negative magnitude
  have bounded : (finite negative magnitude).isFinite := rfl
  have near (whole : ℤ) :=
    abs_exact_sub_lt_iff bounded (rank?_finite negative magnitude) whole toleranceQuanta
  rw [exact_tolerance]
  constructor
  · intro close
    rw [near] at close
    rw [eq_onesNearest_of_near (close.trans (by exact_mod_cast half)), distance] at close
    split at close <;> omega
  · intro ends
    apply (abs_exact_sub_nearestWhole_le _ (signed negative magnitude.onesNearest)).trans_lt
    rw [near, distance]
    split <;> omega

private theorem overlooked_iff {negative : Bool} {magnitude : Magnitude} :
    (finite negative magnitude).Overlooked ↔
      negative ∧ noticedQuanta ≤ magnitude.quanta ∧ magnitude.quanta < toleranceQuanta := by
  have below : (finite negative magnitude).Overlooked ↔
      -(toleranceQuanta : ℤ) < signed negative magnitude.quanta ∧
        signed negative magnitude.quanta ≤ -(noticedQuanta : ℤ) := by
    rw [Overlooked, exact_tolerance, exact, exactValue, noticed_eq, ← neg_div, ← neg_div,
      div_lt_div_iff_of_pos_right quantaPerOne_cast_pos,
      div_le_div_iff_of_pos_right quantaPerOne_cast_pos]
    exact_mod_cast Iff.rfl
  have positive := noticedQuanta_pos
  rw [below]
  cases negative with
  | false =>
    rw [signed_false]
    simp only [Bool.false_eq_true, false_and, iff_false]
    omega
  | true =>
    simp only [signed, ↓reduceIte, true_and]
    omega

/-- Of the multiples of `2 ^ -54`, only the end of the gap lies in it. -/
theorem eq_noticedQuanta_of_dvd {count : ℕ} (grid : twoPow 1020 ∣ count)
    (noticed : noticedQuanta ≤ count) (near : count < toleranceQuanta) : count = noticedQuanta := by
  have doubled : twoPow 1021 = twoPow 1020 * 2 := twoPow_succ 1020
  have multiple : 90072 * twoPow 1021 = twoPow 1020 * 180144 := by
    rw [doubled]
    ring
  have least : noticedQuanta = twoPow 1020 * 180143 := by rw [noticedQuanta, Nat.mul_comm]
  obtain ⟨places, isMultiple⟩ := grid
  have below : places < 180144 := by
    rw [isMultiple] at near
    exact Nat.lt_of_mul_lt_mul_left (near.trans_le (toleranceQuanta_mem.2.trans multiple.le))
  have above : 180143 ≤ places := by
    rw [isMultiple, least] at noticed
    exact Nat.le_of_mul_le_mul_left noticed (twoPow_pos 1020)
  have exactly : places = 180143 := by omega
  rw [isMultiple, exactly, least]

/-- No multiple of `2 ^ -53` lies in the gap. -/
theorem lt_noticedQuanta_of_dvd {count : ℕ} (grid : twoPow 1021 ∣ count)
    (near : count < toleranceQuanta) : count < noticedQuanta := by
  have doubled : twoPow 1021 = twoPow 1020 * 2 := twoPow_succ 1020
  by_contra far
  have finer := (twoPow_dvd_twoPow (show 1020 ≤ 1021 by decide)).trans grid
  have isEnd := eq_noticedQuanta_of_dvd finer (not_lt.mp far) near
  rw [isEnd, noticedQuanta, doubled, Nat.mul_comm 180143] at grid
  have even : 2 ∣ 180143 := Nat.dvd_of_mul_dvd_mul_left (twoPow_pos 1020) grid
  exact absurd even (by decide)

/-- From one on, doubles are too coarse to lie in the gap. -/
theorem mod_lt_noticedQuanta {magnitude : Magnitude} (large : quantaPerOne ≤ magnitude.quanta)
    (near : magnitude.quanta % quantaPerOne < toleranceQuanta) :
    magnitude.quanta % quantaPerOne < noticedQuanta := by
  have one : twoPow (52 + 1021) ≤ quantaPerOne := by
    rw [quantaPerOne]
    exact twoPow_le_twoPow (by decide)
  have divides : twoPow 1021 ∣ quantaPerOne := by
    rw [quantaPerOne]
    exact twoPow_dvd_twoPow (by decide)
  apply lt_noticedQuanta_of_dvd _ near
  rw [Nat.dvd_mod_iff divides]
  exact magnitude.representable.twoPow_dvd (one.trans large)

/-- **A double counts as whole** exactly if its exact distance to the nearest whole number is
below the tolerance and it is not overlooked. -/
theorem nearWhole_iff {number : Double} (bounded : number.isFinite) :
    number.NearWhole ↔
      |number.exact - nearestWhole number| < tolerance.exact ∧ ¬number.Overlooked := by
  obtain ⟨negative, magnitude, rfl⟩ := exists_eq_finite bounded
  have noticed := noticedQuanta_lt
  have small := two_toleranceQuanta_lt
  rw [nearWhole_iff_mod, abs_exact_sub_nearestWhole_lt_iff, overlooked_iff]
  cases negative with
  | false => simp
  | true =>
    simp only [↓reduceIte, true_and]
    by_cases large : quantaPerOne ≤ magnitude.quanta
    · have gap := mod_lt_noticedQuanta large
      omega
    · rw [Nat.mod_eq_of_lt (not_le.mp large)]
      omega

/-- The tolerance is less than a half. -/
theorem tolerance_lt_half : tolerance.exact < 1 / 2 := by
  rw [exact_tolerance, half_eq, div_lt_div_iff_of_pos_right quantaPerOne_cast_pos]
  exact_mod_cast toleranceQuanta_lt_half

/-- Close to a whole double is what is within the tolerance of the nearest whole number. -/
theorem exists_isWhole_close_iff {number : Double} (bounded : number.isFinite) :
    (∃ whole : Double, whole.IsWhole ∧ number.Close whole) ↔
      |number.exact - nearestWhole number| < tolerance.exact := by
  constructor
  · rintro ⟨whole, isWhole, close⟩
    obtain ⟨ones, value⟩ := isWhole.2
    rw [close_iff_of_isWhole bounded isWhole, value] at close
    exact (abs_exact_sub_nearestWhole_le number ones).trans_lt close
  · intro near
    have isWhole := isWhole_round bounded
    refine ⟨number.round, isWhole, ?_⟩
    rw [close_iff_of_isWhole bounded isWhole,
      (nearestWhole_eq bounded (near.trans tolerance_lt_half)).2]
    exact near

/-- A double that counts as whole is rounded to the whole number nearest to it. -/
theorem NearWhole.exact_round_eq {number : Double} (near : number.NearWhole) :
    number.round.exact = nearestWhole number :=
  (nearestWhole_eq near.1 (((nearWhole_iff near.1).mp near).1.trans tolerance_lt_half)).2

/-- The whole number of a double that counts as whole is the nearest one, or the nearest end of
the integers of 64 bits. -/
theorem NearWhole.wholeNumber?_eq {number : Double} (near : number.NearWhole) :
    number.wholeNumber? = some (max minInt64 (min (nearestWhole number) maxInt64)) := by
  rw [wholeNumber?, if_pos near, (isWhole_round near.1).toInt64_eq near.exact_round_eq]

/-- Of the doubles that count as whole, those are written as zero whose whole number is. -/
theorem NearWhole.text_eq_zero_iff {number : Double} (near : number.NearWhole) :
    number.text = "0" ↔ nearestWhole number = 0 := by
  have rounded := near.exact_round_eq
  obtain ⟨negative, magnitude, rfl⟩ := exists_eq_finite near.1
  rw [exact_round] at rounded
  have nearest :
      nearestWhole (finite negative magnitude) = signed negative magnitude.onesNearest := by
    exact_mod_cast rounded.symm
  rw [Double.text, if_pos near, toDecimal_round, Decimal.text_eq_zero_iff, nearest,
    ← Int.natAbs_eq_zero, natAbs_signed]

private theorem Overlooked.exact_lt_zero {number : Double} (overlooked : number.Overlooked) :
    number.exact < 0 :=
  overlooked.2.trans_lt (by norm_num)

/-- Whole doubles count as whole. -/
theorem IsWhole.nearWhole {number : Double} (isWhole : number.IsWhole) :
    number.NearWhole ∧ number.exact = nearestWhole number := by
  obtain ⟨ones, value⟩ := isWhole.2
  have nothing : |number.exact - ones| = 0 := by rw [value, sub_self, abs_zero]
  have positive : 0 < tolerance.exact := by
    rw [exact_tolerance]
    exact div_pos (by exact_mod_cast toleranceQuanta_pos) quantaPerOne_cast_pos
  have nearest := (abs_exact_sub_nearestWhole_le number ones).trans_eq nothing
  refine ⟨(nearWhole_iff isWhole.1).mpr ⟨nearest.trans_lt positive, ?_⟩, ?_⟩
  · intro overlooked
    have below := overlooked.exact_lt_zero
    have above := overlooked.1
    have half := tolerance_lt_half
    rw [value] at below above
    have negative : ones < 0 := by exact_mod_cast below
    have whole : (ones : ℚ) ≤ -1 := by exact_mod_cast Int.le_sub_one_of_lt negative
    linarith
  · exact sub_eq_zero.mp (abs_nonpos_iff.mp nearest)

private theorem Overlooked.abs_exact_sub_lt {number : Double} (overlooked : number.Overlooked) :
    |number.exact - nearestWhole number| < tolerance.exact := by
  apply (abs_exact_sub_nearestWhole_le number 0).trans_lt
  rw [Int.cast_zero, sub_zero, abs_of_neg overlooked.exact_lt_zero]
  linarith [overlooked.1]

private theorem Overlooked.not_neg {number : Double} (overlooked : number.Overlooked) :
    ¬(-number).Overlooked := by
  intro opposite
  have negative := overlooked.exact_lt_zero
  have positive := opposite.exact_lt_zero
  rw [exact_neg] at positive
  linarith

/-- A double and its opposite both count as whole or neither does, unless one is overlooked. -/
theorem nearWhole_iff_neg {number : Double} (bounded : number.isFinite) :
    (number.NearWhole ↔ (-number).NearWhole) ↔ ¬number.Overlooked ∧ ¬(-number).Overlooked := by
  have sameDistance : |(-number).exact - nearestWhole (-number)| < tolerance.exact ↔
      |number.exact - nearestWhole number| < tolerance.exact := by
    obtain ⟨negative, magnitude, rfl⟩ := exists_eq_finite bounded
    rw [abs_exact_sub_nearestWhole_lt_iff]
    exact abs_exact_sub_nearestWhole_lt_iff
  rw [nearWhole_iff bounded, nearWhole_iff (isFinite_neg bounded), sameDistance]
  constructor
  · intro same
    constructor
    · intro overlooked
      have within := overlooked.abs_exact_sub_lt
      exact (same.mpr ⟨within, overlooked.not_neg⟩).2 overlooked
    · intro overlooked
      have within := sameDistance.mp overlooked.abs_exact_sub_lt
      exact (same.mp ⟨within, fun opposite => opposite.not_neg overlooked⟩).2 overlooked
  · rintro ⟨noticed, oppositeNoticed⟩
    rw [and_iff_left noticed, and_iff_left oppositeNoticed]

end Double

end StyleNumber
