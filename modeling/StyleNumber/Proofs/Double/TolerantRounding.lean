import StyleNumber.Proofs.Double.Scaling
import StyleNumber.Proofs.Double.Whole

/-! # Rounding with a tolerance at the half

A double is rounded to one of the whole doubles around it, depending on its remainder modulo one: a
remainder close to one half counts as a half, and halves go away from zero. The magnitude goes up if
its fraction falls short of one half by less than a slack (`Double.tolerantRound_finite`). For
positive doubles the slack is the tolerance. For negative ones the remainder is a rounded sum, and
the slack is the end of the gap in which doubles are overlooked.

Rounding with a slack is adding and cutting off (`Magnitude.quanta_roundWith`). So it keeps the
order of magnitudes and moves none by more than one half and the slack, whatever the slack is. That
the two sides of zero have different ones does no harm: rounding keeps the order of all doubles
(`Double.tolerantRound_le_tolerantRound`) and moves none by more than one half and the tolerance
(`Double.abs_exact_sub_tolerantRound_lt`). The difference shows at a single magnitude, which is
rounded up on one side of zero and down on the other (`Double.tolerantRound_neg_iff`).
-/

namespace StyleNumber

/-! ## Magnitudes -/

/-- The ones that a count of quanta is rounded to if a fraction short of one half by less than a
slack goes up. -/
def roundedOnes (slack quanta : ℕ) : ℕ :=
  (quanta + (halfQuanta + slack - 1)) / quantaPerOne

private theorem roundedOnes_mono (slack : ℕ) : Monotone (roundedOnes slack) :=
  fun _ _ below => Nat.div_le_div_right (Nat.add_le_add_right below _)

section

variable {slack : ℕ} (small : slack ≤ halfQuanta)
include small

private theorem roundedOnes_zero : roundedOnes slack 0 = 0 := by
  have halves := two_mul_halfQuanta
  have positive := quantaPerOne_pos
  exact Nat.div_eq_of_lt (by omega)

/-- Rounding goes up by less than one half and the slack, and down by no more than what one half
exceeds the slack. -/
theorem roundedOnes_near (quanta : ℕ) :
    roundedOnes slack quanta * quantaPerOne < quanta + (halfQuanta + slack) ∧
      quanta + slack ≤ roundedOnes slack quanta * quantaPerOne + halfQuanta := by
  have halves := two_mul_halfQuanta
  have positive := quantaPerOne_pos
  have whole := Nat.div_add_mod (quanta + (halfQuanta + slack - 1)) quantaPerOne
  have rest := Nat.mod_lt (quanta + (halfQuanta + slack - 1)) quantaPerOne_pos
  rw [roundedOnes, Nat.mul_comm]
  omega

end

namespace Magnitude

/-- The whole magnitude below, or the one above if the fraction falls short of one half by less
than a slack. -/
def roundWith (slack : ℕ) (magnitude : Magnitude) : Magnitude :=
  if halfQuanta < magnitude.quanta % quantaPerOne + slack then magnitude.ceil else magnitude.floor

/-- Rounding with a slack is adding and cutting off. -/
theorem quanta_roundWith {slack : ℕ} (small : slack ≤ halfQuanta) (magnitude : Magnitude) :
    (magnitude.roundWith slack).quanta = roundedOnes slack magnitude.quanta * quantaPerOne := by
  have halves := two_mul_halfQuanta
  have whole := Nat.div_add_mod magnitude.quanta quantaPerOne
  have rest := Nat.mod_lt magnitude.quanta quantaPerOne_pos
  have added : roundedOnes slack magnitude.quanta =
      magnitude.onesBelow +
        (magnitude.quanta % quantaPerOne + (halfQuanta + slack - 1)) / quantaPerOne := by
    rw [roundedOnes, onesBelow, ← Nat.mul_add_div quantaPerOne_pos, ← Nat.add_assoc, whole]
  rw [roundWith, added]
  split
  · next up =>
    have carry : (magnitude.quanta % quantaPerOne + (halfQuanta + slack - 1)) / quantaPerOne = 1 :=
      Nat.div_eq_of_lt_le (by omega) (by omega)
    rw [carry, quanta_ceil, onesAbove, if_neg (by omega)]
  · next down =>
    rw [Nat.div_eq_of_lt (by omega), quanta_floor, Nat.add_zero]

end Magnitude

namespace Double

/-! ## One half -/

private theorem representable_halfQuanta : Representable halfQuanta :=
  ⟨1, 1073, by decide, by decide, by rw [Nat.one_mul, halfQuanta]⟩

private theorem rank?_half : (0.5 : Double).rank? = some ↑halfQuanta := by
  have five : 5 * quantaPerOne = halfQuanta * tenPow 1 := by
    have ten : tenPow 1 = 10 := rfl
    rw [ten, ← two_mul_halfQuanta]
    ring
  have scaled := nearestRank_scale halfQuanta 1 (tenPow_pos 1)
  rw [Nat.one_mul] at scaled
  simp only [OfScientific.ofScientific, ↓reduceIte]
  rw [rank?_ofRatio, signed_false, five, Nat.cast_mul, scaled,
    nearestRank_of_representable representable_halfQuanta]

private theorem isFinite_half : (0.5 : Double).isFinite := by
  apply isFinite_of_abs_lt rank?_half
  rw [Nat.abs_cast]
  exact_mod_cast representable_halfQuanta.lt_overflowQuanta

variable {number : Double} {rank : ℤ}

private theorem close_half_iff (bounded : number.isFinite) (ranked : number.rank? = some rank) :
    number.Close 0.5 ↔ |rank - halfQuanta| < toleranceQuanta := by
  have oneHalf : (0.5 : Double).rank? = some ((1 : ℤ) * halfQuanta) := by rw [rank?_half, one_mul]
  rw [close_iff_of_halves bounded ranked isFinite_half oneHalf, one_mul]

private theorem below_half_iff (bounded : number.isFinite) (ranked : number.rank? = some rank) :
    number.Below 0.5 ↔ rank + toleranceQuanta ≤ halfQuanta := by
  have positive := toleranceQuanta_pos
  rw [Below, lt_iff ranked rank?_half, close_half_iff bounded ranked, abs_lt]
  omega

private theorem atMost_half_iff (bounded : number.isFinite) (ranked : number.rank? = some rank) :
    number.AtMost 0.5 ↔ rank < halfQuanta + toleranceQuanta := by
  have positive := toleranceQuanta_pos
  rw [AtMost, lt_iff ranked rank?_half, close_half_iff bounded ranked, abs_lt]
  omega

/-! ## What a double is rounded to -/

/-- A fraction that falls short of one half by less than this counts as a half, by the sign of the
double. -/
def slackQuanta (negative : Bool) : ℕ :=
  if negative then noticedQuanta else toleranceQuanta

private theorem slackQuanta_le (negative : Bool) : slackQuanta negative ≤ toleranceQuanta := by
  cases negative with
  | false => exact le_rfl
  | true => exact noticedQuanta_lt.le

private theorem slackQuanta_le_half (negative : Bool) : slackQuanta negative ≤ halfQuanta :=
  (slackQuanta_le negative).trans toleranceQuanta_lt_half.le

/-- Just beyond a half, the sum of a negative remainder and one is rounded to multiples of
`2 ^ -53`. -/
theorem nearestRank_around_half :
    nearestRank (halfQuanta + noticedQuanta) 1 = halfQuanta + 90072 * twoPow 1021 ∧
      nearestRank (halfQuanta + noticedQuanta - 1) 1 = halfQuanta + 90071 * twoPow 1021 := by
  decide +kernel

/-- Rounded, the sum of a negative remainder and one is below a half or close to it just if the
fraction falls short of one half by less than the end of the gap. -/
theorem nearestRank_lt_iff {rest : ℕ} :
    nearestRank (quantaPerOne - rest) 1 < halfQuanta + toleranceQuanta ↔
      halfQuanta < rest + noticedQuanta := by
  obtain ⟨noticed, before⟩ := nearestRank_around_half
  obtain ⟨within, beyond⟩ := toleranceQuanta_mem
  have halves := two_mul_halfQuanta
  constructor
  · intro close
    by_contra far
    have rounded := nearestRank_le_nearestRank
      (show (halfQuanta + noticedQuanta : ℤ) ≤ quantaPerOne - rest by omega) one_pos
    omega
  · intro close
    have rounded := nearestRank_le_nearestRank
      (show (quantaPerOne - rest : ℤ) ≤ halfQuanta + noticedQuanta - 1 by omega) one_pos
    omega

private theorem zero_lt_finite_iff (negative : Bool) (magnitude : Magnitude) :
    0 < finite negative magnitude ↔ negative = false ∧ magnitude.quanta ≠ 0 := by
  rw [lt_iff rank?_zero (rank?_finite negative magnitude)]
  cases negative with
  | false =>
    simp only [signed_false, true_and]
    omega
  | true =>
    simp only [signed, ↓reduceIte, Bool.true_eq_false, false_and, iff_false]
    omega

/-- **A double is rounded** as its magnitude is with the slack of its sign. -/
theorem tolerantRound_finite (negative : Bool) (magnitude : Magnitude) :
    (finite negative magnitude).tolerantRound =
      finite negative (magnitude.roundWith (slackQuanta negative)) := by
  have ranked := rank?_mod_one_eq_modOneRank negative magnitude
  have bounded := isFinite_mod_one negative magnitude
  -- A whole magnitude is the only one around itself, so no test matters for it.
  by_cases whole : magnitude.quanta % quantaPerOne = 0
  · simp only [tolerantRound, floor, ceil, Magnitude.roundWith, Magnitude.floor_of_whole whole,
      Magnitude.ceil_of_whole whole, ite_self]
  · simp only [tolerantRound, zero_lt_finite_iff, below_half_iff bounded ranked,
      atMost_half_iff bounded ranked]
    cases negative with
    | false =>
      have positive : magnitude.quanta ≠ 0 := by
        intro nothing
        rw [nothing, Nat.zero_mod] at whole
        exact whole rfl
      have exactly : modOneRank false (magnitude.quanta % quantaPerOne) =
          ↑(magnitude.quanta % quantaPerOne) := if_neg (by simp)
      have down : ((magnitude.quanta % quantaPerOne : ℕ) : ℤ) + toleranceQuanta ≤ halfQuanta ↔
          ¬halfQuanta < magnitude.quanta % quantaPerOne + toleranceQuanta := by omega
      rw [if_pos ⟨rfl, positive⟩, exactly]
      simp only [down, ite_not]
      exact (apply_ite (finite false) _ _ _).symm
    | true =>
      have lifted : modOneRank true (magnitude.quanta % quantaPerOne) =
          nearestRank (quantaPerOne - ↑(magnitude.quanta % quantaPerOne)) 1 := if_pos ⟨rfl, whole⟩
      rw [if_neg (by simp), lifted]
      simp only [nearestRank_lt_iff]
      exact (apply_ite (finite true) _ _ _).symm

private theorem tolerantRound_infinite (negative : Bool) :
    (infinite negative).tolerantRound = infinite negative := by
  simp only [tolerantRound, floor, ceil, ite_self]

private theorem tolerantRound_ne_nan {number : Double} (isNumber : number ≠ nan) :
    number.tolerantRound ≠ nan := by
  cases number with
  | nan => exact (isNumber rfl).elim
  | infinite negative =>
    rw [tolerantRound_infinite]
    exact isNumber
  | finite negative magnitude =>
    rw [tolerantRound_finite]
    exact Double.noConfusion

/-- A finite double is rounded to one of the whole doubles around it. -/
theorem tolerantRound_eq_floor_or_ceil {number : Double} (bounded : number.isFinite) :
    number.tolerantRound = number.floor ∨ number.tolerantRound = number.ceil := by
  obtain ⟨negative, magnitude, rfl⟩ := exists_eq_finite bounded
  rw [tolerantRound_finite, Magnitude.roundWith]
  cases negative with
  | false =>
    split
    · exact .inr rfl
    · exact .inl rfl
  | true =>
    split
    · exact .inl rfl
    · exact .inr rfl

/-! ## Order and distance -/

/-- **Rounding keeps the order of doubles**, those on different sides of zero included. -/
theorem tolerantRound_le_tolerantRound {low high : Double} (ordered : low ≤ high) :
    low.tolerantRound ≤ high.tolerantRound := by
  have lowNumber := tolerantRound_ne_nan (ne_nan_of_le ordered).1
  have highNumber := tolerantRound_ne_nan (ne_nan_of_le ordered).2
  -- The results get names of their own, so that case splits do not evaluate their definition.
  generalize lowIs : low.tolerantRound = lowRounded at lowNumber ⊢
  generalize highIs : high.tolerantRound = highRounded at highNumber ⊢
  rcases le_cases ordered with rfl | rfl | ⟨lowNegative, highNegative, m, n, rfl, rfl, places⟩
  · rw [← lowIs, tolerantRound_infinite]
    exact infinite_le_of_ne_nan highNumber
  · rw [← highIs, tolerantRound_infinite]
    exact le_infinite_of_ne_nan lowNumber
  · have ones := signed_le_signed (fun negative => roundedOnes_mono (slackQuanta negative))
      (fun negative => roundedOnes_zero (slackQuanta_le_half negative)) places
    rw [← lowIs, ← highIs, tolerantRound_finite, tolerantRound_finite,
      le_iff (rank?_finite lowNegative _) (rank?_finite highNegative _),
      Magnitude.quanta_roundWith (slackQuanta_le_half lowNegative),
      Magnitude.quanta_roundWith (slackQuanta_le_half highNegative), signed_mul, signed_mul]
    exact mul_le_mul_of_nonneg_right ones (Nat.cast_nonneg _)

/-- **Rounding moves a double** by less than one half and the tolerance. -/
theorem abs_exact_sub_tolerantRound_lt {number : Double} (bounded : number.isFinite) :
    |number.exact - number.tolerantRound.exact| < 1 / 2 + tolerance.exact := by
  obtain ⟨negative, magnitude, rfl⟩ := exists_eq_finite bounded
  have small := slackQuanta_le_half negative
  have slack := slackQuanta_le negative
  have positive := toleranceQuanta_pos
  obtain ⟨above, below⟩ := roundedOnes_near small magnitude.quanta
  rw [tolerantRound_finite, exact_of_quanta_eq (Magnitude.quanta_roundWith small magnitude),
    half_eq, exact_tolerance, ← add_div, ← Nat.cast_add,
    abs_exact_sub_lt_iff bounded (rank?_finite negative magnitude), ← signed_mul,
    abs_signed_sub_signed, abs_lt]
  omega

/-- **Rounding with a tolerance at the half.** A finite double is rounded to a whole double, which
is the whole number below or above its exact value and differs from it by no more than one half and
the tolerance. Whole doubles stay as they are, and the order of doubles is kept. -/
theorem tolerantRound_near_and_monotone (number : Double) (bounded : number.isFinite) :
    number.tolerantRound.IsWhole ∧
    (number.tolerantRound.exact = ⌊number.exact⌋ ∨ number.tolerantRound.exact = ⌈number.exact⌉) ∧
    |number.exact - number.tolerantRound.exact| ≤ 1 / 2 + tolerance.exact ∧
    (number.IsWhole → number.tolerantRound = number) ∧
    ∀ other : Double, number ≤ other → number.tolerantRound ≤ other.tolerantRound := by
  have near := (abs_exact_sub_tolerantRound_lt bounded).le
  rcases tolerantRound_eq_floor_or_ceil bounded with down | up
  · have value : number.tolerantRound.exact = ⌊number.exact⌋ := by rw [down, exact_floor]
    refine ⟨⟨?_, _, value⟩, .inl value, near, ?_, @tolerantRound_le_tolerantRound number⟩
    · rw [down]
      exact isFinite_floor bounded
    · intro isWhole
      rw [down, isWhole.floor_and_ceil_eq.1]
  · have value : number.tolerantRound.exact = ⌈number.exact⌉ := by rw [up, exact_ceil]
    refine ⟨⟨?_, _, value⟩, .inr value, near, ?_, @tolerantRound_le_tolerantRound number⟩
    · rw [up]
      exact isFinite_ceil bounded
    · intro isWhole
      rw [up, isWhole.floor_and_ceil_eq.2]

/-- `1e-12` short of two and a half is rounded up to three, and so is three; the opposite is not
rounded to a greater double. -/
theorem almost_halves_rounded_away :
    let almost : Double := 2.499999999999
    (almost.isFinite ∧ almost.tolerantRound = 3 ∧ (3 : Double).IsWhole ∧
      |almost.exact - (3 : Double).exact| ≤ 1 / 2 + tolerance.exact) ∧
      (3 : Double).tolerantRound = 3 ∧
      -almost ≤ almost ∧ (-almost).tolerantRound ≤ almost.tolerantRound := by
  intro almost
  have bounded : almost.isFinite := by decide +kernel
  have oppositeBounded : (-almost).isFinite := by decide +kernel
  have up : almost.tolerantRound = 3 := by decide +kernel
  obtain ⟨isWhole, _, near, _, _⟩ := tolerantRound_near_and_monotone almost bounded
  rw [up] at isWhole near
  obtain ⟨_, _, _, _, kept⟩ := tolerantRound_near_and_monotone (-almost) oppositeBounded
  obtain ⟨_, _, _, same, _⟩ := tolerantRound_near_and_monotone 3 isWhole.1
  refine ⟨⟨bounded, up, isWhole, near⟩, same isWhole, by decide +kernel, ?_⟩
  simp (disch := decide +kernel) only [kept]

/-! ## Opposite doubles -/

/-- Only one magnitude has a fraction between the slacks of both signs. -/
theorem between_slacks_iff (magnitude : Magnitude) :
    halfQuanta < magnitude.quanta % quantaPerOne + toleranceQuanta ∧
        magnitude.quanta % quantaPerOne + noticedQuanta ≤ halfQuanta ↔
      magnitude.quanta + noticedQuanta = halfQuanta := by
  have halves := two_mul_halfQuanta
  have narrow := noticedQuanta_lt
  have positive := noticedQuanta_pos
  constructor
  · rintro ⟨near, far⟩
    by_cases large : halfQuanta ≤ magnitude.quanta
    · -- From a half on, doubles are too coarse to have their remainder between the slacks.
      have coarse : twoPow (52 + 1021) = halfQuanta := by rw [halfQuanta]
      have one : twoPow 1021 ∣ quantaPerOne := by
        rw [← two_mul_halfQuanta]
        exact (twoPow_dvd_halfQuanta (by decide)).mul_left 2
      have rest : twoPow 1021 ∣ magnitude.quanta % quantaPerOne := by
        rw [Nat.dvd_mod_iff one]
        exact magnitude.representable.twoPow_dvd (coarse.le.trans large)
      have noticed := lt_noticedQuanta_of_dvd
        (Nat.dvd_sub (twoPow_dvd_halfQuanta (by decide)) rest) (by omega)
      omega
    · rw [Nat.mod_eq_of_lt (by omega)] at near far
      have quarter := quarter_add_nearQuanta_le
      have tolerated := toleranceQuanta_le
      have grid : twoPow 1020 ∣ magnitude.quanta := magnitude.representable.twoPow_dvd (by omega)
      have isEnd := eq_noticedQuanta_of_dvd
        (Nat.dvd_sub (twoPow_dvd_halfQuanta (by decide)) grid) (by omega) (by omega)
      omega
  · intro between
    rw [Nat.mod_eq_of_lt (by omega)]
    omega

/-- Both slacks round a magnitude alike, except for that one. -/
theorem roundWith_eq_iff (magnitude : Magnitude) :
    magnitude.roundWith noticedQuanta = magnitude.roundWith toleranceQuanta ↔
      magnitude.quanta + noticedQuanta ≠ halfQuanta := by
  have half := toleranceQuanta_lt_half
  have narrow := noticedQuanta_lt
  rw [Ne, ← between_slacks_iff, Magnitude.roundWith, Magnitude.roundWith]
  by_cases above : halfQuanta < magnitude.quanta % quantaPerOne + noticedQuanta
  · rw [if_pos above, if_pos (by omega)]
    exact iff_of_true rfl (by omega)
  · rw [if_neg above]
    split
    · next up =>
      refine iff_of_false (fun same => ?_) (by omega)
      have quanta := congrArg Magnitude.quanta same
      rw [Magnitude.quanta_floor, Magnitude.quanta_ceil, Magnitude.onesAbove,
        if_neg (by omega)] at quanta
      have ones := Nat.mul_right_cancel quantaPerOne_pos quanta
      omega
    · exact iff_of_true rfl (by omega)

/-- **Opposite doubles are rounded to opposite doubles**, except for the two at one half less
`180143 / 2 ^ 54`, of which the positive one goes up to one and the negative one to zero. -/
theorem tolerantRound_neg_iff {number : Double} (bounded : number.isFinite) :
    (-number).tolerantRound = -number.tolerantRound ↔
      |number.exact| ≠ 1 / 2 - 180143 / 2 ^ 54 := by
  obtain ⟨negative, magnitude, rfl⟩ := exists_eq_finite bounded
  have opposite (other : Magnitude) : -finite negative other = finite (!negative) other := rfl
  have size : |(finite negative magnitude).exact| = magnitude.quanta / quantaPerOne := by
    rw [exact, exactValue, abs_div, abs_of_pos quantaPerOne_cast_pos, ← Int.cast_abs, abs_signed,
      Int.cast_natCast]
  have place : |(finite negative magnitude).exact| = 1 / 2 - 180143 / 2 ^ 54 ↔
      magnitude.quanta + noticedQuanta = halfQuanta := by
    rw [size, half_eq, noticed_eq, ← sub_div, div_left_inj' quantaPerOne_cast_pos.ne',
      eq_sub_iff_add_eq]
    exact_mod_cast Iff.rfl
  rw [opposite, tolerantRound_finite, tolerantRound_finite, opposite, finite.injEq,
    and_iff_right rfl, Ne, place, ← Ne, ← roundWith_eq_iff]
  cases negative with
  | false => exact Iff.rfl
  | true => exact eq_comm

end Double

end StyleNumber
