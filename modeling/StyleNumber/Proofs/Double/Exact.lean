import StyleNumber.Proofs.Decimal.Text

/-! # Exact values and the whole numbers next to them

The exact value of a finite double (`Double.exact`) is its place on the line of quanta,
measured in ones. The difference between a double and a whole number of halves near it needs no
rounding (`Double.representable_sub_halves`), because large doubles lie on a coarse grid
(`Representable.twoPow_dvd`). So a double is close to a whole double exactly if their exact
distance is below the tolerance (`Double.close_iff_of_isWhole`), and then the whole number is the
nearest one and what the double is rounded to (`Double.nearestWhole_eq`). The whole doubles around a
double have the whole numbers around its exact value (`Double.exact_floor`, `Double.exact_ceil`).
-/

namespace StyleNumber

/-! ## Grids -/

/-- A power of two divides all later ones. -/
theorem twoPow_dvd_twoPow {first second : ℕ} (ordered : first ≤ second) :
    twoPow first ∣ twoPow second :=
  Nat.pow_dvd_pow 2 ordered

/-- Counts of more than 53 bits lie on a grid. -/
theorem Representable.twoPow_dvd {quanta exponent : ℕ} (held : Representable quanta)
    (large : twoPow (52 + exponent) ≤ quanta) : twoPow exponent ∣ quanta := by
  obtain ⟨significand, scale, small, bounded, rfl⟩ := held
  have coarse : 52 + exponent < 53 + scale := by
    apply lt_of_twoPow_lt
    calc twoPow (52 + exponent)
        ≤ significand * twoPow scale := large
      _ < twoPow 53 * twoPow scale := Nat.mul_lt_mul_of_pos_right small (twoPow_pos scale)
      _ = twoPow (53 + scale) := (twoPow_add 53 scale).symm
  exact (twoPow_dvd_twoPow (by omega)).mul_left significand

/-- A count on a grid is held unless it needs too many bits. -/
theorem representable_of_twoPow_dvd {quanta exponent : ℕ} (divides : twoPow exponent ∣ quanta)
    (small : quanta < twoPow (53 + exponent)) (bounded : exponent ≤ 2045) :
    Representable quanta := by
  obtain ⟨count, rfl⟩ := divides
  refine ⟨count, exponent, ?_, bounded, Nat.mul_comm _ _⟩
  rw [Nat.add_comm, twoPow_add] at small
  exact Nat.lt_of_mul_lt_mul_left small

/-- A sign does not change what divides a count. -/
theorem dvd_signed {divisor count : ℕ} (negative : Bool) (divides : divisor ∣ count) :
    (divisor : ℤ) ∣ signed negative count := by
  rw [Int.natCast_dvd, natAbs_signed]
  exact divides

/-- One half, in quanta. -/
def halfQuanta : ℕ :=
  twoPow 1073

/-- Two halves are one. -/
theorem two_mul_halfQuanta : 2 * halfQuanta = quantaPerOne := by
  rw [Nat.mul_comm, halfQuanta, quantaPerOne, twoPow_succ 1073]

namespace Double

/-! ## Exact values -/

/-- The exact value of a double; zero stands in where there is none. -/
def exact : Double → ℚ
  | finite negative magnitude => exactValue negative magnitude
  | _ => 0

/-- Whether a double is finite and its exact value a whole number. -/
def IsWhole (number : Double) : Prop :=
  number.isFinite ∧ ∃ whole : ℤ, number.exact = whole

/-- One is a positive number of quanta, as a fraction too. -/
theorem quantaPerOne_cast_pos : (0 : ℚ) < quantaPerOne := by
  exact_mod_cast quantaPerOne_pos

/-- The exact value of a finite double is its place, counted in ones. -/
theorem exact_eq {number : Double} {rank : ℤ} (bounded : number.isFinite)
    (ranked : number.rank? = some rank) : number.exact = rank / quantaPerOne := by
  obtain ⟨negative, magnitude, rfl⟩ := exists_eq_finite bounded
  rw [rank?_finite, Option.some.injEq] at ranked
  rw [exact, exactValue, ranked]

/-- Negation is exact. -/
theorem exact_neg (number : Double) : (-number).exact = -number.exact := by
  cases number with
  | nan => exact neg_zero.symm
  | infinite negative => exact neg_zero.symm
  | finite negative magnitude =>
    change exactValue (!negative) magnitude = -exactValue negative magnitude
    rw [exactValue, exactValue, signed_not, Int.cast_neg, neg_div]

/-- The opposite of a finite double is finite. -/
theorem isFinite_neg {number : Double} (bounded : number.isFinite) : (-number).isFinite := by
  obtain ⟨negative, magnitude, rfl⟩ := exists_eq_finite bounded
  rfl

/-- The exact value of the tolerance. -/
theorem exact_tolerance : tolerance.exact = toleranceQuanta / quantaPerOne := by
  have bounded : tolerance.isFinite := by rw [tolerance_eq, isFinite]
  rw [exact_eq bounded rank?_tolerance, Int.cast_natCast]

/-- The exact value of a magnitude of whole ones is their count. -/
theorem exact_of_quanta_eq {negative : Bool} {magnitude : Magnitude} {ones : ℕ}
    (whole : magnitude.quanta = ones * quantaPerOne) :
    (finite negative magnitude).exact = signed negative ones := by
  rw [exact, exactValue, whole, signed_mul, Int.cast_mul, Int.cast_natCast,
    mul_div_cancel_right₀ _ quantaPerOne_cast_pos.ne']

/-- Whole numbers of at most 53 bits are the exact values of doubles. -/
theorem exists_isWhole_eq {whole : ℤ} (small : whole.natAbs < twoPow 53) :
    ∃ number : Double, number.IsWhole ∧ number.exact = whole := by
  have held : Representable (whole.natAbs * quantaPerOne) :=
    ⟨whole.natAbs, 1074, small, by decide, by rw [quantaPerOne]⟩
  have value : (finite (decide (whole < 0)) ⟨whole.natAbs * quantaPerOne, held⟩).exact = whole := by
    have ones : (⟨whole.natAbs * quantaPerOne, held⟩ : Magnitude).quanta =
        whole.natAbs * quantaPerOne := rfl
    rw [exact_of_quanta_eq ones, signed_natAbs]
  exact ⟨_, ⟨rfl, whole, value⟩, value⟩

/-- A whole double has its place at a multiple of one. -/
theorem IsWhole.rank?_eq {number : Double} (isWhole : number.IsWhole) {whole : ℤ}
    (value : number.exact = whole) : number.rank? = some (whole * quantaPerOne) := by
  obtain ⟨negative, magnitude, rfl⟩ := exists_eq_finite isWhole.1
  rw [exact, exactValue, div_eq_iff quantaPerOne_cast_pos.ne'] at value
  rw [rank?_finite, Option.some.injEq]
  exact_mod_cast value

/-- Distances on the line of quanta are exact distances. -/
theorem abs_exact_sub_lt_iff {number : Double} {rank : ℤ} (bounded : number.isFinite)
    (ranked : number.rank? = some rank) (whole : ℤ) (count : ℕ) :
    |number.exact - whole| < count / quantaPerOne ↔ |rank - whole * quantaPerOne| < count := by
  have difference : number.exact - whole =
      (rank - whole * quantaPerOne : ℤ) / (quantaPerOne : ℚ) := by
    rw [exact_eq bounded ranked, eq_div_iff quantaPerOne_cast_pos.ne', sub_mul,
      div_mul_cancel₀ _ quantaPerOne_cast_pos.ne']
    push_cast
    rfl
  rw [difference, abs_div, abs_of_pos quantaPerOne_cast_pos,
    div_lt_div_iff_of_pos_right quantaPerOne_cast_pos]
  exact_mod_cast Iff.rfl

/-! ## Differences to halves and whole numbers -/

/-- A quarter and `2 ^ -36` are at most a half. -/
theorem quarter_add_nearQuanta_le : twoPow (52 + 1020) + nearQuanta ≤ halfQuanta := by
  have quarter : halfQuanta = twoPow (52 + 1020) * 2 := by rw [halfQuanta, ← twoPow_succ]
  have small : nearQuanta ≤ twoPow (52 + 1020) := by
    rw [nearQuanta]
    exact twoPow_le_twoPow (by decide)
  omega

private theorem nearQuanta_le_grid : nearQuanta ≤ twoPow (53 + 1020) := by
  rw [nearQuanta]
  exact twoPow_le_twoPow (by decide)

/-- A half lies on every grid that is no coarser than halves. -/
theorem twoPow_dvd_halfQuanta {exponent : ℕ} (fine : exponent ≤ 1073) :
    twoPow exponent ∣ halfQuanta := by
  rw [halfQuanta]
  exact twoPow_dvd_twoPow fine

/-- The difference between a double and a whole number of halves near it needs no rounding. -/
theorem representable_sub_halves (negative : Bool) (magnitude : Magnitude) {halves : ℤ}
    (near : |signed negative magnitude.quanta - halves * halfQuanta| < nearQuanta) :
    Representable (signed negative magnitude.quanta - halves * halfQuanta).natAbs := by
  by_cases nothing : halves = 0
  · rw [nothing, zero_mul, sub_zero, natAbs_signed]
    exact magnitude.representable
  · have one : (halfQuanta : ℤ) ≤ |halves * halfQuanta| := by
      rw [abs_mul, Nat.abs_cast]
      exact le_mul_of_one_le_left (Nat.cast_nonneg _) (Int.one_le_abs nothing)
    have size := abs_signed negative magnitude.quanta
    have triangle := abs_sub_abs_le_abs_sub (halves * halfQuanta : ℤ)
      (signed negative magnitude.quanta)
    rw [abs_sub_comm] at triangle
    have large : twoPow (52 + 1020) ≤ magnitude.quanta := by
      have quarter := quarter_add_nearQuanta_le
      omega
    have divides : (twoPow 1020 : ℤ) ∣ signed negative magnitude.quanta - halves * halfQuanta :=
      dvd_sub (dvd_signed negative (magnitude.representable.twoPow_dvd large))
        ((Int.natCast_dvd_natCast.mpr (twoPow_dvd_halfQuanta (by decide))).mul_left halves)
    refine representable_of_twoPow_dvd (Int.natCast_dvd.mp divides) ?_ (by decide)
    rw [Int.abs_eq_natAbs, Nat.cast_lt] at near
    exact near.trans_le nearQuanta_le_grid

private theorem whole_eq_halves (whole : ℤ) :
    (whole * quantaPerOne : ℤ) = (2 * whole : ℤ) * halfQuanta := by
  rw [← two_mul_halfQuanta]
  push_cast
  ring

/-- The difference between a double and a whole number near it needs no rounding. -/
theorem representable_sub_whole (negative : Bool) (magnitude : Magnitude) {whole : ℤ}
    (near : |signed negative magnitude.quanta - whole * quantaPerOne| < nearQuanta) :
    Representable (signed negative magnitude.quanta - whole * quantaPerOne).natAbs := by
  rw [whole_eq_halves] at near ⊢
  exact representable_sub_halves negative magnitude near

/-- The tolerance is at most `2 ^ -36`, as an integer. -/
theorem tolerance_le_near : (toleranceQuanta : ℤ) ≤ nearQuanta := by
  exact_mod_cast toleranceQuanta_le

/-- A double is close to one of halves exactly if it is so without rounding. -/
theorem close_iff_of_halves {number other : Double} {rank : ℤ} {halves : ℤ}
    (bounded : number.isFinite) (ranked : number.rank? = some rank) (otherBounded : other.isFinite)
    (otherRank : other.rank? = some (halves * halfQuanta)) :
    number.Close other ↔ |rank - halves * halfQuanta| < toleranceQuanta := by
  constructor
  · intro close
    exact close.abs_sub_lt ranked otherRank
  · intro near
    obtain ⟨negative, magnitude, rfl⟩ := exists_eq_finite bounded
    obtain ⟨_, _, rfl⟩ := exists_eq_finite otherBounded
    rw [rank?_finite, Option.some.injEq] at ranked otherRank
    subst ranked
    rw [close_iff, otherRank, nearestRank_of_representable_natAbs
      (representable_sub_halves negative magnitude (near.trans_le tolerance_le_near))]
    exact near

/-- A double is close to a whole one exactly if it is so without rounding. -/
theorem close_iff_of_rank? {number whole : Double} {rank : ℤ} {ones : ℤ}
    (bounded : number.isFinite) (ranked : number.rank? = some rank) (wholeBounded : whole.isFinite)
    (wholeRank : whole.rank? = some (ones * quantaPerOne)) :
    number.Close whole ↔ |rank - ones * quantaPerOne| < toleranceQuanta := by
  rw [whole_eq_halves] at wholeRank ⊢
  exact close_iff_of_halves bounded ranked wholeBounded wholeRank

/-- **A double is close to a whole one** exactly if their exact distance is below the
tolerance. -/
theorem close_iff_of_isWhole {number whole : Double} (bounded : number.isFinite)
    (isWhole : whole.IsWhole) :
    number.Close whole ↔ |number.exact - whole.exact| < tolerance.exact := by
  obtain ⟨ones, value⟩ := isWhole.2
  obtain ⟨negative, magnitude, rfl⟩ := exists_eq_finite bounded
  rw [value, exact_tolerance, abs_exact_sub_lt_iff bounded (rank?_finite negative magnitude)]
  exact close_iff_of_rank? bounded (rank?_finite negative magnitude) isWhole.1
    (isWhole.rank?_eq value)

/-! ## The nearest whole number -/

/-- The distance of a double to the whole number that it is rounded to. -/
theorem abs_sub_onesNearest (negative : Bool) (magnitude : Magnitude) :
    |signed negative magnitude.quanta - signed negative magnitude.onesNearest * quantaPerOne| =
      if 2 * (magnitude.quanta % quantaPerOne) < quantaPerOne then
        ((magnitude.quanta % quantaPerOne : ℕ) : ℤ)
      else quantaPerOne - ((magnitude.quanta % quantaPerOne : ℕ) : ℤ) := by
  have whole := Nat.div_add_mod magnitude.quanta quantaPerOne
  have small := Nat.mod_lt magnitude.quanta quantaPerOne_pos
  rw [← signed_mul, abs_signed_sub_signed, Nat.cast_mul, Magnitude.onesNearest, Magnitude.onesBelow]
  generalize magnitude.quanta % quantaPerOne = rest at whole small ⊢
  generalize magnitude.quanta / quantaPerOne = ones at whole ⊢
  rw [← whole]
  split
  · have difference :
        ((quantaPerOne * ones + rest : ℕ) : ℤ) - (ones : ℕ) * quantaPerOne = rest := by
      push_cast
      ring
    rw [difference, Nat.abs_cast]
  · have difference : ((quantaPerOne * ones + rest : ℕ) : ℤ) - (ones + 1 : ℕ) * quantaPerOne =
        -(quantaPerOne - rest) := by
      push_cast
      ring
    rw [difference, abs_neg, abs_of_nonneg (by omega)]

/-- A double is rounded by at most one half. -/
theorem abs_sub_onesNearest_le (negative : Bool) (magnitude : Magnitude) :
    |signed negative magnitude.quanta - signed negative magnitude.onesNearest * quantaPerOne| ≤
      halfQuanta := by
  have halves := two_mul_halfQuanta
  have small := Nat.mod_lt magnitude.quanta quantaPerOne_pos
  rw [abs_sub_onesNearest]
  split <;> omega

/-- A whole number within one half of a double is the one that the double is rounded to. -/
theorem eq_onesNearest_of_near {negative : Bool} {magnitude : Magnitude} {whole : ℤ}
    (near : |signed negative magnitude.quanta - whole * quantaPerOne| < halfQuanta) :
    whole = signed negative magnitude.onesNearest := by
  have halves := two_mul_halfQuanta
  have half := abs_sub_onesNearest_le negative magnitude
  have triangle := abs_sub_le (whole * quantaPerOne : ℤ) (signed negative magnitude.quanta)
    (signed negative magnitude.onesNearest * quantaPerOne)
  rw [abs_sub_comm (whole * quantaPerOne : ℤ) (signed negative magnitude.quanta), ← sub_mul,
    abs_mul, Nat.abs_cast] at triangle
  have apart : |whole - signed negative magnitude.onesNearest| * (quantaPerOne : ℤ) <
      1 * quantaPerOne := by
    omega
  have same := lt_of_mul_lt_mul_right apart (Nat.cast_nonneg _)
  rw [Int.abs_lt_one_iff, sub_eq_zero] at same
  exact same

end Double

/-- The whole number nearest to the exact value of a double, a half going up; zero for a double
without one. -/
def nearestWhole (number : Double) : ℤ :=
  round number.exact

/-- No whole number is nearer to a double than its nearest one. -/
theorem abs_exact_sub_nearestWhole_le (number : Double) (whole : ℤ) :
    |number.exact - nearestWhole number| ≤ |number.exact - whole| :=
  round_le number.exact whole

namespace Double

/-- A half, counted in quanta. -/
theorem half_eq : (1 / 2 : ℚ) = halfQuanta / quantaPerOne := by
  rw [div_eq_div_iff two_ne_zero quantaPerOne_cast_pos.ne', one_mul, ← two_mul_halfQuanta,
    Nat.cast_mul, Nat.cast_ofNat, mul_comm]

/-- Rounding a finite double to a whole number gives the ones nearest to its magnitude, with
its sign. -/
theorem exact_round (negative : Bool) (magnitude : Magnitude) :
    (finite negative magnitude).round.exact = signed negative magnitude.onesNearest :=
  exact_of_quanta_eq rfl

/-- What a finite double is rounded to is whole. -/
theorem isWhole_round {number : Double} (bounded : number.isFinite) : number.round.IsWhole := by
  obtain ⟨negative, magnitude, rfl⟩ := exists_eq_finite bounded
  exact ⟨rfl, _, exact_round negative magnitude⟩

/-- **A whole number within one half of a double** is the nearest one and the one that the
double is rounded to. -/
theorem nearestWhole_eq {number : Double} (bounded : number.isFinite) {whole : ℤ}
    (near : |number.exact - whole| < 1 / 2) :
    nearestWhole number = whole ∧ number.round.exact = whole := by
  have nearest := (abs_exact_sub_nearestWhole_le number whole).trans_lt near
  obtain ⟨negative, magnitude, rfl⟩ := exists_eq_finite bounded
  have ranked := rank?_finite negative magnitude
  rw [half_eq, abs_exact_sub_lt_iff bounded ranked] at near nearest
  rw [exact_round, eq_onesNearest_of_near nearest, eq_onesNearest_of_near near]
  exact ⟨rfl, rfl⟩

/-- A whole double is cast to its value, or to the nearest end of the integers of 64 bits. -/
theorem IsWhole.toInt64_eq {number : Double} (isWhole : number.IsWhole) {whole : ℤ}
    (value : number.exact = whole) : number.toInt64 = max minInt64 (min whole maxInt64) := by
  have ranked := isWhole.rank?_eq value
  obtain ⟨negative, magnitude, rfl⟩ := exists_eq_finite isWhole.1
  rw [rank?_finite, Option.some.injEq] at ranked
  have size : magnitude.quanta = whole.natAbs * quantaPerOne := by
    rw [← natAbs_signed negative magnitude.quanta, ranked, Int.natAbs_mul, Int.natAbs_natCast]
  have ones : signed negative magnitude.onesBelow = whole := by
    rw [Magnitude.onesBelow, size, Nat.mul_div_cancel _ quantaPerOne_pos]
    rw [size, signed_mul] at ranked
    exact mul_right_cancel₀ (Nat.cast_ne_zero.mpr quantaPerOne_pos.ne') ranked
  rw [toInt64, ones]

end Double

/-! ## The whole numbers around a double -/

namespace Magnitude

private theorem eq_of_quanta {m n : Magnitude} (same : m.quanta = n.quanta) : m = n := by
  cases m
  cases n
  cases same
  rfl

variable {magnitude : Magnitude}

/-- The floor of a magnitude, counted in quanta. -/
theorem quanta_floor : magnitude.floor.quanta = magnitude.onesBelow * quantaPerOne := by
  simp only [floor]

/-- The ceiling of a magnitude, counted in quanta. -/
theorem quanta_ceil : magnitude.ceil.quanta = magnitude.onesAbove * quantaPerOne := by
  simp only [ceil]

private theorem onesBelow_mul (whole : magnitude.quanta % quantaPerOne = 0) :
    magnitude.onesBelow * quantaPerOne = magnitude.quanta := by
  rw [onesBelow, Nat.div_mul_cancel (Nat.dvd_of_mod_eq_zero whole)]

/-- A whole magnitude is its own floor. -/
theorem floor_of_whole (whole : magnitude.quanta % quantaPerOne = 0) :
    magnitude.floor = magnitude := by
  apply eq_of_quanta
  rw [quanta_floor, onesBelow_mul whole]

/-- A whole magnitude is its own ceiling. -/
theorem ceil_of_whole (whole : magnitude.quanta % quantaPerOne = 0) :
    magnitude.ceil = magnitude := by
  apply eq_of_quanta
  rw [quanta_ceil, onesAbove, if_pos whole, onesBelow_mul whole]

/-- The ones below a place are those below its magnitude, or above it on the negative side. -/
theorem signed_quanta_div (negative : Bool) (magnitude : Magnitude) :
    signed negative magnitude.quanta / quantaPerOne =
      signed negative (if negative then magnitude.onesAbove else magnitude.onesBelow) := by
  cases negative with
  | false => exact (Int.natCast_div magnitude.quanta quantaPerOne).symm
  | true =>
    simp only [signed, ↓reduceIte]
    rw [Int.neg_ediv, Int.sign_natCast_of_ne_zero quantaPerOne_pos.ne', ← Int.natCast_div]
    simp only [Int.natCast_dvd_natCast, Nat.dvd_iff_mod_eq_zero]
    rw [onesAbove, onesBelow]
    split
    · rw [sub_zero]
    · rw [Nat.cast_add, Nat.cast_one, neg_add, sub_eq_add_neg]

end Magnitude

namespace Double

/-- The whole double below a double has the whole number below its exact value. -/
theorem exact_floor (number : Double) : number.floor.exact = ⌊number.exact⌋ := by
  cases number with
  | nan => exact (congrArg Int.cast Int.floor_zero).symm
  | infinite negative => exact (congrArg Int.cast Int.floor_zero).symm
  | finite negative magnitude =>
    have value : (finite negative magnitude).exact =
        (signed negative magnitude.quanta : ℚ) / quantaPerOne := rfl
    rw [value, Rat.floor_intCast_div_natCast, Magnitude.signed_quanta_div]
    cases negative with
    | false => exact exact_of_quanta_eq Magnitude.quanta_floor
    | true => exact exact_of_quanta_eq Magnitude.quanta_ceil

private theorem ceil_eq_neg_floor_neg (number : Double) : number.ceil = -(-number).floor := by
  cases number with
  | nan => rfl
  | infinite negative => cases negative <;> rfl
  | finite negative magnitude => cases negative <;> rfl

/-- The whole double above a double has the whole number above its exact value. -/
theorem exact_ceil (number : Double) : number.ceil.exact = ⌈number.exact⌉ := by
  rw [ceil_eq_neg_floor_neg, exact_neg, exact_floor, exact_neg, Int.floor_neg, Int.cast_neg,
    neg_neg]

/-- The floor of a finite double is finite. -/
theorem isFinite_floor {number : Double} (bounded : number.isFinite) : number.floor.isFinite := by
  obtain ⟨negative, magnitude, rfl⟩ := exists_eq_finite bounded
  rfl

/-- The ceiling of a finite double is finite. -/
theorem isFinite_ceil {number : Double} (bounded : number.isFinite) : number.ceil.isFinite := by
  obtain ⟨negative, magnitude, rfl⟩ := exists_eq_finite bounded
  rfl

/-- There is no other whole double around a whole one. -/
theorem IsWhole.floor_and_ceil_eq {number : Double} (isWhole : number.IsWhole) :
    number.floor = number ∧ number.ceil = number := by
  obtain ⟨whole, value⟩ := isWhole.2
  have ranked := isWhole.rank?_eq value
  obtain ⟨negative, magnitude, rfl⟩ := exists_eq_finite isWhole.1
  rw [rank?_finite, Option.some.injEq] at ranked
  have rest : magnitude.quanta % quantaPerOne = 0 := by
    rw [← natAbs_signed negative magnitude.quanta, ranked, Int.natAbs_mul, Int.natAbs_natCast,
      Nat.mul_mod_left]
  rw [floor, ceil, Magnitude.floor_of_whole rest, Magnitude.ceil_of_whole rest, ite_self]
  exact ⟨rfl, rfl⟩

end Double

end StyleNumber
