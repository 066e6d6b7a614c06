import Mathlib
import StyleNumber.Double.Arithmetic
import StyleNumber.Double.Rounding

/-! # Rounding along the line of quanta

A sum or product of finite doubles has an exact place between the signed quanta, and its
rank is that place rounded to the nearest place of a double (`Double.rank?_add`,
`Double.rank?_mul`). Rounding is the same on both sides of zero (`nearestRank_neg`), keeps
the order of places (`nearestRank_le_nearestRank`), stays where there is a double
already (`nearestRank_of_representable`), and moves no place by more than half the spacing of
doubles of its size (`abs_nearestRank_sub_le`).
-/

namespace StyleNumber

/-- The other sign gives the opposite place. -/
theorem signed_not (negative : Bool) (count : ℕ) :
    signed (!negative) count = -signed negative count := by
  cases negative <;> simp [signed]

/-- Without a sign a count is a place as it stands. -/
theorem signed_false (count : ℕ) : signed false count = count := rfl

/-- Zero has one place, whatever its sign. -/
theorem signed_zero (negative : Bool) : signed negative 0 = 0 := by
  cases negative <;> rfl

/-- A place is as far from zero as its count says. -/
theorem abs_signed (negative : Bool) (count : ℕ) : |signed negative count| = count := by
  cases negative <;> simp [signed]

/-- Distances on one side of zero are distances of counts. -/
theorem abs_signed_sub_signed (negative : Bool) (first second : ℕ) :
    |signed negative first - signed negative second| = |(first - second : ℤ)| := by
  cases negative with
  | false => rfl
  | true =>
    simp only [signed, ↓reduceIte]
    rw [neg_sub_neg, abs_sub_comm]

/-- A place lies below zero when it has a sign and a count that is not zero. -/
theorem signed_neg_iff (negative : Bool) (count : ℕ) :
    signed negative count < 0 ↔ negative ∧ count ≠ 0 := by
  cases negative with
  | false => simp [signed]
  | true =>
    simp only [signed, ↓reduceIte, true_and]
    omega

/-- Except for zero, a place determines its sign. -/
theorem eq_of_signed_eq {left right : Bool} {count : ℕ} (positive : 0 < count)
    (same : signed left count = signed right count) : left = right := by
  cases left <;> cases right <;> simp only [signed, Bool.false_eq_true, ↓reduceIte] at same ⊢ <;>
    omega

/-- Every place is the signed count of its distance from zero. -/
theorem signed_natAbs (place : ℤ) : signed (decide (place < 0)) place.natAbs = place := by
  by_cases negative : place < 0
  · rw [decide_eq_true negative, signed, if_pos rfl]
    omega
  · rw [decide_eq_false negative, signed_false]
    omega

private theorem signed_mul_signed (left right : Bool) (first second : ℕ) :
    signed left first * signed right second = signed (left != right) (first * second) := by
  cases left <;> cases right <;> simp [signed]

/-- Multiplying a count multiplies its place. -/
theorem signed_mul (negative : Bool) (count factor : ℕ) :
    signed negative (count * factor) = signed negative count * factor := by
  rw [← signed_false factor, signed_mul_signed, Bool.bne_false]

/-- What keeps the order of counts and keeps zero, on either side of zero, also keeps the order of
places. -/
theorem signed_le_signed {change : Bool → ℕ → ℕ} (monotone : ∀ negative, Monotone (change negative))
    (zero : ∀ negative, change negative 0 = 0) {left right : Bool} {m n : ℕ}
    (ordered : signed left m ≤ signed right n) :
    signed left (change left m) ≤ signed right (change right n) := by
  cases left <;> cases right <;>
    simp only [signed, Bool.false_eq_true, ↓reduceIte] at ordered ⊢
  · exact_mod_cast monotone false (by omega)
  · obtain ⟨rfl, rfl⟩ : m = 0 ∧ n = 0 := by omega
    rw [zero, zero, Nat.cast_zero, neg_zero]
  · omega
  · exact neg_le_neg (by exact_mod_cast monotone true (by omega))

/-- The rank of the double nearest to a signed ratio of quanta; that of an infinity when
it overflows. -/
def nearestRank (quanta : ℤ) (denominator : ℕ) : ℤ :=
  quanta.sign * min (roundToGrid quanta.natAbs denominator) overflowQuanta

private theorem nearestRank_neg (quanta : ℤ) (denominator : ℕ) :
    nearestRank (-quanta) denominator = -nearestRank quanta denominator := by
  rw [nearestRank, nearestRank, Int.sign_neg, Int.natAbs_neg, neg_mul]

/-- Zero is rounded to zero. -/
theorem nearestRank_zero (denominator : ℕ) : nearestRank 0 denominator = 0 := by
  rw [nearestRank, Int.sign_zero, zero_mul]

private theorem roundToGrid_zero (denominator : ℕ) : roundToGrid 0 denominator = 0 := by
  simp [roundToGrid, nearestEven]

private theorem nearestRank_natCast (quanta denominator : ℕ) :
    nearestRank quanta denominator = min (roundToGrid quanta denominator) overflowQuanta := by
  cases quanta with
  | zero => rw [Nat.cast_zero, nearestRank_zero, roundToGrid_zero, Nat.zero_min, Nat.cast_zero]
  | succ quanta =>
    rw [nearestRank, Int.natAbs_natCast, Nat.cast_succ, Int.sign_natCast_add_one, one_mul]

private theorem nearestRank_signed (negative : Bool) (count denominator : ℕ) :
    nearestRank (signed negative count) denominator =
      signed negative (min (roundToGrid count denominator) overflowQuanta) := by
  cases negative with
  | false => exact nearestRank_natCast count denominator
  | true =>
    simp only [signed, ↓reduceIte]
    rw [nearestRank_neg, nearestRank_natCast]

/-- Rounding keeps the order of places. -/
theorem nearestRank_le_nearestRank {low high : ℤ} (ordered : low ≤ high) {denominator : ℕ}
    (positive : 0 < denominator) :
    nearestRank low denominator ≤ nearestRank high denominator := by
  have rounded {least most : ℕ} (below : least ≤ most) :
      min (roundToGrid least denominator) overflowQuanta ≤
        min (roundToGrid most denominator) overflowQuanta :=
    min_le_min_right _ (roundToGrid_le_roundToGrid positive positive
      (Nat.mul_le_mul_right _ below))
  obtain ⟨least, rfl | rfl⟩ := low.eq_nat_or_neg <;>
    obtain ⟨most, rfl | rfl⟩ := high.eq_nat_or_neg <;>
    simp only [nearestRank_neg, nearestRank_natCast]
  · exact_mod_cast rounded (by omega)
  · obtain ⟨rfl, rfl⟩ : least = 0 ∧ most = 0 := by omega
    simp [roundToGrid_zero]
  · omega
  · exact neg_le_neg (by exact_mod_cast rounded (by omega))

/-- A place that a double holds is nearest to itself. -/
theorem nearestRank_of_representable {quanta : ℕ} (held : Representable quanta) :
    nearestRank quanta 1 = quanta := by
  rw [nearestRank_natCast, roundToGrid_of_representable held,
    min_eq_left held.lt_overflowQuanta.le]

/-- A place that a double has, with either sign, is not moved by rounding. -/
theorem nearestRank_of_representable_natAbs {place : ℤ} (held : Representable place.natAbs) :
    nearestRank place 1 = place := by
  rcases place.natAbs_eq with positive | negative
  · rw [positive]
    exact nearestRank_of_representable held
  · rw [negative, nearestRank_neg, nearestRank_of_representable held]

/-- Rounding keeps the order of sizes. -/
theorem abs_nearestRank_le_abs_nearestRank {near far : ℤ} (nearer : |near| ≤ |far|)
    {denominator : ℕ} (positive : 0 < denominator) :
    |nearestRank near denominator| ≤ |nearestRank far denominator| := by
  obtain ⟨above, below⟩ := abs_le.mp nearer
  have lower := nearestRank_le_nearestRank above positive
  have upper := nearestRank_le_nearestRank below positive
  rw [nearestRank_neg] at lower
  have same : |nearestRank |far| denominator| = |nearestRank far denominator| := by
    rcases abs_choice far with isFar | isOpposite
    · rw [isFar]
    · rw [isOpposite, nearestRank_neg, abs_neg]
  rw [← same]
  exact abs_le.mpr ⟨(neg_le_neg (le_abs_self _)).trans lower, upper.trans (le_abs_self _)⟩

/-- Only the ratio matters for rounding. -/
theorem nearestRank_scale (quanta : ℤ) (denominator : ℕ) {factor : ℕ} (positive : 0 < factor) :
    nearestRank (quanta * factor) (denominator * factor) = nearestRank quanta denominator := by
  rw [nearestRank, nearestRank, Int.sign_mul, Int.sign_natCast_of_ne_zero positive.ne', mul_one,
    Int.natAbs_mul, Int.natAbs_natCast, roundToGrid_scale _ _ positive]

/-- A count of at most 53 bits on a grid has no coarser grid of its own. -/
theorem gridExponent_le {quanta exponent : ℕ} (small : quanta < twoPow (53 + exponent)) :
    gridExponent quanta ≤ exponent := by
  by_cases coarse : 0 < gridExponent quanta
  · have reached := twoPow_gridExponent_le coarse
    rw [← twoPow_add] at reached
    have := lt_of_twoPow_lt (reached.trans_lt small)
    omega
  · omega

/-- Rounding moves a count by at most half the spacing of its grid. -/
theorem abs_roundToGrid_sub_le (quanta : ℕ) :
    2 * |(roundToGrid quanta 1 : ℤ) - quanta| ≤ twoPow (gridExponent quanta) := by
  have up := nearestEven_two_mul_le quanta (twoPow (gridExponent quanta))
  have down := two_mul_le_nearestEven quanta (twoPow_pos (gridExponent quanta))
  have rounded : roundToGrid quanta 1 =
      twoPow (gridExponent quanta) * nearestEven quanta (twoPow (gridExponent quanta)) := by
    rw [roundToGrid, Nat.div_one, Nat.one_mul, Nat.mul_comm]
  rw [← rounded] at up down
  rcases abs_cases (roundToGrid quanta 1 - quanta : ℤ) with ⟨isAbs, _⟩ | ⟨isAbs, _⟩ <;> omega

/-- Rounding moves a place by at most half the spacing of a grid that it fits. -/
theorem abs_nearestRank_sub_le {place : ℤ} {exponent : ℕ} (small : |place| < twoPow (53 + exponent))
    (bounded : exponent ≤ 2045) : 2 * |nearestRank place 1 - place| ≤ twoPow exponent := by
  have unsigned (quanta : ℕ) (fits : quanta < twoPow (53 + exponent)) :
      2 * |nearestRank quanta 1 - quanta| ≤ twoPow exponent := by
    have finer := gridExponent_le fits
    have most := roundToGrid_le quanta 1
    have limit : twoPow (53 + gridExponent quanta) ≤ overflowQuanta := twoPow_le_twoPow (by omega)
    rw [Nat.div_one] at most
    rw [nearestRank_natCast, min_eq_left (most.trans limit)]
    exact (abs_roundToGrid_sub_le quanta).trans (Nat.cast_le.mpr (twoPow_le_twoPow finer))
  rw [Int.abs_eq_natAbs, Nat.cast_lt] at small
  rcases place.natAbs_eq with isPlace | isPlace
  · rw [isPlace]
    exact unsigned _ small
  · rw [isPlace, nearestRank_neg, ← neg_sub', abs_neg]
    exact unsigned _ small

/-- What is rounded to within a held bound lies within it. -/
theorem abs_lt_of_abs_nearestRank_lt {place : ℤ} {bound : ℕ} (held : Representable bound)
    (rounded : |nearestRank place 1| < bound) : |place| < bound := by
  by_contra outside
  have reached : |nearestRank bound 1| ≤ |nearestRank place 1| := by
    apply abs_nearestRank_le_abs_nearestRank _ one_pos
    rw [Nat.abs_cast]
    exact not_lt.mp outside
  rw [nearestRank_of_representable held, Nat.abs_cast] at reached
  exact rounded.not_ge reached

namespace Double

/-- Infinities take the first places that no finite double has. -/
theorem rank?_infinite (negative : Bool) :
    (infinite negative).rank? = some (signed negative overflowQuanta) := rfl

/-- A finite double takes the place of its signed quanta. -/
theorem rank?_finite (negative : Bool) (magnitude : Magnitude) :
    (finite negative magnitude).rank? = some (signed negative magnitude.quanta) := rfl

/-- Only not-a-number has no place. -/
theorem exists_rank?_eq_some {number : Double} (isNumber : number ≠ nan) :
    ∃ rank, number.rank? = some rank := by
  cases number with
  | nan => exact (isNumber rfl).elim
  | infinite negative => exact ⟨_, rank?_infinite negative⟩
  | finite negative magnitude => exact ⟨_, rank?_finite negative magnitude⟩

/-- A double whose place lies between those of the infinities is finite. -/
theorem isFinite_of_abs_lt {number : Double} {rank : ℤ} (ranked : number.rank? = some rank)
    (bounded : |rank| < overflowQuanta) : number.isFinite := by
  cases number with
  | nan => cases ranked
  | infinite negative =>
    rw [rank?_infinite, Option.some.injEq] at ranked
    rw [← ranked, abs_signed] at bounded
    exact (lt_irrefl _ bounded).elim
  | finite negative magnitude => rfl

/-- Doubles that are ordered have a place. -/
theorem exists_ranks_of_lt {left right : Double} (less : left < right) :
    ∃ low high, left.rank? = some low ∧ right.rank? = some high ∧ low < high := by
  have leftNumber : left ≠ nan := by
    rintro rfl
    exact not_nan_lt right less
  have rightNumber : right ≠ nan := by
    rintro rfl
    exact not_lt_nan left less
  obtain ⟨low, leftRank⟩ := exists_rank?_eq_some leftNumber
  obtain ⟨high, rightRank⟩ := exists_rank?_eq_some rightNumber
  exact ⟨low, high, leftRank, rightRank, (lt_iff leftRank rightRank).mp less⟩

/-- The order of doubles is strict. -/
protected theorem lt_asymm {left right : Double} (less : left < right) : ¬right < left := by
  obtain ⟨low, high, leftRank, rightRank, below⟩ := exists_ranks_of_lt less
  rw [lt_iff rightRank leftRank]
  exact below.le.not_gt

/-- Only numbers are ordered. -/
theorem ne_nan_of_le {left right : Double} (ordered : left ≤ right) :
    left ≠ nan ∧ right ≠ nan := by
  constructor
  · rintro rfl
    exact ordered
  · rintro rfl
    cases left <;> exact ordered

/-- Doubles of which one is no greater than the other have a place. -/
theorem exists_ranks_of_le {left right : Double} (ordered : left ≤ right) :
    ∃ low high, left.rank? = some low ∧ right.rank? = some high ∧ low ≤ high := by
  obtain ⟨leftNumber, rightNumber⟩ := ne_nan_of_le ordered
  obtain ⟨low, leftRank⟩ := exists_rank?_eq_some leftNumber
  obtain ⟨high, rightRank⟩ := exists_rank?_eq_some rightNumber
  exact ⟨low, high, leftRank, rightRank, (le_iff leftRank rightRank).mp ordered⟩

/-- Every number is at most itself. -/
protected theorem le_refl {number : Double} (isNumber : number ≠ nan) : number ≤ number := by
  obtain ⟨rank, ranked⟩ := exists_rank?_eq_some isNumber
  exact (le_iff ranked ranked).mpr le_rfl

/-- The strict order of doubles implies the other. -/
protected theorem le_of_lt {left right : Double} (less : left < right) : left ≤ right := by
  obtain ⟨low, high, leftRank, rightRank, below⟩ := exists_ranks_of_lt less
  exact (le_iff leftRank rightRank).mpr below.le

/-- The order of doubles is transitive. -/
protected theorem le_trans {first second third : Double} (lower : first ≤ second)
    (upper : second ≤ third) : first ≤ third := by
  obtain ⟨low, middle, firstRank, secondRank, below⟩ := exists_ranks_of_le lower
  obtain ⟨_, high, _, thirdRank, _⟩ := exists_ranks_of_le upper
  rw [le_iff secondRank thirdRank] at upper
  exact (le_iff firstRank thirdRank).mpr (below.trans upper)

/-- A double that is at most one that is less than a third is less than the third. -/
protected theorem lt_of_le_of_lt {first second third : Double} (lower : first ≤ second)
    (upper : second < third) : first < third := by
  obtain ⟨low, middle, firstRank, secondRank, below⟩ := exists_ranks_of_le lower
  obtain ⟨_, high, _, thirdRank, _⟩ := exists_ranks_of_lt upper
  rw [lt_iff secondRank thirdRank] at upper
  exact (lt_iff firstRank thirdRank).mpr (below.trans_lt upper)

/-- A double that is less than one that is at most a third is less than the third. -/
protected theorem lt_of_lt_of_le {first second third : Double} (lower : first < second)
    (upper : second ≤ third) : first < third := by
  obtain ⟨low, middle, firstRank, secondRank, below⟩ := exists_ranks_of_lt lower
  obtain ⟨_, high, _, thirdRank, _⟩ := exists_ranks_of_le upper
  rw [le_iff secondRank thirdRank] at upper
  exact (lt_iff firstRank thirdRank).mpr (below.trans_le upper)

/-- The order of numbers is total. -/
protected theorem le_of_not_lt {left right : Double} (leftNumber : left ≠ nan)
    (rightNumber : right ≠ nan) (notLess : ¬left < right) : right ≤ left := by
  obtain ⟨low, leftRank⟩ := exists_rank?_eq_some leftNumber
  obtain ⟨high, rightRank⟩ := exists_rank?_eq_some rightNumber
  rw [lt_iff leftRank rightRank] at notLess
  exact (le_iff rightRank leftRank).mpr (not_lt.mp notLess)

private theorem rank?_neg (number : Double) : (-number).rank? = number.rank?.map (-·) := by
  cases number with
  | nan => rfl
  | infinite negative => exact congrArg some (signed_not negative overflowQuanta)
  | finite negative magnitude => exact congrArg some (signed_not negative magnitude.quanta)

/-- Negation reverses the order of doubles. -/
protected theorem neg_le_neg {left right : Double} (ordered : left ≤ right) : -right ≤ -left := by
  obtain ⟨low, high, leftRank, rightRank, below⟩ := exists_ranks_of_le ordered
  have leftOpposite : (-left).rank? = some (-low) := by rw [rank?_neg, leftRank, Option.map_some]
  have rightOpposite : (-right).rank? = some (-high) := by
    rw [rank?_neg, rightRank, Option.map_some]
  rw [le_iff rightOpposite leftOpposite]
  exact Int.neg_le_neg below

/-- The absolute value of a double takes the place that is as far from zero, above it. -/
theorem rank?_abs (number : Double) : number.abs.rank? = number.rank?.map (|·|) := by
  cases number with
  | nan => rfl
  | infinite negative =>
    rw [Double.abs, rank?_infinite, rank?_infinite, Option.map_some, abs_signed, signed_false]
  | finite negative magnitude =>
    rw [Double.abs, rank?_finite, rank?_finite, Option.map_some, abs_signed, signed_false]

/-- A ratio rounds to a finite double if its nearest grid point does not overflow. -/
theorem ofRatio_of_lt (negative : Bool) {numerator denominator : ℕ}
    (bounded : roundToGrid numerator denominator < overflowQuanta) :
    ofRatio negative numerator denominator =
      finite negative ⟨_, representable_roundToGrid bounded⟩ := by
  unfold ofRatio Magnitude.nearest?
  rw [dif_pos bounded]

/-- A ratio rounds to an infinity if its nearest grid point overflows. -/
theorem ofRatio_of_le (negative : Bool) {numerator denominator : ℕ}
    (overflows : overflowQuanta ≤ roundToGrid numerator denominator) :
    ofRatio negative numerator denominator = infinite negative := by
  unfold ofRatio Magnitude.nearest?
  rw [dif_neg (Nat.not_lt.mpr overflows)]

/-- A magnitude is nearest to itself. -/
theorem ofRatio_quanta (negative : Bool) (magnitude : Magnitude) :
    ofRatio negative magnitude.quanta 1 = finite negative magnitude := by
  unfold ofRatio
  rw [Magnitude.nearest?_quanta]

/-- Rounding does not look at the sign. -/
theorem abs_ofRatio (negative : Bool) (numerator denominator : ℕ) :
    (ofRatio negative numerator denominator).abs = ofRatio false numerator denominator := by
  unfold ofRatio
  split <;> rfl

/-- A ratio is rounded to the place nearest to it. -/
theorem rank?_ofRatio (negative : Bool) (numerator denominator : ℕ) :
    (ofRatio negative numerator denominator).rank? =
      some (nearestRank (signed negative numerator) denominator) := by
  rw [nearestRank_signed]
  by_cases bounded : roundToGrid numerator denominator < overflowQuanta
  · rw [ofRatio_of_lt negative bounded, rank?_finite, min_eq_left bounded.le]
  · have overflows := Nat.not_lt.mp bounded
    rw [ofRatio_of_le negative overflows, rank?_infinite, min_eq_right overflows]

/-- The sum of finite doubles is the rounded sum of their places; a sum of zero is negative only
if both operands are. -/
theorem add_finite (left right : Bool) (m n : Magnitude) :
    finite left m + finite right n =
      if signed left m.quanta + signed right n.quanta = 0 then zero (left && right)
      else ofRatio (decide (signed left m.quanta + signed right n.quanta < 0))
        (signed left m.quanta + signed right n.quanta).natAbs 1 := by
  change Double.add (finite left m) (finite right n) = _
  rw [Double.add]

/-- A sum takes the place nearest to the sum of the places. -/
theorem rank?_add (left right : Bool) (m n : Magnitude) :
    (finite left m + finite right n).rank? =
      some (nearestRank (signed left m.quanta + signed right n.quanta) 1) := by
  rw [add_finite]
  generalize signed left m.quanta + signed right n.quanta = sum
  split
  · next isZero =>
    rw [isZero, nearestRank_zero]
    exact congrArg some (signed_zero _)
  · rw [rank?_ofRatio, signed_natAbs]

/-- A difference takes the place nearest to the difference of the places. -/
theorem rank?_sub (left right : Bool) (m n : Magnitude) :
    (finite left m - finite right n).rank? =
      some (nearestRank (signed left m.quanta - signed right n.quanta) 1) := by
  have opposite : finite left m - finite right n = finite left m + finite (!right) n := rfl
  rw [opposite, rank?_add, signed_not, sub_eq_add_neg]

/-- The product of finite doubles is the rounded product of their magnitudes, with the product of
their signs. -/
theorem mul_finite (left right : Bool) (m n : Magnitude) :
    finite left m * finite right n =
      ofRatio (left != right) (m.quanta * n.quanta) quantaPerOne := by
  change Double.mul (finite left m) (finite right n) = _
  rw [Double.mul]

/-- A product takes the place nearest to the product of the places. -/
theorem rank?_mul (left right : Bool) (m n : Magnitude) :
    (finite left m * finite right n).rank? =
      some (nearestRank (signed left m.quanta * signed right n.quanta) quantaPerOne) := by
  rw [mul_finite, rank?_ofRatio, signed_mul_signed]

/-- The order of factors does not matter, not to the rounding of their product nor to its sign. -/
protected theorem mul_comm (left right : Double) : left * right = right * left := by
  change Double.mul left right = Double.mul right left
  cases left with
  | nan => cases right <;> rfl
  | infinite negative => cases right <;> simp only [Double.mul, bne_comm]
  | finite negative magnitude => cases right <;> simp only [Double.mul, bne_comm, Nat.mul_comm]

end Double

end StyleNumber
