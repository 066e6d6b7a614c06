import StyleNumber.Proofs.Double.Exact
import StyleNumber.Proofs.Double.Scaling

/-! # Hash keys of doubles

The key of a double is a product, rounded to a whole number and cast to 64 bits, and none of these
steps changes the order of doubles (`Double.hashKey_le_hashKey`). The product of a large double is
rounded by more than one key. But large doubles lie on a grid coarser than the tolerance, so close
doubles are in the same place or small (`Double.Close.abs_lt_of_ne`), and the product of a small
one is rounded by less than a key. Hence the keys of close doubles differ by at most one
(`Double.Close.abs_hashKey_sub_le`).
-/

namespace StyleNumber

private theorem Magnitude.onesNearest_eq (magnitude : Magnitude) :
    magnitude.onesNearest = (2 * magnitude.quanta + quantaPerOne) / (2 * quantaPerOne) := by
  have whole := Nat.div_add_mod magnitude.quanta quantaPerOne
  have small := Nat.mod_lt magnitude.quanta quantaPerOne_pos
  rw [onesNearest, onesBelow]
  generalize magnitude.quanta % quantaPerOne = rest at whole small ⊢
  generalize magnitude.quanta / quantaPerOne = ones at whole ⊢
  rw [← whole]
  symm
  split
  · exact Nat.div_eq_of_lt_le (by linarith) (by linarith)
  · exact Nat.div_eq_of_lt_le (by linarith) (by linarith)

namespace Double

/-! ## Order -/

private theorem round_ne_nan {number : Double} (isNumber : number ≠ nan) : number.round ≠ nan := by
  cases number with
  | nan => exact (isNumber rfl).elim
  | infinite negative => exact isNumber
  | finite negative magnitude => exact Double.noConfusion

/-- Rounding to whole doubles keeps their order. -/
theorem round_le_round {low high : Double} (ordered : low ≤ high) : low.round ≤ high.round := by
  obtain ⟨lowNumber, highNumber⟩ := ne_nan_of_le ordered
  rcases le_cases ordered with rfl | rfl | ⟨lowNegative, highNegative, m, n, rfl, rfl, places⟩
  · exact infinite_le_of_ne_nan (round_ne_nan highNumber)
  · exact le_infinite_of_ne_nan (round_ne_nan lowNumber)
  · have monotone : Monotone fun quanta : ℕ =>
        (2 * quanta + quantaPerOne) / (2 * quantaPerOne) * quantaPerOne := fun least most below =>
      Nat.mul_le_mul_right _ (Nat.div_le_div_right (by omega))
    have zero : (2 * 0 + quantaPerOne) / (2 * quantaPerOne) * quantaPerOne = 0 := by
      have positive := quantaPerOne_pos
      rw [Nat.div_eq_of_lt (by omega), Nat.zero_mul]
    have kept := signed_le_signed (fun _ => monotone) (fun _ => zero) places
    simp only [← Magnitude.onesNearest_eq] at kept
    exact (le_iff (rank?_finite lowNegative m.round) (rank?_finite highNegative n.round)).mpr kept

private theorem toInt64_mem (number : Double) :
    minInt64 ≤ number.toInt64 ∧ number.toInt64 ≤ maxInt64 := by
  have ends : minInt64 ≤ maxInt64 := by decide
  have zero : minInt64 ≤ 0 ∧ 0 ≤ maxInt64 := by decide
  cases number with
  | nan => exact zero
  | infinite negative =>
    cases negative with
    | false => exact ⟨ends, le_rfl⟩
    | true => exact ⟨le_rfl, ends⟩
  | finite negative magnitude =>
    rw [toInt64]
    omega

/-- The saturating cast keeps the order of doubles. -/
theorem toInt64_le_toInt64 {low high : Double} (ordered : low ≤ high) :
    low.toInt64 ≤ high.toInt64 := by
  rcases le_cases ordered with rfl | rfl | ⟨lowNegative, highNegative, m, n, rfl, rfl, places⟩
  · exact (toInt64_mem high).1
  · exact (toInt64_mem low).2
  · have monotone : Monotone fun quanta : ℕ => quanta / quantaPerOne := fun least most below =>
      Nat.div_le_div_right below
    have kept := signed_le_signed (fun _ => monotone) (fun _ => Nat.zero_div quantaPerOne) places
    exact max_le_max_left _ (min_le_min_right _ kept)

/-- The keys in one. -/
def keysPerOne : ℕ :=
  tenPow 10

private theorem representable_keysPerOne : Representable (keysPerOne * quantaPerOne) :=
  ⟨keysPerOne, 1074, by decide, by decide, by rw [quantaPerOne]⟩

/-- The factor of hash keys, as a magnitude. -/
def keyMagnitude : Magnitude :=
  ⟨keysPerOne * quantaPerOne, representable_keysPerOne⟩

private theorem quanta_keyMagnitude : keyMagnitude.quanta = keysPerOne * quantaPerOne := by
  simp only [keyMagnitude]

private theorem keyFactor_eq : (1e10 : Double) = finite false keyMagnitude := by
  have count : 1 * tenPow 10 * quantaPerOne = keyMagnitude.quanta := by
    rw [Nat.one_mul, quanta_keyMagnitude, keysPerOne]
  simp only [OfScientific.ofScientific, Bool.false_eq_true, ↓reduceIte]
  rw [count, ofRatio_quanta]

/-- **Hash keys keep the order of doubles.** -/
theorem hashKey_le_hashKey {low high : Double} (ordered : low ≤ high) :
    low.hashKey ≤ high.hashKey := by
  have positive : (finite false keyMagnitude).IsPositive := by
    rw [IsPositive, quanta_keyMagnitude]
    exact Nat.mul_pos (tenPow_pos 10) quantaPerOne_pos
  rw [hashKey, hashKey, keyFactor_eq]
  exact toInt64_le_toInt64 (round_le_round (mul_le_mul_of_isPositive ordered positive))

/-! ## Close doubles -/

/-- Doubles that are close without being in the same place are small. -/
theorem Close.abs_lt_of_ne {left right : Double} {low high : ℤ} (close : left.Close right)
    (leftRank : left.rank? = some low) (rightRank : right.rank? = some high) (differ : low ≠ high) :
    |low| < twoPow 1091 := by
  have near := (close.abs_sub_lt leftRank rightRank).trans_le tolerance_le_near
  obtain ⟨leftNegative, m, rfl⟩ := exists_eq_finite close.isFinite.1
  obtain ⟨rightNegative, n, rfl⟩ := exists_eq_finite close.isFinite.2
  rw [rank?_finite, Option.some.injEq] at leftRank rightRank
  by_contra large
  have leftSize : |low| = m.quanta := by rw [← leftRank, abs_signed]
  have rightSize : |high| = n.quanta := by rw [← rightRank, abs_signed]
  have triangle := abs_sub_abs_le_abs_sub low high
  have doubled : twoPow 1091 = twoPow (52 + 1038) * 2 := twoPow_succ (52 + 1038)
  have finer : nearQuanta ≤ twoPow (52 + 1038) := twoPow_le_twoPow (by decide)
  have leftDivides : (twoPow 1038 : ℤ) ∣ low := by
    rw [← leftRank]
    exact dvd_signed leftNegative (m.representable.twoPow_dvd (by omega))
  have rightDivides : (twoPow 1038 : ℤ) ∣ high := by
    rw [← rightRank]
    exact dvd_signed rightNegative (n.representable.twoPow_dvd (by omega))
  have same := Int.eq_zero_of_abs_lt_dvd (dvd_sub leftDivides rightDivides) near
  exact differ (sub_eq_zero.mp same)

private theorem rank?_mul_keyFactor (negative : Bool) (magnitude : Magnitude) :
    (finite negative magnitude * 1e10).rank? =
      some (nearestRank (signed negative magnitude.quanta * keysPerOne) 1) := by
  have scaled :=
    nearestRank_scale (signed negative magnitude.quanta * keysPerOne) 1 quantaPerOne_pos
  rw [Nat.one_mul, mul_assoc, ← Nat.cast_mul] at scaled
  rw [keyFactor_eq, rank?_mul, signed_false, quanta_keyMagnitude, scaled]

/-- Multiplying a small double gives a finite one near the exact product. -/
theorem exists_mul_keyFactor_eq {negative : Bool} {magnitude : Magnitude}
    (small : |signed negative magnitude.quanta| < twoPow 1091) :
    ∃ sign product, finite negative magnitude * 1e10 = finite sign product ∧
      2 * |signed sign product.quanta - signed negative magnitude.quanta * keysPerOne| ≤
        twoPow 1072 := by
  have ranked := rank?_mul_keyFactor negative magnitude
  have bits : keysPerOne ≤ twoPow 34 := by decide
  have fits : |signed negative magnitude.quanta * (keysPerOne : ℤ)| < twoPow (53 + 1072) := by
    rw [abs_mul, Nat.abs_cast]
    calc |signed negative magnitude.quanta| * (keysPerOne : ℤ)
        ≤ |signed negative magnitude.quanta| * twoPow 34 :=
          mul_le_mul_of_nonneg_left (by exact_mod_cast bits) (abs_nonneg _)
      _ < twoPow 1091 * twoPow 34 :=
          mul_lt_mul_of_pos_right small (by exact_mod_cast twoPow_pos 34)
      _ = twoPow (53 + 1072) := by exact_mod_cast (twoPow_add 1091 34).symm
  have error := abs_nearestRank_sub_le fits (by decide)
  have bounded : (finite negative magnitude * 1e10).isFinite := by
    apply isFinite_of_abs_lt ranked
    have triangle := abs_sub_abs_le_abs_sub
      (nearestRank (signed negative magnitude.quanta * keysPerOne) 1)
      (signed negative magnitude.quanta * keysPerOne)
    have doubled := twoPow_succ (53 + 1072)
    have spacing : twoPow 1072 ≤ twoPow (53 + 1072) := twoPow_le_twoPow (by decide)
    have limit : twoPow (53 + 1072 + 1) ≤ overflowQuanta := by
      rw [overflowQuanta]
      exact twoPow_le_twoPow (by decide)
    omega
  obtain ⟨sign, product, isProduct⟩ := exists_eq_finite bounded
  rw [isProduct, rank?_finite, Option.some.injEq] at ranked
  rw [← ranked] at error
  exact ⟨sign, product, isProduct, error⟩

/-- Doubles less than one apart are rounded to the same whole number or to neighbours. -/
theorem abs_onesNearest_sub_le {left right : Bool} {m n : Magnitude}
    (near : |signed left m.quanta - signed right n.quanta| < quantaPerOne) :
    |signed left m.onesNearest - signed right n.onesNearest| ≤ 1 := by
  have halves := two_mul_halfQuanta
  have leftHalf := abs_sub_onesNearest_le left m
  have rightHalf := abs_sub_onesNearest_le right n
  have apart : |signed left m.onesNearest - signed right n.onesNearest| * (quantaPerOne : ℤ) <
      2 * quantaPerOne := by
    rw [← Nat.abs_cast quantaPerOne, ← abs_mul, Nat.abs_cast, sub_mul]
    rw [abs_le] at leftHalf rightHalf
    rw [abs_lt] at near ⊢
    constructor <;> omega
  have below := lt_of_mul_lt_mul_right apart (Nat.cast_nonneg _)
  omega

private theorem hashKey_eq {number : Double} {sign : Bool} {product : Magnitude}
    (isProduct : number * 1e10 = finite sign product) :
    number.hashKey = max minInt64 (min (signed sign product.onesNearest) maxInt64) := by
  rw [hashKey, isProduct, (isWhole_round rfl).toInt64_eq (exact_round sign product)]

private theorem tolerance_mul_keysPerOne_le : toleranceQuanta * keysPerOne ≤ twoPow 1072 := by
  have bits : keysPerOne ≤ twoPow 34 := by decide
  calc toleranceQuanta * keysPerOne
      ≤ nearQuanta * twoPow 34 := Nat.mul_le_mul toleranceQuanta_le bits
    _ = twoPow 1072 := by rw [nearQuanta, ← twoPow_add]

/-- **The keys of close doubles** differ by at most one. -/
theorem Close.abs_hashKey_sub_le {left right : Double} (close : left.Close right) :
    |left.hashKey - right.hashKey| ≤ 1 := by
  have rightClose := (close_comm left right).mp close
  obtain ⟨leftNegative, m, rfl⟩ := exists_eq_finite close.isFinite.1
  obtain ⟨rightNegative, n, rfl⟩ := exists_eq_finite close.isFinite.2
  have leftRank := rank?_finite leftNegative m
  have rightRank := rank?_finite rightNegative n
  by_cases same : signed leftNegative m.quanta = signed rightNegative n.quanta
  · have up := hashKey_le_hashKey ((le_iff leftRank rightRank).mpr same.le)
    have down := hashKey_le_hashKey ((le_iff rightRank leftRank).mpr same.ge)
    rw [le_antisymm up down, sub_self, abs_zero]
    exact zero_le_one
  · obtain ⟨leftSign, p, leftProduct, leftError⟩ :=
      exists_mul_keyFactor_eq (close.abs_lt_of_ne leftRank rightRank same)
    obtain ⟨rightSign, q, rightProduct, rightError⟩ :=
      exists_mul_keyFactor_eq (rightClose.abs_lt_of_ne rightRank leftRank (Ne.symm same))
    have distance := close.abs_sub_lt leftRank rightRank
    have near : |signed leftSign p.quanta - signed rightSign q.quanta| < quantaPerOne := by
      have exactly : |signed leftNegative m.quanta * (keysPerOne : ℤ) -
          signed rightNegative n.quanta * keysPerOne| ≤ (toleranceQuanta * keysPerOne : ℕ) := by
        rw [← sub_mul, abs_mul, Nat.abs_cast, Nat.cast_mul]
        exact mul_le_mul_of_nonneg_right distance.le (Nat.cast_nonneg _)
      have scaled := tolerance_mul_keysPerOne_le
      have quarter : quantaPerOne = twoPow 2 * twoPow 1072 := by rw [quantaPerOne, ← twoPow_add]
      have four : twoPow 2 = 4 := rfl
      rw [four] at quarter
      have positive := twoPow_pos 1072
      generalize signed leftNegative m.quanta * (keysPerOne : ℤ) = leftExact at *
      generalize signed rightNegative n.quanta * (keysPerOne : ℤ) = rightExact at *
      have toExact := abs_sub_le (signed leftSign p.quanta) leftExact (signed rightSign q.quanta)
      have fromExact := abs_sub_le leftExact rightExact (signed rightSign q.quanta)
      rw [abs_sub_comm rightExact] at fromExact
      omega
    have wholes := abs_onesNearest_sub_le near
    rw [hashKey_eq leftProduct, hashKey_eq rightProduct]
    rw [abs_le] at wholes ⊢
    omega

end Double

end StyleNumber
