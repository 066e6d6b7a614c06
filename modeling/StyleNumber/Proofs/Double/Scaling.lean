import StyleNumber.Proofs.Double.Rank

/-! # Multiplication by positive doubles

Multiplying by a finite positive double keeps the order of doubles, with the rounding of
the product and its overflow (`Double.mul_le_mul_of_isPositive`): doubles may fall together
but do not change places. It keeps their signs, too, also where a product is rounded to a zero
(`Double.sign?_mul_of_isPositive`), and products of opposite doubles are opposite
(`Double.neg_mul`).
-/

namespace StyleNumber

namespace Double

/-- Whether a double is finite and greater than zero. -/
def IsPositive : Double → Prop
  | finite false magnitude => 0 < magnitude.quanta
  | _ => False

instance : DecidablePred IsPositive
  | finite false magnitude => inferInstanceAs (Decidable (0 < magnitude.quanta))
  | finite true _ => isFalse id
  | infinite _ => isFalse id
  | nan => isFalse id

private theorem IsPositive.exists_magnitude {factor : Double} (positive : factor.IsPositive) :
    ∃ magnitude : Magnitude, 0 < magnitude.quanta ∧ factor = finite false magnitude := by
  unfold IsPositive at positive
  split at positive
  · exact ⟨_, positive, rfl⟩
  · exact positive.elim

/-- Every place lies between those of the infinities. -/
theorem abs_rank_le {number : Double} {rank : ℤ} (ranked : number.rank? = some rank) :
    |rank| ≤ overflowQuanta := by
  cases number with
  | nan => cases ranked
  | infinite negative =>
    rw [rank?_infinite, Option.some.injEq] at ranked
    rw [← ranked, abs_signed]
  | finite negative magnitude =>
    rw [rank?_finite, Option.some.injEq] at ranked
    rw [← ranked, abs_signed]
    exact_mod_cast magnitude.representable.lt_overflowQuanta.le

private theorem infinite_mul (negative : Bool) {factor : Double} (positive : factor.IsPositive) :
    infinite negative * factor = infinite negative := by
  obtain ⟨magnitude, nonzero, rfl⟩ := positive.exists_magnitude
  change Double.mul _ _ = _
  simp only [Double.mul, nonzero.ne', ↓reduceIte, Bool.bne_false]

private theorem mul_ne_nan {number factor : Double} (isNumber : number ≠ nan)
    (positive : factor.IsPositive) : number * factor ≠ nan := by
  cases number with
  | nan => exact (isNumber rfl).elim
  | infinite negative =>
    rw [infinite_mul negative positive]
    exact isNumber
  | finite negative magnitude =>
    obtain ⟨count, _, rfl⟩ := positive.exists_magnitude
    intro isNan
    have ranked := rank?_mul negative false magnitude count
    rw [isNan] at ranked
    cases ranked

/-- Negative infinity is at most every number. -/
theorem infinite_le_of_ne_nan {number : Double} (isNumber : number ≠ nan) :
    infinite true ≤ number := by
  obtain ⟨rank, ranked⟩ := exists_rank?_eq_some isNumber
  rw [le_iff (rank?_infinite true) ranked, signed, if_pos rfl]
  exact neg_le_of_abs_le (abs_rank_le ranked)

/-- Every number is at most infinity. -/
theorem le_infinite_of_ne_nan {number : Double} (isNumber : number ≠ nan) :
    number ≤ infinite false := by
  obtain ⟨rank, ranked⟩ := exists_rank?_eq_some isNumber
  rw [le_iff ranked (rank?_infinite false), signed_false]
  exact le_of_abs_le (abs_rank_le ranked)

/-- Only infinity is at least infinity. -/
theorem eq_infinite_of_infinite_le {number : Double} (ordered : infinite false ≤ number) :
    number = infinite false := by
  cases number with
  | nan => exact ordered.elim
  | infinite negative =>
    rw [le_iff (rank?_infinite false) (rank?_infinite negative)] at ordered
    cases negative with
    | false => rfl
    | true =>
      have positive : 0 < overflowQuanta := twoPow_pos 2098
      simp only [signed, Bool.false_eq_true, ↓reduceIte] at ordered
      omega
  | finite negative magnitude =>
    rw [le_iff (rank?_infinite false) (rank?_finite negative magnitude), signed_false] at ordered
    have bounded := magnitude.representable.lt_overflowQuanta
    have size := abs_signed negative magnitude.quanta
    have reached := ordered.trans (le_abs_self _)
    omega

/-- Only negative infinity is at most negative infinity. -/
theorem eq_infinite_of_le_infinite {number : Double} (ordered : number ≤ infinite true) :
    number = infinite true := by
  have opposite : -number = infinite false := eq_infinite_of_infinite_le (Double.neg_le_neg ordered)
  cases number with
  | nan => cases opposite
  | infinite negative =>
    cases negative with
    | true => rfl
    | false => cases opposite
  | finite negative magnitude => cases opposite

/-- Doubles in order are finite ones with their places in order, unless one of them is the infinity
on its side. -/
theorem le_cases {low high : Double} (ordered : low ≤ high) :
    low = infinite true ∨ high = infinite false ∨
      ∃ lowNegative highNegative m n, low = finite lowNegative m ∧ high = finite highNegative n ∧
        signed lowNegative m.quanta ≤ signed highNegative n.quanta := by
  cases low with
  | nan => exact ordered.elim
  | infinite negative =>
    cases negative with
    | true => exact .inl rfl
    | false => exact .inr (.inl (eq_infinite_of_infinite_le ordered))
  | finite lowNegative m =>
    cases high with
    | nan => exact ordered.elim
    | infinite negative =>
      cases negative with
      | true => cases eq_infinite_of_le_infinite ordered
      | false => exact .inr (.inl rfl)
    | finite highNegative n =>
      rw [le_iff (rank?_finite lowNegative m) (rank?_finite highNegative n)] at ordered
      exact .inr (.inr ⟨_, _, _, _, rfl, rfl, ordered⟩)

/-- A positive factor keeps doubles in order. -/
theorem mul_le_mul_of_isPositive {left right factor : Double} (ordered : left ≤ right)
    (positive : factor.IsPositive) : left * factor ≤ right * factor := by
  obtain ⟨leftNumber, rightNumber⟩ := ne_nan_of_le ordered
  have leftProduct := mul_ne_nan leftNumber positive
  have rightProduct := mul_ne_nan rightNumber positive
  rcases le_cases ordered with rfl | rfl | ⟨leftNegative, rightNegative, m, n, rfl, rfl, places⟩
  · rw [infinite_mul true positive]
    exact infinite_le_of_ne_nan rightProduct
  · rw [infinite_mul false positive]
    exact le_infinite_of_ne_nan leftProduct
  · obtain ⟨magnitude, nonzero, rfl⟩ := positive.exists_magnitude
    rw [le_iff (rank?_mul leftNegative false m magnitude)
      (rank?_mul rightNegative false n magnitude)]
    refine nearestRank_le_nearestRank ?_ quantaPerOne_pos
    rw [signed_false]
    exact mul_le_mul_of_nonneg_right places (Nat.cast_nonneg _)

/-! ## Signs -/

/-- The sign of a double, that of a zero or an infinity included; not-a-number has none. -/
def sign? : Double → Option Bool
  | nan => none
  | infinite negative | finite negative _ => some negative

private theorem sign?_ofRatio (negative : Bool) (numerator denominator : ℕ) :
    (ofRatio negative numerator denominator).sign? = some negative := by
  unfold ofRatio
  split <;> rfl

private theorem neg_ofRatio (negative : Bool) (numerator denominator : ℕ) :
    -ofRatio negative numerator denominator = ofRatio (!negative) numerator denominator := by
  unfold ofRatio
  split <;> rfl

/-- A positive factor keeps the sign, also of what is rounded to zero. -/
theorem sign?_mul_of_isPositive (number : Double) {factor : Double} (positive : factor.IsPositive) :
    (number * factor).sign? = number.sign? := by
  cases number with
  | nan => rfl
  | infinite negative => rw [infinite_mul negative positive]
  | finite negative magnitude =>
    obtain ⟨count, _, rfl⟩ := positive.exists_magnitude
    rw [mul_finite, sign?_ofRatio, Bool.bne_false, sign?]

/-- The product of the opposite double is the opposite product. -/
protected theorem neg_mul (left right : Double) : -left * right = -(left * right) := by
  have opposite (first second : Bool) : ((!first) != second) = !(first != second) := by
    cases first <;> cases second <;> rfl
  cases left with
  | nan => rfl
  | infinite negative =>
    change Double.mul (infinite !negative) right = Double.neg (Double.mul (infinite negative) right)
    cases right with
    | nan => rfl
    | infinite other => exact congrArg infinite (opposite negative other)
    | finite other count =>
      simp only [Double.mul, opposite]
      split <;> rfl
  | finite negative magnitude =>
    cases right with
    | nan => rfl
    | infinite other =>
      change Double.mul (finite (!negative) magnitude) (infinite other) =
        Double.neg (Double.mul (finite negative magnitude) (infinite other))
      simp only [Double.mul, opposite]
      split <;> rfl
    | finite other count =>
      have negated : -finite negative magnitude = finite (!negative) magnitude := rfl
      rw [negated, mul_finite, mul_finite, neg_ofRatio, opposite]

end Double

end StyleNumber
