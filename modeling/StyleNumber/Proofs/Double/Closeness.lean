import StyleNumber.Double.Closeness
import StyleNumber.Proofs.Double.Rank

/-! # Comparison up to a tolerance

Closeness looks at the rounded difference of two doubles, hence is the same from both sides
(`Double.close_comm`) and holds of finite doubles only (`Double.Close.isFinite`). Since a
tolerance is itself a double, close doubles differ by less than it exactly
(`Double.Close.abs_sub_lt`). Two doubles are close or one of them is below the other
(`Double.exactlyOne_of_not_unordered`), except for the pairs that nothing relates
(`Double.Unordered`).
-/

namespace StyleNumber

/-- Exactly one of three statements holds. -/
def ExactlyOne (first second third : Prop) : Prop :=
  (first ∧ ¬second ∧ ¬third) ∨ (¬first ∧ second ∧ ¬third) ∨ (¬first ∧ ¬second ∧ third)

namespace Double

/-- The tolerance in quanta. -/
def toleranceQuanta : ℕ :=
  roundToGrid (1 * quantaPerOne) (tenPow 11)

/-- The tolerance in quanta, by its 53 significant bits. -/
theorem toleranceQuanta_eq : toleranceQuanta = 6189700196426901 * twoPow 985 := by
  decide +kernel

/-- The tolerance is more than nothing. -/
theorem toleranceQuanta_pos : 0 < toleranceQuanta := by
  rw [toleranceQuanta_eq]
  exact Nat.mul_pos (by decide) (twoPow_pos 985)

private theorem toleranceQuanta_lt : toleranceQuanta < overflowQuanta :=
  Representable.lt_overflowQuanta
    ⟨6189700196426901, 985, by decide, by decide, toleranceQuanta_eq⟩

/-- The tolerance as a magnitude. -/
def toleranceMagnitude : Magnitude :=
  ⟨toleranceQuanta, representable_roundToGrid toleranceQuanta_lt⟩

/-- The tolerance is the double of its magnitude. -/
theorem tolerance_eq : tolerance = finite false toleranceMagnitude := by
  simp only [tolerance, OfScientific.ofScientific, ↓reduceIte]
  exact ofRatio_of_lt false toleranceQuanta_lt

/-- The place of the tolerance on the line of doubles. -/
theorem rank?_tolerance : tolerance.rank? = some ↑toleranceQuanta :=
  congrArg rank? tolerance_eq

/-- Two doubles that no comparison relates: one is not-a-number, or both are the same
infinity. -/
def Unordered (left right : Double) : Prop :=
  left = nan ∨ right = nan ∨ ∃ negative, left = infinite negative ∧ right = infinite negative

private theorem abs_add_finite (left right : Bool) (m n : Magnitude) :
    (finite left m + finite right n).abs =
      ofRatio false (signed left m.quanta + signed right n.quanta).natAbs 1 := by
  rw [add_finite]
  generalize signed left m.quanta + signed right n.quanta = sum
  split
  · next isZero =>
    rw [isZero]
    exact (ofRatio_quanta false Magnitude.zero).symm
  · exact abs_ofRatio _ _ _

private theorem sub_finite (left right : Bool) (m n : Magnitude) :
    finite left m - finite right n = finite left m + finite (!right) n := rfl

/-- The distance of two doubles does not depend on their order, rounding included. -/
protected theorem abs_sub_comm (left right : Double) : (left - right).abs = (right - left).abs := by
  cases left with
  | nan => cases right <;> rfl
  | infinite left =>
    cases right with
    | nan => rfl
    | infinite right => cases left <;> cases right <;> rfl
    | finite right n => rfl
  | finite left m =>
    cases right with
    | nan => rfl
    | infinite right => rfl
    | finite right n =>
      rw [sub_finite, sub_finite, abs_add_finite, abs_add_finite, signed_not, signed_not,
        ← Int.natAbs_neg]
      congr 2
      ring

/-- Closeness is symmetric. -/
theorem close_comm (left right : Double) : left.Close right ↔ right.Close left := by
  rw [Close, Close, Double.abs_sub_comm]

/-- Below and above are each other's converse. -/
theorem below_iff_above (left right : Double) : left.Below right ↔ right.Above left := by
  rw [Below, Above, close_comm]

private theorem not_close_of_not_isFinite {left : Double} (right : Double)
    (unbounded : ¬left.isFinite) : ¬left.Close right := by
  cases left with
  | nan => exact not_nan_lt tolerance
  | infinite negative =>
    have difference : (infinite negative - right).abs = nan ∨
        (infinite negative - right).abs = infinite false := by
      cases right with
      | nan => exact .inl rfl
      | infinite right => cases negative <;> cases right <;> simp [Double.abs] <;> decide
      | finite right magnitude => exact .inr rfl
    rw [Close]
    rcases difference with isNan | isInfinite
    · rw [isNan]
      exact not_nan_lt tolerance
    · rw [isInfinite, lt_iff (rank?_infinite false) rank?_tolerance, signed_false]
      exact_mod_cast toleranceQuanta_lt.not_gt
  | finite negative magnitude => exact (unbounded rfl).elim

/-- Only finite doubles are close to anything. -/
theorem Close.isFinite {left right : Double} (close : left.Close right) :
    left.isFinite ∧ right.isFinite := by
  constructor
  · by_contra unbounded
    exact not_close_of_not_isFinite right unbounded close
  · by_contra unbounded
    exact not_close_of_not_isFinite left unbounded ((close_comm left right).mp close)

/-- Finite doubles are close when the rounded distance of their places is less than the
tolerance. -/
theorem close_iff {left right : Bool} {m n : Magnitude} :
    (finite left m).Close (finite right n) ↔
      |nearestRank (signed left m.quanta - signed right n.quanta) 1| < toleranceQuanta := by
  have ranked : (finite left m - finite right n).abs.rank? =
      some |nearestRank (signed left m.quanta - signed right n.quanta) 1| := by
    rw [rank?_abs, rank?_sub, Option.map_some]
  exact lt_iff ranked rank?_tolerance

/-- A finite double has a sign and a magnitude. -/
theorem exists_eq_finite {value : Double} (bounded : value.isFinite) :
    ∃ negative magnitude, value = finite negative magnitude := by
  cases value with
  | nan => cases bounded
  | infinite negative => cases bounded
  | finite negative magnitude => exact ⟨negative, magnitude, rfl⟩

/-- The exact difference of close doubles is below the tolerance. -/
theorem Close.abs_sub_lt {left right : Double} {low high : ℤ} (close : left.Close right)
    (leftRank : left.rank? = some low) (rightRank : right.rank? = some high) :
    |low - high| < toleranceQuanta := by
  obtain ⟨leftFinite, rightFinite⟩ := close.isFinite
  obtain ⟨leftNegative, m, rfl⟩ := exists_eq_finite leftFinite
  obtain ⟨rightNegative, n, rfl⟩ := exists_eq_finite rightFinite
  rw [rank?_finite, Option.some.injEq] at leftRank rightRank
  rw [close_iff, leftRank, rightRank] at close
  exact abs_lt_of_abs_nearestRank_lt toleranceMagnitude.representable close

/-- A finite double is close to every double in its place. -/
theorem close_of_rank?_eq {left right : Double} {rank : ℤ} (isFinite : left.isFinite)
    (leftRank : left.rank? = some rank) (rightRank : right.rank? = some rank) :
    left.Close right := by
  cases left with
  | nan => cases isFinite
  | infinite negative => cases isFinite
  | finite left m =>
    cases right with
    | nan => cases rightRank
    | infinite right =>
      rw [← leftRank, rank?_finite, rank?_infinite, Option.some.injEq] at rightRank
      have bounded := m.representable.lt_overflowQuanta
      have sizes := congrArg Int.natAbs rightRank
      rw [natAbs_signed, natAbs_signed] at sizes
      exact (bounded.ne' sizes).elim
    | finite right n =>
      rw [← leftRank, rank?_finite, rank?_finite, Option.some.injEq] at rightRank
      rw [close_iff, rightRank, sub_self, nearestRank_zero, abs_zero]
      exact_mod_cast toleranceQuanta_pos

/-- Of unordered doubles none is less than the other. -/
theorem not_lt_of_unordered {left right : Double} (unordered : left.Unordered right) :
    ¬left < right := by
  rcases unordered with rfl | rfl | ⟨negative, rfl, rfl⟩
  · exact not_nan_lt right
  · exact not_lt_nan left
  · rw [lt_iff (rank?_infinite negative) (rank?_infinite negative)]
    exact lt_irrefl _

/-- Unordered doubles are not close: not-a-number is close to nothing, and an infinity not
even to itself. -/
theorem not_close_of_unordered {left right : Double} (unordered : left.Unordered right) :
    ¬left.Close right := by
  intro close
  obtain ⟨leftFinite, rightFinite⟩ := close.isFinite
  rcases unordered with rfl | rfl | ⟨negative, rfl, rfl⟩
  · cases leftFinite
  · cases rightFinite
  · cases leftFinite

/-- Being unordered is symmetric. -/
theorem Unordered.symm {left right : Double} (unordered : left.Unordered right) :
    right.Unordered left := by
  rcases unordered with isNan | isNan | ⟨negative, leftInfinite, rightInfinite⟩
  · exact .inr (.inl isNan)
  · exact .inl isNan
  · exact .inr (.inr ⟨negative, rightInfinite, leftInfinite⟩)

/-- A number that is not finite is an infinity. -/
theorem exists_eq_infinite {value : Double} (number : value ≠ nan) (unbounded : ¬value.isFinite) :
    ∃ negative, value = infinite negative := by
  cases value with
  | nan => exact (number rfl).elim
  | infinite negative => exact ⟨negative, rfl⟩
  | finite negative magnitude => exact (unbounded rfl).elim

/-- Doubles that are related at all are close or one precedes the other. -/
theorem lt_or_close_or_gt {left right : Double} (ordered : ¬left.Unordered right) :
    left < right ∨ left.Close right ∨ right < left := by
  simp only [Unordered, not_or] at ordered
  obtain ⟨leftNumber, rightNumber, differ⟩ := ordered
  obtain ⟨low, leftRank⟩ := exists_rank?_eq_some leftNumber
  obtain ⟨high, rightRank⟩ := exists_rank?_eq_some rightNumber
  rw [lt_iff leftRank rightRank, lt_iff rightRank leftRank]
  rcases lt_trichotomy low high with below | same | above
  · exact .inl below
  · subst same
    refine .inr (.inl ?_)
    by_cases leftFinite : left.isFinite
    · exact close_of_rank?_eq leftFinite leftRank rightRank
    by_cases rightFinite : right.isFinite
    · exact (close_comm _ _).mp (close_of_rank?_eq rightFinite rightRank leftRank)
    obtain ⟨leftNegative, rfl⟩ := exists_eq_infinite leftNumber leftFinite
    obtain ⟨rightNegative, rfl⟩ := exists_eq_infinite rightNumber rightFinite
    rw [rank?_infinite, Option.some.injEq] at leftRank rightRank
    have sameSign := eq_of_signed_eq (twoPow_pos 2098) (leftRank.trans rightRank.symm)
    exact (differ ⟨leftNegative, rfl, by rw [sameSign]⟩).elim
  · exact .inr (.inr above)

/-- At most means below or close. -/
theorem atMost_iff (left right : Double) :
    left.AtMost right ↔ left.Below right ∨ left.Close right := by
  rw [AtMost, Below]
  tauto

/-- At least means above or close. -/
theorem atLeast_iff (left right : Double) :
    left.AtLeast right ↔ left.Above right ∨ left.Close right := by
  rw [AtLeast, Above]
  tauto

/-- Being at most and at least a double at once is being close to it. -/
theorem atMost_and_atLeast_iff (left right : Double) :
    left.AtMost right ∧ left.AtLeast right ↔ left.Close right := by
  constructor
  · rintro ⟨less | close, greater | close'⟩
    · exact (Double.lt_asymm less greater).elim
    · exact close'
    · exact close
    · exact close
  · intro close
    exact ⟨.inr close, .inr close⟩

/-- At most and at least are each other's converse. -/
theorem atMost_iff_atLeast (left right : Double) : left.AtMost right ↔ right.AtLeast left := by
  rw [AtMost, AtLeast, close_comm]

/-- **Doubles that are related at all** are close or in strict order, one of the three and
no other. -/
theorem exactlyOne_of_not_unordered {left right : Double} (ordered : ¬left.Unordered right) :
    ExactlyOne (left.Below right) (left.Close right) (left.Above right) := by
  by_cases close : left.Close right
  · exact .inr (.inl ⟨fun below => below.2 close, close, fun above => above.2 close⟩)
  · rcases lt_or_close_or_gt ordered with less | isClose | greater
    · refine .inl ⟨⟨less, close⟩, close, fun above => Double.lt_asymm less above.1⟩
    · exact (close isClose).elim
    · refine .inr (.inr ⟨fun below => Double.lt_asymm greater below.1, close, ⟨greater, close⟩⟩)

end Double

end StyleNumber
