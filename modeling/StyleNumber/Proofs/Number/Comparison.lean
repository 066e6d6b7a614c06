import StyleNumber.Operation
import StyleNumber.Proofs.Double.Closeness
import StyleNumber.Proofs.Number.Coercion

/-! # Answers of comparisons

A comparison of two numbers looks at their scalars in one signature
(`Number.Meet`), and answers whenever the numbers are comparable
(`Number.Meet.compare_eq`). What the four comparisons say about the numbers is what
the relations of doubles say about these scalars, so exactly one of less, greater and both
at most and at least is answered, unless the scalars are unordered
(`Number.comparisons_partition`).
-/

namespace StyleNumber

namespace Number

/-- The scalars of two numbers in one signature: the right one is converted to the units of
the left number, or the left one to the units of the right if the left number has none. -/
def Meet (left right : Number Double) (leftValue rightValue : Double) : Prop :=
  if left.hasUnits then leftValue = left.value ∧ right.valueIn left.units = .ok rightValue
  else left.valueIn right.units = .ok leftValue ∧ rightValue = right.value

/-- Numbers meet in the scalars that an operator brings to one signature. -/
theorem meet_iff {left right : Number Double} {leftValue rightValue : Double} :
    left.Meet right leftValue rightValue ↔
      left.coercedValues right = .ok (leftValue, rightValue) := by
  rw [Meet, coercedValues]
  split
  · cases right.valueIn left.units with
    | error error => simp [Except.map]
    | ok converted => simp [Except.map, eq_comm]
  · cases left.valueIn right.units with
    | error error => simp [Except.map]
    | ok converted => simp [Except.map, eq_comm]

/-- Two numbers meet in one pair of scalars at most. -/
theorem Meet.unique {left right : Number Double}
    {leftValue rightValue leftOther rightOther : Double}
    (meet : left.Meet right leftValue rightValue) (other : left.Meet right leftOther rightOther) :
    leftValue = leftOther ∧ rightValue = rightOther := by
  have same := (meet_iff.mp meet).symm.trans (meet_iff.mp other)
  rwa [Except.ok.injEq, Prod.mk.injEq] at same

/-- A number meets another one in its own scalar if the other converts to its units, also
if it has none itself. -/
theorem meet_of_valueIn {left right : Number Double} {converted : Double}
    (success : right.valueIn left.units = .ok converted) :
    left.Meet right left.value converted := by
  rw [meet_iff, coercedValues_eq, success, Except.map]

/-- Comparable numbers meet. -/
theorem exists_meet {left right : Number Double} (comparable : left.isComparableTo right) :
    ∃ leftValue rightValue, left.Meet right leftValue rightValue := by
  obtain ⟨converted, success⟩ := isComparableTo_iff_exists_valueIn.mp comparable
  exact ⟨left.value, converted, meet_of_valueIn success⟩

/-- A comparison answers whether it holds between the scalars in which the numbers meet. -/
theorem Meet.compare_eq {left right : Number Double} {leftValue rightValue : Double}
    (meet : left.Meet right leftValue rightValue) (operator : Comparison) :
    left.compare operator (.number right) =
      .ok (decide (operator.Holds leftValue rightValue)) := by
  simp only [compare, meet_iff.mp meet, Except.map]

private theorem Meet.compare_eq_true_iff {left right : Number Double}
    {leftValue rightValue : Double}
    (meet : left.Meet right leftValue rightValue) (operator : Comparison) :
    left.compare operator (.number right) = .ok true ↔ operator.Holds leftValue rightValue := by
  rw [meet.compare_eq, Except.ok.injEq, decide_eq_true_eq]

end Number

private theorem Comparison.not_holds_of_unordered {left right : Double} (operator : Comparison)
    (unordered : left.Unordered right) : ¬operator.Holds left right := by
  have notLess := Double.not_lt_of_unordered unordered
  have notGreater := Double.not_lt_of_unordered unordered.symm
  have notClose := Double.not_close_of_unordered unordered
  cases operator with
  | greaterThan => exact fun above => notGreater above.1
  | greaterThanOrEquals => exact fun atLeast => atLeast.elim notGreater notClose
  | lessThan => exact fun below => notLess below.1
  | lessThanOrEquals => exact fun atMost => atMost.elim notLess notClose

namespace Number

/-- **Comparison partitions the pairs of scalars.** Closeness is symmetric, below and above
are each other's converse, and at most and at least add closeness to them; two doubles are
below, close or above, exactly one of the three, unless one is not-a-number or both are the
same infinity, which none of the five relates. Comparable numbers have scalars in one
signature, and exactly one of less, greater and both at most and at least is answered of
them, with the same exception. -/
theorem comparisons_partition :
    (∀ left right : Double,
      (left.Close right ↔ right.Close left) ∧
        (left.Below right ↔ right.Above left) ∧
        (left.AtMost right ↔ left.Below right ∨ left.Close right) ∧
        (left.AtLeast right ↔ left.Above right ∨ left.Close right) ∧
        (¬left.Unordered right →
          ExactlyOne (left.Below right) (left.Close right) (left.Above right)) ∧
        (left.Unordered right →
          ¬left.Close right ∧ ¬left.Below right ∧ ¬left.AtMost right ∧ ¬left.Above right ∧
            ¬left.AtLeast right)) ∧
    ∀ left right : Number Double, left.isComparableTo right →
      ∃ leftValue rightValue, left.Meet right leftValue rightValue ∧
        (¬leftValue.Unordered rightValue →
          ExactlyOne (left.compare .lessThan (.number right) = .ok true)
            (left.compare .greaterThan (.number right) = .ok true)
            (left.compare .lessThanOrEquals (.number right) = .ok true ∧
              left.compare .greaterThanOrEquals (.number right) = .ok true)) ∧
        (leftValue.Unordered rightValue →
          ∀ operator, left.compare operator (.number right) = .ok false) := by
  constructor
  · intro left right
    refine ⟨Double.close_comm left right, Double.below_iff_above left right,
      Double.atMost_iff left right, Double.atLeast_iff left right,
      Double.exactlyOne_of_not_unordered, ?_⟩
    intro unordered
    exact ⟨Double.not_close_of_unordered unordered,
      Comparison.not_holds_of_unordered .lessThan unordered,
      Comparison.not_holds_of_unordered .lessThanOrEquals unordered,
      Comparison.not_holds_of_unordered .greaterThan unordered,
      Comparison.not_holds_of_unordered .greaterThanOrEquals unordered⟩
  · intro left right comparable
    obtain ⟨leftValue, rightValue, meet⟩ := exists_meet comparable
    refine ⟨leftValue, rightValue, meet, ?_, ?_⟩
    · intro ordered
      simp only [meet.compare_eq_true_iff, Comparison.Holds, Double.atMost_and_atLeast_iff]
      have partition := Double.exactlyOne_of_not_unordered ordered
      rw [ExactlyOne] at partition ⊢
      tauto
    · intro unordered operator
      rw [meet.compare_eq, decide_eq_false (operator.not_holds_of_unordered unordered)]

/-- One inch is less than ninety-seven pixels, which are a little over 1.01 inches, and
nothing else. Infinitely many pixels do not compare to themselves. -/
theorem inch_less_than_pixels :
    let inch : Number Double := ofUnit 1 ⟨"in"⟩
    let pixels : Number Double := ofUnit 97 ⟨"px"⟩
    let endless : Number Double := ofUnit (.infinite false) ⟨"px"⟩
    (inch.isComparableTo pixels ∧ inch.Meet pixels 1 1.0104166666666665 ∧
      ¬Double.Unordered 1 1.0104166666666665 ∧
      inch.compare .lessThan (.number pixels) = .ok true ∧
      ExactlyOne (inch.compare .lessThan (.number pixels) = .ok true)
        (inch.compare .greaterThan (.number pixels) = .ok true)
        (inch.compare .lessThanOrEquals (.number pixels) = .ok true ∧
          inch.compare .greaterThanOrEquals (.number pixels) = .ok true)) ∧
    endless.isComparableTo endless ∧ endless.Meet endless (.infinite false) (.infinite false) ∧
      Double.Unordered (.infinite false) (.infinite false) ∧
      ∀ operator, endless.compare operator (.number endless) = .ok false := by
  intro inch pixels endless
  constructor
  · have comparable : inch.isComparableTo pixels := by decide
    have inInches : inch.Meet pixels 1 1.0104166666666665 := meet_iff.mpr (by decide +kernel)
    have less : inch.compare .lessThan (.number pixels) = .ok true := by decide +kernel
    have ordered : ¬Double.Unordered 1 1.0104166666666665 := fun unordered =>
      Comparison.not_holds_of_unordered .lessThan unordered
        ((inInches.compare_eq_true_iff .lessThan).mp less)
    obtain ⟨leftValue, rightValue, meet, partition, _⟩ :=
      comparisons_partition.2 inch pixels comparable
    obtain ⟨leftSame, rightSame⟩ := meet.unique inInches
    rw [leftSame, rightSame] at partition
    exact ⟨comparable, inInches, ordered, less, partition ordered⟩
  · have comparable : endless.isComparableTo endless := by decide
    have inPixels : endless.Meet endless (.infinite false) (.infinite false) :=
      meet_iff.mpr (by decide +kernel)
    have unordered : Double.Unordered (.infinite false) (.infinite false) :=
      .inr (.inr ⟨false, rfl, rfl⟩)
    obtain ⟨leftValue, rightValue, meet, _, blind⟩ :=
      comparisons_partition.2 endless endless comparable
    obtain ⟨rfl, rfl⟩ := meet.unique inPixels
    exact ⟨comparable, inPixels, unordered, blind unordered⟩

end Number

end StyleNumber
