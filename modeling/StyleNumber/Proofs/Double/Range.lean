import StyleNumber.Proofs.Double.Closeness
import StyleNumber.Proofs.Double.Scaling

/-! # Doubles in a range

What lies between two close doubles is close to both of them (`Double.Close.of_between`),
since rounding keeps the order of differences. Hence a double close to one bound of a range is
within the other one, too, and it is the same to look for a bound close to a double, as
`Double.clamp?` does, and to compare the double with both bounds, as `Double.Within` does
(`Double.exists_clamp?_iff`). What `Double.clamp?` gives lies between the bounds without any
tolerance (`Double.mem_range_of_clamp?`).
-/

namespace StyleNumber

namespace Double

/-- Finite doubles have only finite ones between them. -/
theorem isFinite_of_between {low middle high : Double} (lower : low ≤ middle)
    (upper : middle ≤ high) (lowFinite : low.isFinite) (highFinite : high.isFinite) :
    middle.isFinite := by
  by_contra unbounded
  obtain ⟨negative, rfl⟩ := exists_eq_infinite (ne_nan_of_le lower).2 unbounded
  cases negative with
  | true =>
    rw [eq_infinite_of_le_infinite lower] at lowFinite
    cases lowFinite
  | false =>
    rw [eq_infinite_of_infinite_le upper] at highFinite
    cases highFinite

/-- Finite doubles that differ by no more than close ones are close. -/
theorem Close.of_abs_sub_le {left right first second : Double} {low high place other : ℤ}
    (close : left.Close right) (leftRank : left.rank? = some low)
    (rightRank : right.rank? = some high)
    (firstFinite : first.isFinite) (secondFinite : second.isFinite)
    (firstRank : first.rank? = some place) (secondRank : second.rank? = some other)
    (nearer : |place - other| ≤ |low - high|) : first.Close second := by
  obtain ⟨_, _, rfl⟩ := exists_eq_finite close.isFinite.1
  obtain ⟨_, _, rfl⟩ := exists_eq_finite close.isFinite.2
  obtain ⟨_, _, rfl⟩ := exists_eq_finite firstFinite
  obtain ⟨_, _, rfl⟩ := exists_eq_finite secondFinite
  rw [rank?_finite, Option.some.injEq] at leftRank rightRank firstRank secondRank
  rw [close_iff, leftRank, rightRank] at close
  rw [close_iff, firstRank, secondRank]
  exact (abs_nearestRank_le_abs_nearestRank nearer one_pos).trans_lt close

/-- **What lies between close doubles** is close to both. -/
theorem Close.of_between {low middle high : Double} (close : low.Close high)
    (lower : low ≤ middle) (upper : middle ≤ high) : low.Close middle ∧ middle.Close high := by
  obtain ⟨lowFinite, highFinite⟩ := close.isFinite
  have middleFinite := isFinite_of_between lower upper lowFinite highFinite
  obtain ⟨least, lowRank⟩ := exists_rank?_eq_some (ne_nan_of_le lower).1
  obtain ⟨place, middleRank⟩ := exists_rank?_eq_some (ne_nan_of_le lower).2
  obtain ⟨most, highRank⟩ := exists_rank?_eq_some (ne_nan_of_le upper).2
  rw [le_iff lowRank middleRank] at lower
  rw [le_iff middleRank highRank] at upper
  have outer : |least - most| = most - least := by
    rw [abs_sub_comm, abs_of_nonneg (by omega)]
  constructor
  · refine close.of_abs_sub_le lowRank highRank lowFinite middleFinite lowRank middleRank ?_
    rw [outer, abs_sub_comm, abs_of_nonneg (by omega)]
    omega
  · refine close.of_abs_sub_le lowRank highRank middleFinite highFinite middleRank highRank ?_
    rw [outer, abs_sub_comm, abs_of_nonneg (by omega)]
    omega

/-- Not-a-number is close to nothing. -/
theorem Close.ne_nan {left right : Double} (close : left.Close right) : left ≠ nan := by
  rintro rfl
  cases close.isFinite.1

/-- A double close to a bound is at most what is above the bound. -/
theorem Close.atMost {number bound most : Double} (close : number.Close bound)
    (ordered : bound ≤ most) : number.AtMost most := by
  by_cases less : number < most
  · exact .inl less
  · have beyond := Double.le_of_not_lt close.ne_nan (ne_nan_of_le ordered).2 less
    have between := ((close_comm _ _).mp close).of_between ordered beyond
    exact .inr ((close_comm _ _).mp between.2)

/-- A double close to a bound is at least what is below the bound. -/
theorem Close.atLeast {number bound least : Double} (close : number.Close bound)
    (ordered : least ≤ bound) : number.AtLeast least := by
  by_cases greater : least < number
  · exact .inl greater
  · have beyond := Double.le_of_not_lt (ne_nan_of_le ordered).1 close.ne_nan greater
    exact .inr (close.of_between beyond ordered).1

section

variable {number least most : Double}

/-- **A double is clamped to a range** exactly if it is within the range, up to the tolerance. -/
theorem exists_clamp?_iff (ordered : least ≤ most) :
    (∃ value, number.clamp? least most = some value) ↔ number.Within least most := by
  unfold clamp?
  split
  · next close => exact iff_of_true ⟨least, rfl⟩ ⟨.inr close, close.atMost ordered⟩
  · next apart =>
    split
    · next close => exact iff_of_true ⟨most, rfl⟩ ⟨close.atLeast ordered, .inr close⟩
    · next apart' =>
      rw [Within, AtLeast, AtMost, or_iff_left apart, or_iff_left apart']
      split
      · next between => exact iff_of_true ⟨number, rfl⟩ between
      · next outside =>
        refine iff_of_false ?_ outside
        rintro ⟨value, ⟨⟩⟩

/-- What a double is clamped to lies in the range, and is the double itself or a bound close to
it. -/
theorem mem_range_of_clamp? (ordered : least ≤ most) {value : Double}
    (clamped : number.clamp? least most = some value) :
    least ≤ value ∧ value ≤ most ∧
      (value = number ∨ (value = least ∨ value = most) ∧ number.Close value) := by
  obtain ⟨leastNumber, mostNumber⟩ := ne_nan_of_le ordered
  unfold clamp? at clamped
  split at clamped
  · next close =>
    cases clamped
    exact ⟨Double.le_refl leastNumber, ordered, .inr ⟨.inl rfl, close⟩⟩
  · split at clamped
    · next close =>
      cases clamped
      exact ⟨ordered, Double.le_refl mostNumber, .inr ⟨.inr rfl, close⟩⟩
    · split at clamped
      · next between =>
        cases clamped
        exact ⟨Double.le_of_lt between.1, Double.le_of_lt between.2, .inl rfl⟩
      · cases clamped

/-- Strictly inside a range are the doubles that clamping leaves alone and that no bound is close
to. -/
theorem inside_iff :
    number.Inside least most ↔
      number.clamp? least most = some number ∧ ¬number.Close least ∧ ¬number.Close most := by
  constructor
  · rintro ⟨⟨greater, leastApart⟩, less, mostApart⟩
    refine ⟨?_, leastApart, mostApart⟩
    rw [clamp?, if_neg leastApart, if_neg mostApart, if_pos ⟨greater, less⟩]
  · rintro ⟨clamped, leastApart, mostApart⟩
    rw [clamp?, if_neg leastApart, if_neg mostApart] at clamped
    split at clamped
    · next between => exact ⟨⟨between.1, leastApart⟩, between.2, mostApart⟩
    · cases clamped

end

end Double

end StyleNumber
