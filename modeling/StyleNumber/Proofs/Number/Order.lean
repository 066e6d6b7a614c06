import StyleNumber.Proofs.Double.Range
import StyleNumber.Proofs.Number.Comparison
import StyleNumber.Proofs.Signature.OrderedConversion

/-! # The order of numbers

Before two numbers are compared, one of them may be converted. A conversion can make different
scalars equal, but it does not reverse their order, and it keeps their signs
(`Number.conversion_keeps_order_and_sign`).

The comparison itself has a tolerance, so closeness is not transitive. Being below is: doubles
that are moved apart stay apart (`Double.Below.of_le_of_le`), because what lies between close
doubles is close to both. From this come all laws of a semiorder, and on numbers of one signature
being less is a strict order (`Number.less_is_semiorder`).
-/

namespace StyleNumber

namespace Double

private theorem not_below_self (number : Double) : ¬number.Below number :=
  fun below => Double.lt_asymm below.1 below.1

/-- Not-a-number is not below anything, nor is anything below it. -/
theorem Below.ne_nan {low high : Double} (below : low.Below high) : low ≠ nan ∧ high ≠ nan :=
  ne_nan_of_le (Double.le_of_lt below.1)

/-- **Of two doubles that are moved apart** the one below the other stays below it. -/
theorem Below.of_le_of_le {lower low high higher : Double} (below : low.Below high)
    (down : lower ≤ low) (up : high ≤ higher) : lower.Below higher := by
  have between : low ≤ high := Double.le_of_lt below.1
  refine ⟨Double.lt_of_lt_of_le (Double.lt_of_le_of_lt down below.1) up, ?_⟩
  intro close
  have fromLow := (close.of_between down (Double.le_trans between up)).2
  exact below.2 (fromLow.of_between between up).1

/-- Being below is transitive. -/
theorem Below.trans {first second third : Double} (lower : first.Below second)
    (upper : second.Below third) : first.Below third :=
  lower.of_le_of_le (Double.le_refl lower.ne_nan.1) (Double.le_of_lt upper.1)

/-- Any two numbers are in order, one way or the other. -/
protected theorem le_total {left right : Double} (leftNumber : left ≠ nan)
    (rightNumber : right ≠ nan) : left ≤ right ∨ right ≤ left := by
  by_cases less : left < right
  · exact .inl (Double.le_of_lt less)
  · exact .inr (Double.le_of_not_lt leftNumber rightNumber less)

/-- Of two doubles below two others, one is below the partner of the other. -/
theorem Below.or_below {low high other another : Double} (below : low.Below high)
    (below' : other.Below another) : low.Below another ∨ other.Below high := by
  rcases Double.le_total below.ne_nan.2 below'.ne_nan.2 with up | down
  · exact .inl (below.of_le_of_le (Double.le_refl below.ne_nan.1) up)
  · exact .inr (below'.of_le_of_le (Double.le_refl below'.ne_nan.1) down)

/-- Of three doubles below each other, the first is below a fourth or the last above it. -/
theorem Below.below_or_above {low middle high other : Double} (below : low.Below middle)
    (above : middle.Below high) (isNumber : other ≠ nan) :
    low.Below other ∨ other.Below high := by
  rcases Double.le_total below.ne_nan.2 isNumber with up | down
  · exact .inl (below.of_le_of_le (Double.le_refl below.ne_nan.1) up)
  · exact .inr (above.of_le_of_le down (Double.le_refl above.ne_nan.2))

end Double

namespace Number

/-- **Conversion keeps order and sign.** Between signatures that convert, of any two doubles
the greater one is not converted to a lesser one, whatever is rounded, overflows or falls to zero
on the way; what is converted from a number is a number again, with the same sign, and the opposite
number is converted to the opposite. Hence two scalars of one signature meet those of any
other number in the order that they had. -/
theorem conversion_keeps_order_and_sign :
    (∀ source target : Signature,
      (∃ value converted : Double, Signature.convert value source target = .ok converted) →
        (∀ low high : Double, low ≤ high →
          ∃ lowConverted highConverted,
            Signature.convert low source target = .ok lowConverted ∧
              Signature.convert high source target = .ok highConverted ∧
              lowConverted ≤ highConverted) ∧
        ∀ value : Double, value ≠ .nan →
          ∃ converted, Signature.convert value source target = .ok converted ∧
            converted ≠ .nan ∧ converted.sign? = value.sign? ∧
            Signature.convert (-value) source target = .ok (-converted)) ∧
    ∀ number low high : Number Double, number.isComparableTo low → low.units = high.units →
      low.value ≤ high.value →
        ∃ lowValue highValue, number.Meet low number.value lowValue ∧
          number.Meet high number.value highValue ∧ lowValue ≤ highValue := by
  constructor
  · rintro source target ⟨_, _, success⟩
    obtain ⟨pairs, factors, converts⟩ := Signature.convert_eq_scaled success
    constructor
    · intro low high ordered
      exact ⟨_, _, converts low, converts high, scaled_le_scaled ordered factors⟩
    · intro value isNumber
      have itself := scaled_le_scaled (Double.le_refl isNumber) factors
      have opposite := converts (-value)
      rw [scaled_neg] at opposite
      exact ⟨_, converts value, (Double.ne_nan_of_le itself).1, sign?_scaled value factors,
        opposite⟩
  · intro number low high comparable same ordered
    obtain ⟨_, success⟩ := isComparableTo_iff_exists_valueIn.mp comparable
    obtain ⟨pairs, factors, converts⟩ := Signature.convert_eq_scaled success
    have highConverts : high.valueIn number.units = .ok (scaled high.value pairs) := by
      rw [valueIn, ← same]
      exact converts high.value
    exact ⟨_, _, meet_of_valueIn (converts low.value), meet_of_valueIn highConverts,
      scaled_le_scaled ordered factors⟩

/-- In inches the two smallest lengths of pixels fall together with zero, and their opposites with
the negative zero. -/
theorem tiny_pixels_fall_together :
    let pixels : Signature := .single ⟨"px"⟩
    let inches : Signature := .single ⟨"in"⟩
    let tiny : Double := 5e-324
    let twice : Double := 1e-323
    let inch : Number Double := ofUnits 1 inches
    (Signature.convert (96 : Double) pixels inches = .ok 1 ∧ tiny ≤ twice ∧ tiny ≠ .nan ∧
      inch.isComparableTo (ofUnits tiny pixels)) ∧
      (∃ lowConverted highConverted, Signature.convert tiny pixels inches = .ok lowConverted ∧
        Signature.convert twice pixels inches = .ok highConverted ∧
        lowConverted ≤ highConverted ∧ lowConverted = 0 ∧ highConverted = 0) ∧
      (∃ converted, Signature.convert tiny pixels inches = .ok converted ∧
        converted.sign? = some false ∧
        Signature.convert (-tiny) pixels inches = .ok (-converted)) ∧
      ∃ lowValue highValue, inch.Meet (ofUnits tiny pixels) 1 lowValue ∧
        inch.Meet (ofUnits twice pixels) 1 highValue ∧ lowValue ≤ highValue := by
  intro pixels inches tiny twice inch
  have converts : Signature.convert (96 : Double) pixels inches = .ok 1 := by decide +kernel
  have lowZero : Signature.convert tiny pixels inches = .ok (0 : Double) := by decide +kernel
  have highZero : Signature.convert twice pixels inches = .ok (0 : Double) := by decide +kernel
  have positive : tiny.sign? = some false := by decide +kernel
  have comparable : inch.isComparableTo (ofUnits tiny pixels) := by decide
  obtain ⟨keepsOrder, keepsSign⟩ :=
    conversion_keeps_order_and_sign.1 pixels inches ⟨96, 1, converts⟩
  obtain ⟨low, high, isLow, isHigh, below⟩ := keepsOrder tiny twice (by decide +kernel)
  obtain ⟨converted, success, _, sameSign, opposite⟩ := keepsSign tiny (by decide +kernel)
  refine ⟨⟨converts, by decide +kernel, by decide +kernel, comparable⟩,
    ⟨low, high, isLow, isHigh, below, Except.ok.inj (isLow.symm.trans lowZero),
      Except.ok.inj (isHigh.symm.trans highZero)⟩,
    ⟨converted, success, sameSign.trans positive, opposite⟩, ?_⟩
  exact conversion_keeps_order_and_sign.2 inch (ofUnits tiny pixels) (ofUnits twice pixels)
    comparable rfl (by decide +kernel)

private theorem compare_of_units_eq {left right : Number Double} (same : left.units = right.units)
    (operator : Comparison) :
    left.compare operator (.number right) =
      .ok (decide (operator.Holds left.value right.value)) := by
  have stays : right.valueIn left.units = .ok right.value := by
    rw [valueIn, same, Signature.convert_self]
  exact (meet_of_valueIn stays).compare_eq operator

private theorem lessThan_iff_of_units_eq {left right : Number Double}
    (same : left.units = right.units) :
    left.compare .lessThan (.number right) = .ok true ↔ left.value.Below right.value := by
  rw [compare_of_units_eq same, Except.ok.injEq, decide_eq_true_eq, Comparison.Holds]

/-- **Being less is a semiorder.** On doubles, being below is irreflexive and transitive, and stays
when the two doubles are moved apart; of two doubles below two others one is below the partner
of the other, and whatever is compared with three doubles below each other is above the first or
below the last. Between close doubles all are close, although closeness is not transitive. Numbers
of one signature always compare, and being less is a strict order of them. -/
theorem less_is_semiorder :
    ((∀ number : Double, ¬number.Below number) ∧
      (∀ first second third : Double, first.Below second → second.Below third →
        first.Below third) ∧
      (∀ lower low high higher : Double, lower ≤ low → low.Below high → high ≤ higher →
        lower.Below higher) ∧
      (∀ low high other another : Double, low.Below high → other.Below another →
        low.Below another ∨ other.Below high) ∧
      ∀ low middle high other : Double, low.Below middle → middle.Below high → other ≠ .nan →
        low.Below other ∨ other.Below high) ∧
    ((∀ low middle high : Double, low ≤ middle → middle ≤ high → low.Close high →
        low.Close middle ∧ middle.Close high) ∧
      ∃ first second third : Double, first.Close second ∧ second.Close third ∧
        ¬first.Close third) ∧
    ∀ units : Signature,
      (∀ left right : Number Double, left.units = units → right.units = units →
        ∃ answer, left.compare .lessThan (.number right) = .ok answer) ∧
      IsStrictOrder {number : Number Double // number.units = units} fun left right =>
        left.val.compare .lessThan (.number right.val) = .ok true := by
  refine ⟨⟨Double.not_below_self, fun _ _ _ => Double.Below.trans, ?_, ?_, ?_⟩, ⟨?_, ?_⟩, ?_⟩
  · intro lower low high higher down below up
    exact below.of_le_of_le down up
  · intro low high other another below below'
    exact below.or_below below'
  · intro low middle high other below above isNumber
    exact below.below_or_above above isNumber
  · intro low middle high lower upper close
    exact close.of_between lower upper
  · exact ⟨0, 6e-12, 1.2e-11, by decide +kernel, by decide +kernel, by decide +kernel⟩
  · intro units
    constructor
    · rintro left right rfl same
      exact ⟨_, compare_of_units_eq same.symm _⟩
    · refine { irrefl := ?_, trans := ?_ }
      · rintro ⟨number, rfl⟩ less
        exact Double.not_below_self _ ((lessThan_iff_of_units_eq rfl).mp less)
      · rintro ⟨first, rfl⟩ ⟨second, secondUnits⟩ ⟨third, thirdUnits⟩ lower upper
        rw [lessThan_iff_of_units_eq secondUnits.symm] at lower
        rw [lessThan_iff_of_units_eq (secondUnits.trans thirdUnits.symm)] at upper
        exact (lessThan_iff_of_units_eq thirdUnits.symm).mpr (lower.trans upper)

/-- Zero is below `1e-10`, hence negative infinity is, too; `4e-12` is close to zero and to `8e-12`,
which are close; zero is below one because `1e-10` lies between; and one pixel is less than two. -/
theorem pixels_strictly_ordered :
    let nothing : Double := 0
    let part : Double := 1e-10
    let least : Double := .infinite true
    let half : Double := 4e-12
    let little : Double := 8e-12
    (least ≤ nothing ∧ nothing.Below part ∧ part ≤ part ∧ least.Below part) ∧
      (nothing ≤ half ∧ half ≤ little ∧ nothing.Close little ∧ nothing.Close half ∧
        half.Close little) ∧
      (nothing.Below part ∧ part.Below 1 ∧ nothing.Below 1 ∧ half ≠ .nan ∧
        (nothing.Below half ∨ half.Below 1)) ∧
      (nothing.Below 1 ∧ part.Below 2 ∧ (nothing.Below 2 ∨ part.Below 1)) ∧
      (∃ answer, (ofUnit 1 ⟨"px"⟩).compare .lessThan (.number (ofUnit 2 ⟨"px"⟩)) = .ok answer) ∧
      (ofUnit 1 ⟨"px"⟩).compare .lessThan (.number (ofUnit 2 ⟨"px"⟩)) = .ok true := by
  intro nothing part least half little
  have small : nothing.Below part := by decide +kernel
  have large : part.Below 1 := by decide +kernel
  have larger : part.Below 2 := by decide +kernel
  obtain ⟨⟨_, transitive, apart, crosses, splits⟩, ⟨convex, _⟩, numbers⟩ := less_is_semiorder
  have least_below := apart least nothing part part (by decide +kernel) small (by decide +kernel)
  have between := convex nothing half little (by decide +kernel) (by decide +kernel)
    (by decide +kernel)
  have one := transitive nothing part 1 small large
  exact ⟨⟨by decide +kernel, small, by decide +kernel, least_below⟩,
    ⟨by decide +kernel, by decide +kernel, by decide +kernel, between⟩,
    ⟨small, large, one, by decide +kernel,
      splits nothing part 1 half small large (by decide +kernel)⟩,
    ⟨one, larger, crosses nothing 1 part 2 one larger⟩,
    (numbers (.single ⟨"px"⟩)).1 _ _ rfl rfl, by decide +kernel⟩

end Number

end StyleNumber
