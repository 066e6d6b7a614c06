import StyleNumber.Proofs.Number.Comparison
import StyleNumber.Proofs.Signature.OrderedConversion

/-! # Comparison from the other side

A comparison converts the right operand to the units of the left one and applies the
tolerance there. Exchanging the operands reverses the conversion and moves the tolerance to
the other scale, so `a < b` and `b > a` can differ (`Number.comparison_depends_on_side`). They
agree as long as a single scale is involved, and beyond that whenever both scales find
the operands close or neither does, unless the conversion rounds by more than what the
operands differ by (`Number.comparison_exchanges`).
-/

namespace StyleNumber

namespace Double

/-- Whether of two doubles the first is nearer to a number, exactly. -/
def Nearer (number first second : Double) : Prop :=
  ∃ place near far, number.rank? = some place ∧ first.rank? = some near ∧
    second.rank? = some far ∧ |near - place| < |far - place|

/-- A double that is nearer to a number than another one is does not lie beyond it. -/
theorem lt_of_nearer_of_le {number near far : Double} (nearer : number.Nearer near far)
    (ordered : far ≤ near) : far < number := by
  obtain ⟨place, nearRank, farRank, isPlace, isNear, isFar, closer⟩ := nearer
  rw [le_iff isFar isNear] at ordered
  rw [lt_iff isFar isPlace]
  by_contra beyond
  have nearBeyond : 0 ≤ nearRank - place := by omega
  rw [abs_of_nonneg nearBeyond, abs_of_nonneg (by omega)] at closer
  omega

private theorem gt_of_nearer_of_ge {number near far : Double} (nearer : number.Nearer near far)
    (ordered : near ≤ far) : number < far := by
  obtain ⟨place, nearRank, farRank, isPlace, isNear, isFar, closer⟩ := nearer
  rw [le_iff isNear isFar] at ordered
  rw [lt_iff isPlace isFar]
  by_contra beyond
  have nearBeyond : nearRank - place ≤ 0 := by omega
  rw [abs_of_nonpos nearBeyond, abs_of_nonpos (by omega)] at closer
  omega

end Double

namespace Number

/-- Whether less and greater, and at most and at least, answer alike when the operands change
sides. -/
def Exchanges (left right : Number Double) : Prop :=
  left.compare .lessThan (.number right) = right.compare .greaterThan (.number left) ∧
    left.compare .lessThanOrEquals (.number right) =
      right.compare .greaterThanOrEquals (.number left)

/-- Whether rounding leaves the difference of two numbers visible: on the scale of the right
one both are close, or the right one, converted to the units of the left and back, comes
out nearer to itself than the left one is. -/
def Resolves (left right : Number Double) : Prop :=
  ∃ converted returned other, right.valueIn left.units = .ok converted ∧
    (ofUnits converted left.units).valueIn right.units = .ok returned ∧
    left.valueIn right.units = .ok other ∧
    (right.value.Close other ∨ right.value.Nearer returned other)

private theorem exchanges_iff {left right : Number Double} {converted other : Double}
    (rightSuccess : right.valueIn left.units = .ok converted)
    (leftSuccess : left.valueIn right.units = .ok other) :
    left.Exchanges right ↔
      (left.value.Below converted ↔ other.Below right.value) ∧
        (left.value.AtMost converted ↔ other.AtMost right.value) := by
  have forward := meet_of_valueIn rightSuccess
  have backward := meet_of_valueIn leftSuccess
  rw [Exchanges, forward.compare_eq, backward.compare_eq, forward.compare_eq, backward.compare_eq,
    Except.ok.injEq, Except.ok.injEq, decide_eq_decide, decide_eq_decide,
    Double.below_iff_above other, Double.atMost_iff_atLeast other]
  exact Iff.rfl

private theorem exchanges_of_units {left right : Number Double}
    (oneScale : left.units = right.units ∨ ¬left.hasUnits ∨ ¬right.hasUnits) :
    left.Exchanges right := by
  have rightSuccess : right.valueIn left.units = .ok right.value := by
    rcases oneScale with same | bare
    · rw [same, valueIn, Signature.convert_self]
    · exact valueIn_of_not_hasUnits bare.symm
  have leftSuccess : left.valueIn right.units = .ok left.value := by
    rcases oneScale with same | bare
    · rw [← same, valueIn, Signature.convert_self]
    · exact valueIn_of_not_hasUnits bare
  exact (exchanges_iff rightSuccess leftSuccess).mpr ⟨.rfl, .rfl⟩

private theorem ne_nan_of_valueIn {number : Number Double} {target : Signature} {converted : Double}
    (isNumber : number.value ≠ .nan) (success : number.valueIn target = .ok converted) :
    converted ≠ .nan :=
  (Double.ne_nan_of_le
    (Signature.convert_le_convert (Double.le_refl isNumber) success success)).1

/-- Where rounding leaves the difference of two numbers visible and it exceeds the tolerance,
the order that the left scale shows is the strict order on the right one. -/
theorem Resolves.strict {left right : Number Double} (resolves : left.Resolves right)
    {converted other : Double} (rightSuccess : right.valueIn left.units = .ok converted)
    (leftSuccess : left.valueIn right.units = .ok other) (apart : ¬right.value.Close other) :
    (left.value ≤ converted → other < right.value) ∧
      (converted ≤ left.value → right.value < other) := by
  obtain ⟨_, returned, _, isConverted, back, isOther, visible⟩ := resolves
  cases rightSuccess.symm.trans isConverted
  cases leftSuccess.symm.trans isOther
  have nearer := visible.resolve_left apart
  constructor
  · intro ordered
    exact Double.lt_of_nearer_of_le nearer
      (Signature.convert_le_convert ordered leftSuccess back)
  · intro ordered
    exact Double.gt_of_nearer_of_ge nearer
      (Signature.convert_le_convert ordered back leftSuccess)

/-- The order of two numbers is the same on both scales where it exceeds the tolerance on
both and rounding leaves it visible on either. -/
theorem lt_iff_lt_of_resolves {left right : Number Double}
    (leftNumber : left.value ≠ .nan) (rightNumber : right.value ≠ .nan)
    (resolves : left.Resolves right ∨ right.Resolves left) {converted other : Double}
    (rightSuccess : right.valueIn left.units = .ok converted)
    (leftSuccess : left.valueIn right.units = .ok other)
    (leftApart : ¬left.value.Close converted) (rightApart : ¬other.Close right.value) :
    left.value < converted ↔ other < right.value := by
  have convertedNumber : converted ≠ .nan :=
    ne_nan_of_valueIn rightNumber rightSuccess
  have otherNumber : other ≠ .nan :=
    ne_nan_of_valueIn leftNumber leftSuccess
  rcases resolves with fromLeft | fromRight
  · rw [Double.close_comm] at rightApart
    obtain ⟨up, down⟩ := fromLeft.strict rightSuccess leftSuccess rightApart
    refine ⟨fun less => up (Double.le_of_lt less), fun less => ?_⟩
    by_contra notLess
    exact Double.lt_asymm less (down (Double.le_of_not_lt leftNumber convertedNumber notLess))
  · obtain ⟨up, down⟩ := fromRight.strict leftSuccess rightSuccess leftApart
    refine ⟨fun less => ?_, fun less => down (Double.le_of_lt less)⟩
    by_contra notLess
    exact Double.lt_asymm less (up (Double.le_of_not_lt otherNumber rightNumber notLess))

/-- The answers of a comparison can depend on the side. On the scale of inches `5e-10px` are
within the tolerance of nothing, on the scale of pixels they are not. And where doubles are
further apart than the tolerance, the rounding of a conversion and of its reverse can make
each of two lengths the lesser one. -/
theorem comparison_depends_on_side :
    let nothing : Number Double := ofUnit 0 ⟨"in"⟩
    let little : Number Double := ofUnit 5e-10 ⟨"px"⟩
    let metric : Number Double := ofUnit 1045921.2 ⟨"mm"⟩
    let typographic : Number Double := ofUnit 247068 ⟨"pc"⟩
    (nothing.compare .lessThan (.number little) = .ok false ∧
      little.compare .greaterThan (.number nothing) = .ok true) ∧
    (metric.compare .lessThan (.number typographic) = .ok true ∧
      typographic.compare .greaterThan (.number metric) = .ok false ∧
      typographic.compare .lessThan (.number metric) = .ok true) ∧
    ¬∀ left right : Number Double, left.isComparableTo right → left.value.isFinite →
      right.value.isFinite → left.Exchanges right := by
  intro nothing little metric typographic
  have shorter : nothing.compare .lessThan (.number little) = .ok false := by decide +kernel
  have longer : little.compare .greaterThan (.number nothing) = .ok true := by decide +kernel
  refine ⟨⟨shorter, longer⟩, by decide +kernel, fun exchange => ?_⟩
  have exchanged := exchange nothing little (by decide) (by decide +kernel) (by decide +kernel)
  rw [Exchanges, shorter, longer] at exchanged
  cases exchanged.1

/-- **Comparison from the other side.** On one scale, or with an operand without units, the
answers do not depend on which operand is on the left, whatever the scalars. A right operand
might as well be converted to the units of the left one first, which makes it one scale.
Between scales, where rounding leaves the difference of the operands visible on either of
them, the answers do not depend on the side exactly if both scales agree on whether the
operands are close. -/
theorem comparison_exchanges :
    (∀ left right : Number Double,
      left.units = right.units ∨ ¬left.hasUnits ∨ ¬right.hasUnits → left.Exchanges right) ∧
    (∀ left right coerced : Number Double, right.coerce left.units = .ok coerced →
      (∀ operator, left.compare operator (.number right) =
        left.compare operator (.number coerced)) ∧ left.Exchanges coerced) ∧
    ∀ left right : Number Double, left.isComparableTo right →
      left.value ≠ .nan → right.value ≠ .nan → left.Resolves right ∨ right.Resolves left →
      ∃ converted other, right.valueIn left.units = .ok converted ∧
        left.valueIn right.units = .ok other ∧
        (left.Exchanges right ↔ (left.value.Close converted ↔ other.Close right.value)) := by
  refine ⟨fun left right => exchanges_of_units, ?_, ?_⟩
  · intro left right coerced success
    obtain ⟨converted, isConverted, rfl⟩ := map_eq_ok_iff.mp success
    have oneScale : left.units = (ofUnits converted left.units).units := rfl
    refine ⟨fun operator => ?_, exchanges_of_units (.inl oneScale)⟩
    have there : (ofUnits converted left.units).valueIn left.units = .ok converted :=
      Signature.convert_self _ _
    rw [(meet_of_valueIn isConverted).compare_eq, (meet_of_valueIn there).compare_eq]
  · intro left right comparable leftNumber rightNumber resolves
    obtain ⟨converted, rightSuccess⟩ := isComparableTo_iff_exists_valueIn.mp comparable
    rw [isComparableTo_comm] at comparable
    obtain ⟨other, leftSuccess⟩ := isComparableTo_iff_exists_valueIn.mp comparable
    refine ⟨converted, other, rightSuccess, leftSuccess, ?_⟩
    have order := lt_iff_lt_of_resolves leftNumber rightNumber resolves rightSuccess leftSuccess
    rw [exchanges_iff rightSuccess leftSuccess]
    simp only [Double.Below, Double.AtMost]
    by_cases leftClose : left.value.Close converted
    · by_cases rightClose : other.Close right.value
      · simp [leftClose, rightClose]
      · simp [leftClose, rightClose]
    · by_cases rightClose : other.Close right.value
      · simp [leftClose, rightClose]
      · simp [leftClose, rightClose, order leftClose rightClose]

/-- An inch against forty-eight pixels gives the same answers from both sides, forty-eight
pixels in inches and back being forty-eight. -/
theorem inch_exchanges_with_pixels :
    let inch : Number Double := ofUnit 1 ⟨"in"⟩
    let pixels : Number Double := ofUnit 48 ⟨"px"⟩
    let coerced : Number Double := ofUnit 0.5 ⟨"in"⟩
    (inch.units = coerced.units ∧ inch.Exchanges coerced) ∧
      (pixels.coerce inch.units = .ok coerced ∧
        inch.compare .lessThan (.number pixels) = inch.compare .lessThan (.number coerced)) ∧
      inch.isComparableTo pixels ∧ inch.value ≠ .nan ∧ pixels.value ≠ .nan ∧
      inch.Resolves pixels ∧ inch.Exchanges pixels := by
  intro inch pixels coerced
  have coercion : pixels.coerce inch.units = .ok coerced := by decide +kernel
  have inchNumber : inch.value ≠ .nan := by decide +kernel
  have pixelsNumber : pixels.value ≠ .nan := by decide +kernel
  have comparable : inch.isComparableTo pixels := by decide
  have inInches : pixels.valueIn inch.units = .ok 0.5 := by decide +kernel
  have back : coerced.valueIn pixels.units = .ok 48 := by decide +kernel
  have inPixels : inch.valueIn pixels.units = .ok 96 := by decide +kernel
  have nearer : pixels.value.Nearer 48 96 :=
    ⟨48 * quantaPerOne, 48 * quantaPerOne, 96 * quantaPerOne, by decide +kernel,
      by decide +kernel, by decide +kernel, by decide +kernel⟩
  have resolves : inch.Resolves pixels := ⟨0.5, 48, 96, inInches, back, inPixels, .inr nearer⟩
  obtain ⟨converted, other, isConverted, isOther, exchanges⟩ :=
    comparison_exchanges.2.2 inch pixels comparable inchNumber pixelsNumber (.inl resolves)
  refine ⟨⟨rfl, comparison_exchanges.1 inch coerced (.inl rfl)⟩,
    ⟨coercion, (comparison_exchanges.2.1 inch pixels coerced coercion).1 .lessThan⟩,
    comparable, inchNumber, pixelsNumber, resolves, exchanges.mpr ?_⟩
  have farInInches : ¬inch.value.Close 0.5 := by decide +kernel
  have farInPixels : ¬Double.Close 96 pixels.value := by decide +kernel
  rw [Except.ok.inj (isConverted.symm.trans inInches), Except.ok.inj (isOther.symm.trans inPixels)]
  exact iff_of_false farInInches farInPixels

end Number

end StyleNumber
