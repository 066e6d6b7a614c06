import StyleNumber.Proofs.Number.Amount
import StyleNumber.Proofs.Signature.ProductLaws

/-! # Products distribute over sums

Operands of a sum may carry different units, so their products with one factor may
cancel different pairs and leave different units. What is left is commensurable all the
same, and the units of the left operand decide the result both ways: a sum of products
has the very units of the product with the sum (`Number.Scaling.distributesInUnits`).
In scalars that do not round the two are the same number, since amounts distribute
(`Number.Scaling.distributes`).
-/

namespace StyleNumber

namespace Number

/-- Whether a change of numbers can be made before or after an operation, as far as the
units of the result go. -/
def DistributesInUnits {K : Type} (operation : Number K → Number K → Except Error (Number K))
    (change : Number K → Number K) (left right : Number K) : Prop :=
  ∃ whole parts, operation left right = .ok whole ∧
    operation (change left) (change right) = .ok parts ∧ parts.units = (change whole).units

/-- Whether a change of numbers can be made before or after an operation. -/
def Distributes {K : Type} (operation : Number K → Number K → Except Error (Number K))
    (change : Number K → Number K) (left right : Number K) : Prop :=
  ∃ whole, operation left right = .ok whole ∧
    operation (change left) (change right) = .ok (change whole)

/-- A change that distributes carries the answer before it to the answer after it. -/
theorem Distributes.answer_eq {K : Type}
    {operation : Number K → Number K → Except Error (Number K)} {change : Number K → Number K}
    {left right whole : Number K} (distributes : Distributes operation change left right)
    (before : operation left right = .ok whole) :
    operation (change left) (change right) = .ok (change whole) := by
  obtain ⟨result, success, after⟩ := distributes
  rw [after, Except.ok.inj (success.symm.trans before)]

/-- A change of numbers that looks at nothing but the units to find those of its result,
and leaves commensurable numbers commensurable. -/
structure Scaling {K : Type} (change : Number K → Number K) : Prop where
  units_eq {first second : Number K} (same : first.units = second.units) :
    (change first).units = (change second).units
  commensurable {first second : Number K} (matched : first.units.Commensurable second.units) :
    (change first).units.Commensurable (change second).units
  /-- No text is written where there was none. -/
  written_eq {number : Number K} (unwritten : number.written = none) :
    (change number).written = none

section

variable {K : Type} [Mul K] [Div K] [Constants K]

private theorem times_scaling (factor : Number K) : Scaling (·.times factor) where
  units_eq {first second} same := by
    simp only [times, computed, same]
    exact Signature.units_multiply_eq _ _ second.units factor.units
  commensurable matched := matched.multiply (.refl factor.units) _ _
  written_eq _ := rfl

private theorem dividedBy_scaling (divisor : Number K) : Scaling (·.dividedBy divisor) where
  units_eq {first second} same := by
    simp only [dividedBy, same]
    exact Signature.units_multiply_eq _ _ second.units divisor.units.inverted
  commensurable matched := matched.multiply (.refl divisor.units.inverted) _ _
  written_eq unwritten := by simp only [dividedBy, unwritten]

private theorem Scaling.distributesInUnits {change : Number K → Number K} (scaling : Scaling change)
    (operation : K → K → K) {left right : Number K}
    (matched : left.units.Commensurable right.units) :
    DistributesInUnits (coercedOperation operation) change left right := by
  obtain ⟨_, _, whole⟩ := coercedOperation_of_commensurable operation matched
  obtain ⟨_, _, parts⟩ := coercedOperation_of_commensurable operation
    (scaling.commensurable matched)
  exact ⟨_, _, whole, parts, scaling.units_eq rfl⟩

end

private theorem Scaling.distributes [ExactConstants] (scale : Scale) {change : Number ℝ → Number ℝ}
    (scaling : Scaling change) {ratio : ℝ}
    (scaled : ∀ number, (change number).amount scale = number.amount scale * ratio)
    {operation : ℝ → ℝ → ℝ} (homogeneous : Homogeneous operation) {left right : Number ℝ}
    (matched : left.units.Commensurable right.units) :
    Distributes (coercedOperation operation) change left right := by
  have partsMatched := scaling.commensurable matched
  obtain ⟨_, _, whole⟩ := coercedOperation_of_commensurable operation matched
  obtain ⟨_, _, parts⟩ := coercedOperation_of_commensurable operation partsMatched
  have wholeAmount := amount_coercedOperation scale homogeneous matched whole
  have partsAmount := amount_coercedOperation scale homogeneous partsMatched parts
  refine ⟨_, whole, parts.trans (congrArg Except.ok ?_)⟩
  apply eq_of_amount_eq scale
  · exact scaling.units_eq rfl
  · rw [partsAmount, scaled, scaled, scaled, homogeneous, wholeAmount]
  · exact (scaling.written_eq rfl).symm

/-- **Multiplication and division distribute over addition and subtraction.** Whatever the
scalars are, comparable numbers with units can be added or subtracted after a common
multiplication or division, and the units come out as if it had been done last. In scalars
that do not round, so does the number. -/
theorem products_distribute_over_sums :
    (∀ (K : Type) [Mul K] [Div K] [Constants K] [Add K] [Sub K] (left right other : Number K),
      left.hasUnits → right.hasUnits → left.isComparableTo right →
        DistributesInUnits plus (·.times other) left right ∧
          DistributesInUnits minus (·.times other) left right ∧
          DistributesInUnits plus (·.dividedBy other) left right ∧
          DistributesInUnits minus (·.dividedBy other) left right) ∧
      ∀ [ExactConstants] (left right other : Number ℝ),
        left.hasUnits → right.hasUnits → left.isComparableTo right →
          Distributes plus (·.times other) left right ∧
            Distributes minus (·.times other) left right ∧
            (other.value ≠ 0 →
              Distributes plus (·.dividedBy other) left right ∧
                Distributes minus (·.dividedBy other) left right) := by
  constructor
  · intro K _ _ _ _ _ left right other leftUnits rightUnits comparable
    have matched := (isComparableTo_iff leftUnits rightUnits).mp comparable
    refine ⟨?_, ?_, ?_, ?_⟩
    · exact (times_scaling other).distributesInUnits _ matched
    · exact (times_scaling other).distributesInUnits _ matched
    · exact (dividedBy_scaling other).distributesInUnits _ matched
    · exact (dividedBy_scaling other).distributesInUnits _ matched
  · intro _ left right other leftUnits rightUnits comparable
    have matched := (isComparableTo_iff leftUnits rightUnits).mp comparable
    have product (number : Number ℝ) := amount_times .standard number other
    have quotient (number : Number ℝ) : (number.dividedBy other).amount .standard =
        number.amount .standard * (other.amount .standard)⁻¹ := by
      rw [amount_dividedBy, div_eq_mul_inv]
    -- A quotient of reals by zero is zero, so it distributes as any other does.
    refine ⟨?_, ?_, fun _ => ⟨?_, ?_⟩⟩
    · exact (times_scaling other).distributes .standard product homogeneous_add matched
    · exact (times_scaling other).distributes .standard product homogeneous_sub matched
    · exact (dividedBy_scaling other).distributes .standard quotient homogeneous_add matched
    · exact (dividedBy_scaling other).distributes .standard quotient homogeneous_sub matched

/-- An inch and 48 pixels, multiplied or divided by two seconds per pixel: the products are
both in seconds, the quotients differ in a unit. The products add up to 288 seconds, the
quotients differ by a quarter, in reals and in doubles. -/
theorem lengths_distribute :
    letI := ExactConstants.standard
    let perPixel : Signature := ⟨[⟨"s"⟩], [⟨"px"⟩]⟩
    let inch : Number ℝ := ofUnit 1 ⟨"in"⟩
    let pixels : Number ℝ := ofUnit 48 ⟨"px"⟩
    let other : Number ℝ := ofUnits 2 perPixel
    let roundedInch : Number Double := ofUnit 1 ⟨"in"⟩
    let roundedPixels : Number Double := ofUnit 48 ⟨"px"⟩
    let roundedOther : Number Double := ofUnits 2 perPixel
    ((inch.times other).units = .single ⟨"s"⟩ ∧ (pixels.times other).units = .single ⟨"s"⟩ ∧
        (inch.dividedBy other).units = ⟨[⟨"in"⟩, ⟨"px"⟩], [⟨"s"⟩]⟩ ∧
        (pixels.dividedBy other).units = ⟨[⟨"px"⟩, ⟨"px"⟩], [⟨"s"⟩]⟩) ∧
      (inch.hasUnits ∧ pixels.hasUnits ∧ inch.isComparableTo pixels ∧ other.value ≠ 0) ∧
      (inch.plus pixels = .ok (ofUnit 1.5 ⟨"in"⟩) ∧ Distributes plus (·.times other) inch pixels ∧
        (inch.times other).plus (pixels.times other) = .ok (ofUnit 288 ⟨"s"⟩)) ∧
      (inch.minus pixels = .ok (ofUnit 0.5 ⟨"in"⟩) ∧
        Distributes minus (·.dividedBy other) inch pixels ∧
        (inch.dividedBy other).minus (pixels.dividedBy other) =
          .ok (ofUnits 0.25 ⟨[⟨"in"⟩, ⟨"px"⟩], [⟨"s"⟩]⟩)) ∧
      DistributesInUnits minus (·.dividedBy roundedOther) roundedInch roundedPixels ∧
      (roundedInch.dividedBy roundedOther).minus (roundedPixels.dividedBy roundedOther) =
        .ok (ofUnits 0.25 ⟨[⟨"in"⟩, ⟨"px"⟩], [⟨"s"⟩]⟩) := by
  let _ := ExactConstants.standard
  intro perPixel inch pixels other roundedInch roundedPixels roundedOther
  have nonzero : other.value ≠ 0 := two_ne_zero
  have exactly := products_distribute_over_sums.2 inch pixels other (by decide) (by decide)
    (by decide)
  have inDoubles := products_distribute_over_sums.1 Double roundedInch roundedPixels
    roundedOther (by decide) (by decide) (by decide)
  have sum : inch.plus pixels = .ok (ofUnit 1.5 ⟨"in"⟩) := by
    have steps : inch.plus pixels = .ok (ofUnit (1 + 48 * Factor.eval (1 / 96)) ⟨"in"⟩) := rfl
    rw [steps]
    norm_num
  have difference : inch.minus pixels = .ok (ofUnit 0.5 ⟨"in"⟩) := by
    have steps : inch.minus pixels = .ok (ofUnit (1 - 48 * Factor.eval (1 / 96)) ⟨"in"⟩) := rfl
    rw [steps]
    norm_num
  -- The theorem carries the two totals over: what is left is one product and one quotient.
  have products : (inch.times other).plus (pixels.times other) = .ok (ofUnit 288 ⟨"s"⟩) :=
    calc (inch.times other).plus (pixels.times other)
        = .ok ((ofUnit 1.5 ⟨"in"⟩).times other) := exactly.1.answer_eq sum
      _ = .ok (ofUnit (1.5 * 2 * Factor.eval 96) ⟨"s"⟩) := rfl
      _ = .ok (ofUnit 288 ⟨"s"⟩) := by norm_num
  have quotients : (inch.dividedBy other).minus (pixels.dividedBy other) =
      .ok (ofUnits 0.25 ⟨[⟨"in"⟩, ⟨"px"⟩], [⟨"s"⟩]⟩) :=
    calc (inch.dividedBy other).minus (pixels.dividedBy other)
        = .ok ((ofUnit 0.5 ⟨"in"⟩).dividedBy other) :=
          (exactly.2.2 nonzero).2.answer_eq difference
      _ = .ok (ofUnits (0.5 / 2) ⟨[⟨"in"⟩, ⟨"px"⟩], [⟨"s"⟩]⟩) := rfl
      _ = .ok (ofUnits 0.25 ⟨[⟨"in"⟩, ⟨"px"⟩], [⟨"s"⟩]⟩) := by norm_num
  exact ⟨⟨rfl, rfl, rfl, rfl⟩, ⟨rfl, rfl, rfl, nonzero⟩, ⟨sum, exactly.1, products⟩,
    ⟨difference, (exactly.2.2 nonzero).2, quotients⟩, inDoubles.2.2.2, by decide +kernel⟩

end Number

end StyleNumber
