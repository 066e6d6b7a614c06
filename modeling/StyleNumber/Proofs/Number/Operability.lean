import StyleNumber.Operation
import StyleNumber.Proofs.Number.Coercion

/-! # Which operations fail

An operator between a number and a value fails in two ways only
(`Number.apply_eq_error_iff`): it is undefined for the kind of the value
(`Operator.Undefined`), or the value is a number that is not comparable to the left one
(`Operator.Incompatible`), which products and quotients do not mind. Comparability is
therefore all there is to know before two numbers meet, and it does not matter from
which side it is asked (`Number.comparable_iff_operable`).
-/

namespace StyleNumber

namespace Operator

/-- Whether an operator is not defined between a number and a value: colors can only be
added, subtracted and divided by, and nothing else but numbers takes part at all. -/
def Undefined (operator : Operator) (right : Value) : Prop :=
  (∃ text, right = .other text) ∨
    (∃ color, right = .color color) ∧
      operator ∉ [arithmetic .plus, arithmetic .minus, arithmetic .dividedBy]

/-- Whether an operator needs comparable numbers and has others. -/
def Incompatible (operator : Operator) (left : Number Double) (right : Value) : Prop :=
  ∃ other, right = .number other ∧ ¬left.isComparableTo other ∧
    operator ∉ [arithmetic .times, arithmetic .dividedBy]

end Operator

namespace Number

/-- What an operator gives between a number and a value: a value or, if it compares, an
answer. -/
def apply (operator : Operator) (left : Number Double) (right : Value) :
    Except Error (Value ⊕ Bool) :=
  match operator with
  | .arithmetic operator => (left.operate operator right).map .inl
  | .comparison operator => (left.compare operator right).map .inr

section

variable {K : Type} [Mul K] [Div K] [Constants K]

/-- A number converts when its scalar does. -/
theorem exists_coerce_iff {number : Number K} {target : Signature} :
    (∃ coerced, number.coerce target = .ok coerced) ↔
      ∃ converted, number.valueIn target = .ok converted := by
  rw [coerce]
  cases number.valueIn target <;> simp [Except.map]

/-- The probe foretells whether both scalars come into one signature. -/
theorem coercedValues_eq_error_iff {left right : Number K} {error : Error} :
    left.coercedValues right = .error error ↔
      ¬left.isComparableTo right ∧
        error = .incompatibleUnits right.units.text left.units.text := by
  rw [coercedValues_eq, map_eq_error_iff, isComparableTo_iff_exists_valueIn]
  constructor
  · intro failure
    refine ⟨?_, Signature.error_of_convert failure⟩
    rintro ⟨converted, success⟩
    rw [success] at failure
    cases failure
  · rintro ⟨unconverted, rfl⟩
    cases outcome : right.valueIn left.units with
    | ok converted => exact (unconverted ⟨converted, outcome⟩).elim
    | error error => rw [Signature.error_of_convert outcome]

private theorem coercedOperation_eq_error_iff {operation : K → K → K} {left right : Number K}
    {error : Error} :
    left.coercedOperation operation right = .error error ↔
      ¬left.isComparableTo right ∧
        error = .incompatibleUnits right.units.text left.units.text := by
  rw [coercedOperation, map_eq_error_iff, coercedValues_eq_error_iff]

/-- Comparability passes on among numbers with units, as commensurability does. -/
theorem isComparableTo_trans {first second third : Number K} (firstUnits : first.hasUnits)
    (secondUnits : second.hasUnits) (thirdUnits : third.hasUnits)
    (lower : first.isComparableTo second) (upper : second.isComparableTo third) :
    first.isComparableTo third := by
  rw [isComparableTo_iff firstUnits secondUnits] at lower
  rw [isComparableTo_iff secondUnits thirdUnits] at upper
  exact (isComparableTo_iff firstUnits thirdUnits).mpr (lower.trans upper)

end

private theorem calculate_eq_error_iff {operator : Arithmetic} {left right : Number Double}
    {error : Error} :
    left.calculate operator right = .error error ↔
      (¬left.isComparableTo right ∧ operator ∉ [.times, .dividedBy]) ∧
        error = .incompatibleUnits right.units.text left.units.text := by
  cases operator with
  | plus | minus | modulo =>
    refine Iff.trans coercedOperation_eq_error_iff ?_
    simp
  | times | dividedBy => simp [calculate]

/-- **The two ways in which an operator fails.** Either way the report is determined. -/
theorem apply_eq_error_iff {operator : Operator} {left : Number Double} {right : Value}
    {error : Error} :
    left.apply operator right = .error error ↔
      (operator.Undefined right ∧ error = .undefinedOperation operator left.text right.text) ∨
        ∃ other, right = .number other ∧ operator.Incompatible left right ∧
          error = .incompatibleUnits other.units.text left.units.text := by
  cases right with
  | number other =>
    cases operator with
    | arithmetic operator =>
      simp [apply, operate, map_eq_error_iff, calculate_eq_error_iff, Operator.Undefined,
        Operator.Incompatible]
    | comparison operator =>
      simp [apply, compare, map_eq_error_iff, coercedValues_eq_error_iff, Operator.Undefined,
        Operator.Incompatible]
  | color color =>
    cases operator with
    | arithmetic operator =>
      cases operator <;>
        simp [apply, operate, Arithmetic.joinsTexts, map_eq_error_iff, Operator.Undefined,
          @eq_comm _ error]
    | comparison operator =>
      simp [apply, compare, map_eq_error_iff, Operator.Undefined, @eq_comm _ error]
  | other text =>
    cases operator with
    | arithmetic operator =>
      simp [apply, operate, map_eq_error_iff, Operator.Undefined, @eq_comm _ error]
    | comparison operator =>
      simp [apply, compare, map_eq_error_iff, Operator.Undefined, @eq_comm _ error]

/-- An operator gives a result unless it is undefined for the value or the numbers are
incompatible. -/
theorem exists_apply_eq_ok_iff {operator : Operator} {left : Number Double} {right : Value} :
    (∃ result, left.apply operator right = .ok result) ↔
      ¬operator.Undefined right ∧ ¬operator.Incompatible left right := by
  have failing : (∃ error, left.apply operator right = .error error) ↔
      operator.Undefined right ∨ operator.Incompatible left right := by
    simp only [apply_eq_error_iff, exists_or, exists_and_left, exists_eq, and_true]
    refine or_congr_right ⟨?_, ?_⟩
    · rintro ⟨error, other, _, incompatible, _⟩
      exact incompatible
    · rintro ⟨other, isNumber, denied⟩
      exact ⟨_, other, isNumber, ⟨other, isNumber, denied⟩, rfl⟩
  rw [← not_or, ← failing]
  cases left.apply operator right <;> simp

/-- **Comparable numbers are the ones that can be operated on.** The probe answers alike from
both sides, foretells whether the right number converts to the units of the left, and
passes on among numbers with units. An operator fails as undefined for the kind of its right
operand, or for incompatible units where it needs comparable numbers and the probe denies
them, naming the units of both; and it fails in no other case, products and quotients of
numbers never. -/
theorem comparable_iff_operable :
    (∀ left right : Number Double,
      left.isComparableTo right = right.isComparableTo left ∧
        (left.isComparableTo right ↔ ∃ coerced, right.coerce left.units = .ok coerced)) ∧
    (∀ first second third : Number Double,
      first.hasUnits → second.hasUnits → third.hasUnits →
        first.isComparableTo second → second.isComparableTo third →
          first.isComparableTo third) ∧
    (∀ (operator : Operator) (left : Number Double) (right : Value),
      ((∃ symbol leftText rightText,
          left.apply operator right = .error (.undefinedOperation symbol leftText rightText)) ↔
        operator.Undefined right) ∧
      ((∃ source target,
          left.apply operator right = .error (.incompatibleUnits source target)) ↔
        operator.Incompatible left right) ∧
      (∀ source target,
        left.apply operator right = .error (.incompatibleUnits source target) →
          ∃ other, right = .number other ∧ source = other.units.text ∧
            target = left.units.text) ∧
      ((∃ result, left.apply operator right = .ok result) ↔
        ¬operator.Undefined right ∧ ¬operator.Incompatible left right)) ∧
    ∀ left right : Number Double,
      (∃ product, left.apply (.arithmetic .times) (.number right) = .ok product) ∧
        ∃ quotient, left.apply (.arithmetic .dividedBy) (.number right) = .ok quotient := by
  refine ⟨?_, ?_, ?_, ?_⟩
  · intro left right
    exact ⟨isComparableTo_comm left right,
      isComparableTo_iff_exists_valueIn.trans exists_coerce_iff.symm⟩
  · intro first second third
    exact isComparableTo_trans
  · intro operator left right
    refine ⟨?_, ?_, ?_, exists_apply_eq_ok_iff⟩
    · simp [apply_eq_error_iff]
    · simp only [apply_eq_error_iff, reduceCtorEq, and_false, false_or,
        Error.incompatibleUnits.injEq]
      constructor
      · rintro ⟨source, target, other, _, incompatible, _⟩
        exact incompatible
      · rintro ⟨other, isNumber, denied⟩
        exact ⟨_, _, other, isNumber, ⟨other, isNumber, denied⟩, rfl, rfl⟩
    · intro source target failure
      rw [apply_eq_error_iff] at failure
      simp only [reduceCtorEq, and_false, false_or, Error.incompatibleUnits.injEq] at failure
      obtain ⟨other, isNumber, _, texts⟩ := failure
      exact ⟨other, isNumber, texts⟩
  · intro left right
    constructor
    · exact exists_apply_eq_ok_iff.mpr (by simp [Operator.Undefined, Operator.Incompatible])
    · exact exists_apply_eq_ok_iff.mpr (by simp [Operator.Undefined, Operator.Incompatible])

/-- Inches, pixels and centimeters are comparable to each other. Seconds are not, and an inch
less a second reports the seconds first. -/
theorem inch_comparable_to_centimeter :
    let inch : Number Double := ofUnit 1 ⟨"in"⟩
    let pixel : Number Double := ofUnit 1 ⟨"px"⟩
    let centimeter : Number Double := ofUnit 1 ⟨"cm"⟩
    let second : Number Double := ofUnit 1 ⟨"s"⟩
    (inch.hasUnits ∧ pixel.hasUnits ∧ centimeter.hasUnits ∧ inch.isComparableTo pixel ∧
        pixel.isComparableTo centimeter) ∧
      inch.isComparableTo centimeter ∧
      ¬inch.isComparableTo second ∧
      inch.apply (.arithmetic .minus) (.number second) = .error (.incompatibleUnits "s" "in") ∧
      ∃ other, Value.number second = .number other ∧ "s" = other.units.text ∧
        "in" = inch.units.text := by
  intro inch pixel centimeter second
  have failure : inch.apply (.arithmetic .minus) (.number second) =
      .error (.incompatibleUnits "s" "in") := by decide +kernel
  refine ⟨⟨rfl, rfl, rfl, by decide, by decide⟩, ?_, by decide, failure, ?_⟩
  · exact comparable_iff_operable.2.1 inch pixel centimeter rfl rfl rfl (by decide) (by decide)
  · exact (comparable_iff_operable.2.2.1 (.arithmetic .minus) inch (.number second)).2.2.1
      _ _ failure

end Number

end StyleNumber
