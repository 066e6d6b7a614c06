import Mathlib
import StyleNumber.Unit.Symbol

/-! # Sizes of units

In scalars that do not round (`ExactConstants`), the factors of the table fit
together: every unit has a size in a base unit of its category, and each factor is the
quotient of two sizes (`TableUnit.baseFactor_eval_eq`). An assignment of sizes with
that property is a `Scale`. Which scale is used does not matter for what follows, and
there is one (`Scale.standard`).
-/

namespace StyleNumber

/-- Constants without rounding: a numeral is the fraction it denotes, and half a turn is
some positive number. -/
class ExactConstants extends Constants ℝ where
  decimal_eq (digits places : ℕ) : decimal digits places = digits / 10 ^ places
  pi_pos : 0 < pi

/-- The real numbers with their own π. -/
@[reducible] noncomputable def ExactConstants.standard : ExactConstants where
  decimal digits places := digits / 10 ^ places
  pi := Real.pi
  decimal_eq _ _ := rfl
  pi_pos := Real.pi_pos

variable [ExactConstants]

namespace Factor

/-- A whole numeral stands for itself. -/
@[simp] theorem eval_ofNat (count : ℕ) :
    (ofNat(count) : Factor).eval = (count : ℝ) := by
  change Constants.decimal count 0 = (count : ℝ)
  rw [ExactConstants.decimal_eq, pow_zero, div_one]

/-- A decimal numeral stands for the fraction it denotes. -/
@[simp] theorem eval_ofScientific (digits places : ℕ) :
    (OfScientific.ofScientific digits true places : Factor).eval =
      (digits / 10 ^ places : ℝ) :=
  ExactConstants.decimal_eq digits places

/-- Half a turn stands for the constant of the scalars. -/
@[simp] theorem eval_pi : (Factor.pi.eval : ℝ) = Constants.pi := rfl

/-- A product of factors stands for the product of their values. -/
@[simp] theorem eval_mul (left right : Factor) :
    ((left * right).eval : ℝ) = left.eval * right.eval := rfl

/-- A quotient of factors stands for the quotient of their values. -/
@[simp] theorem eval_div (left right : Factor) :
    ((left / right).eval : ℝ) = left.eval / right.eval := rfl

end Factor

private theorem pi_ne_zero : (Constants.pi : ℝ) ≠ 0 :=
  ExactConstants.pi_pos.ne'

private theorem LengthUnit.factor_eval (source target : LengthUnit) :
    ((source.factor inch).eval : ℝ) =
      (source.factor target).eval * (target.factor inch).eval := by
  cases source <;> cases target <;> norm_num [factor, choose]

private theorem AngleUnit.factor_eval (source target : AngleUnit) :
    ((source.factor degree).eval : ℝ) =
      (source.factor target).eval * (target.factor degree).eval := by
  have nonzero := pi_ne_zero
  cases source <;> cases target <;> norm_num [factor, choose] <;> field_simp <;> norm_num

private theorem TimeUnit.factor_eval (source target : TimeUnit) :
    ((source.factor second).eval : ℝ) =
      (source.factor target).eval * (target.factor second).eval := by
  cases source <;> cases target <;> norm_num [factor]

private theorem FrequencyUnit.factor_eval (source target : FrequencyUnit) :
    ((source.factor hertz).eval : ℝ) =
      (source.factor target).eval * (target.factor hertz).eval := by
  cases source <;> cases target <;> norm_num [factor]

private theorem ResolutionUnit.factor_eval (source target : ResolutionUnit) :
    ((source.factor dotsPerInch).eval : ℝ) =
      (source.factor target).eval * (target.factor dotsPerInch).eval := by
  cases source <;> cases target <;> norm_num [factor]

namespace TableUnit

/-- How many base units of its category make up the unit. -/
def baseFactor : TableUnit → Factor
  | length unit => unit.factor .inch
  | angle unit => unit.factor .degree
  | time unit => unit.factor .second
  | frequency unit => unit.factor .hertz
  | resolution unit => unit.factor .dotsPerInch

/-- Converting to a unit first does not change the way to the base unit. -/
theorem baseFactor_eval_eq {source target : TableUnit} {factor : Factor}
    (related : source.factor? target = some factor) :
    (source.baseFactor.eval : ℝ) = factor.eval * target.baseFactor.eval := by
  unfold factor? at related
  split at related
  · cases related
    exact LengthUnit.factor_eval _ _
  · cases related
    exact AngleUnit.factor_eval _ _
  · cases related
    exact TimeUnit.factor_eval _ _
  · cases related
    exact FrequencyUnit.factor_eval _ _
  · cases related
    exact ResolutionUnit.factor_eval _ _
  · cases related

private theorem baseFactor_eval_pos (unit : TableUnit) : (0 : ℝ) < unit.baseFactor.eval := by
  have positive : (0 : ℝ) < Constants.pi := ExactConstants.pi_pos
  cases unit with
  | length unit => cases unit <;> norm_num [baseFactor, LengthUnit.factor, LengthUnit.choose]
  | angle unit =>
    cases unit <;> norm_num [baseFactor, AngleUnit.factor, AngleUnit.choose]
    positivity
  | time unit => cases unit <;> norm_num [baseFactor, TimeUnit.factor]
  | frequency unit => cases unit <;> norm_num [baseFactor, FrequencyUnit.factor]
  | resolution unit => cases unit <;> norm_num [baseFactor, ResolutionUnit.factor]

end TableUnit

/-- A positive size for every symbol, in line with the table: a unit is as large as the
targets it makes up together. Symbols outside the table may have any size. -/
structure Scale where
  size : UnitSymbol → ℝ
  size_pos (symbol : UnitSymbol) : 0 < size symbol
  size_eq {source target : UnitSymbol} {factor : Factor}
    (related : source.tableFactor? target = some factor) :
    size source = factor.eval * size target

namespace Scale

/-- The scale of base units, with unknown symbols of size one. -/
noncomputable def standard : Scale where
  size symbol := (symbol.unit?.map fun unit => unit.baseFactor.eval).getD 1
  size_pos symbol := by
    cases symbol.unit? with
    | none => exact one_pos
    | some unit => exact unit.baseFactor_eval_pos
  size_eq {source target factor} related := by
    unfold UnitSymbol.tableFactor? at related
    split at related
    · next sourceUnit targetUnit sourceKnown targetKnown =>
      rw [sourceKnown, targetKnown]
      exact TableUnit.baseFactor_eval_eq related
    · cases related

variable (scale : Scale)

/-- No unit has the size zero. -/
theorem size_ne_zero (symbol : UnitSymbol) : scale.size symbol ≠ 0 :=
  (scale.size_pos symbol).ne'

/-- A unit is as large as the targets it makes up together, also if it is the target. -/
theorem size_eq_of_conversionFactor {source target : UnitSymbol} {factor : Factor}
    (related : source.conversionFactor? target = some factor) :
    scale.size source = factor.eval * scale.size target := by
  unfold UnitSymbol.conversionFactor? at related
  split at related
  · next same =>
    cases related
    rw [same, Factor.eval_ofNat, Nat.cast_one, one_mul]
  · exact scale.size_eq related

/-- The size of units multiplied together. -/
noncomputable def total (units : List UnitSymbol) : ℝ :=
  (units.map scale.size).prod

/-- The total of two lists of units is the product of their totals. -/
theorem total_append (first second : List UnitSymbol) :
    scale.total (first ++ second) = scale.total first * scale.total second := by
  rw [total, List.map_append, List.prod_append, total, total]

/-- No list of units has the total zero. -/
theorem total_ne_zero (units : List UnitSymbol) : scale.total units ≠ 0 := by
  apply List.prod_ne_zero
  rw [List.mem_map]
  rintro ⟨symbol, _, zero⟩
  exact scale.size_ne_zero symbol zero

end Scale

end StyleNumber
