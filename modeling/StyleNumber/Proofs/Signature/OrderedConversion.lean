import StyleNumber.Proofs.Double.Scaling
import StyleNumber.Proofs.Signature.Conversion

/-! # Conversion of doubles keeps their order

Which units pair up does not depend on the value, so a conversion multiplies every value
by the same factors (`Signature.convert_eq_scaled`). In doubles all factors of the table are
positive (`TableUnit.isPositive_eval`), hence a conversion with all its rounding never
makes two doubles change places (`Signature.convert_le_convert`). It keeps their signs
(`sign?_scaled`) and takes opposite doubles to opposite ones (`scaled_neg`).
-/

namespace StyleNumber

/-- The factors that conversions multiply by. -/
def ConversionFactor (factor : Factor) : Prop :=
  ∃ source target : UnitSymbol, source.conversionFactor? target = some factor

/-- A conversion multiplies every value by the same conversion factors. -/
theorem Signature.convert_eq_scaled {K : Type} [Mul K] [Div K] [Constants K] {value converted : K}
    {source target : Signature} (success : convert value source target = .ok converted) :
    ∃ pairs, (∀ pair ∈ pairs, ConversionFactor pair.factor) ∧
      ∀ other : K, convert other source target = .ok (scaled other pairs) := by
  by_cases unchanged : source = target ∨ source.isEmpty ∨ target.isEmpty
  · exact ⟨[], by simp, fun other => if_pos unchanged⟩
  · simp only [not_or] at unchanged
    obtain ⟨different, sourceUnits, targetUnits⟩ := unchanged
    rw [convert_eq_ok_iff sourceUnits targetUnits different, pairUp_eq_some_iff] at success
    obtain ⟨halfway, above, below⟩ := success
    obtain ⟨upper, upperSearch, fillAbove⟩ := fill_eq_scaled above
    obtain ⟨lower, lowerSearch, fillBelow⟩ := fill_eq_scaled below
    refine ⟨upper ++ lower, ?_, fun other => ?_⟩
    · intro pair member
      rcases List.mem_append.mp member with isUpper | isLower
      · exact ⟨_, _, upperSearch.related_of_mem isUpper⟩
      · exact ⟨_, _, lowerSearch.related_of_mem isLower⟩
    · rw [convert_eq_ok_iff sourceUnits targetUnits different, pairUp_eq_some_iff, scaled_append]
      exact ⟨_, fillAbove other, fillBelow (scaled other upper)⟩

private theorem TableUnit.isPositive_eval {source target : TableUnit} {factor : Factor}
    (related : source.factor? target = some factor) : (factor.eval : Double).IsPositive := by
  have table : ∀ source ∈ all, ∀ target ∈ all, ∀ factor ∈ source.factor? target,
      (factor.eval : Double).IsPositive := by decide +kernel
  exact table source (mem_all source) target (mem_all target) factor related

private theorem ConversionFactor.isPositive_eval {factor : Factor}
    (converts : ConversionFactor factor) :
    (factor.eval : Double).IsPositive := by
  obtain ⟨source, target, related⟩ := converts
  unfold UnitSymbol.conversionFactor? at related
  split at related
  · cases related
    decide +kernel
  · unfold UnitSymbol.tableFactor? at related
    split at related
    · exact TableUnit.isPositive_eval related
    · cases related

/-- Rounded scaling by conversion factors keeps the order of doubles. -/
theorem scaled_le_scaled {low high : Double} (ordered : low ≤ high) {pairs : List Pair}
    (convert : ∀ pair ∈ pairs, ConversionFactor pair.factor) :
    scaled low pairs ≤ scaled high pairs := by
  induction pairs generalizing low high with
  | nil => exact ordered
  | cons pair pairs ih =>
    have positive := (convert pair List.mem_cons_self).isPositive_eval
    exact ih (Double.mul_le_mul_of_isPositive ordered positive)
      fun other member => convert other (List.mem_cons_of_mem _ member)

/-- Positive factors keep the sign of a value. -/
theorem sign?_scaled (value : Double) {pairs : List Pair}
    (convert : ∀ pair ∈ pairs, ConversionFactor pair.factor) :
    (scaled value pairs).sign? = value.sign? := by
  induction pairs generalizing value with
  | nil => rfl
  | cons pair pairs ih =>
    have positive := (convert pair List.mem_cons_self).isPositive_eval
    calc (scaled value (pair :: pairs)).sign?
        = (value * pair.factor.eval).sign? :=
          ih _ fun other member => convert other (List.mem_cons_of_mem _ member)
      _ = value.sign? := Double.sign?_mul_of_isPositive value positive

/-- The opposite of a double is scaled to the opposite, rounding included. -/
theorem scaled_neg (value : Double) (pairs : List Pair) :
    scaled (-value) pairs = -scaled value pairs := by
  induction pairs generalizing value with
  | nil => rfl
  | cons pair pairs ih =>
    calc scaled (-value) (pair :: pairs)
        = scaled (-(value * pair.factor.eval)) pairs :=
          congrArg (scaled · pairs) (Double.neg_mul value _)
      _ = -scaled value (pair :: pairs) := ih _

/-- **Conversion does not invert an order.** -/
theorem Signature.convert_le_convert {source target : Signature}
    {low high lowConverted highConverted : Double} (ordered : low ≤ high)
    (lowSuccess : convert low source target = .ok lowConverted)
    (highSuccess : convert high source target = .ok highConverted) :
    lowConverted ≤ highConverted := by
  obtain ⟨pairs, convertible, same⟩ := convert_eq_scaled lowSuccess
  have lowScaled := (same low).symm.trans lowSuccess
  have highScaled := (same high).symm.trans highSuccess
  rw [Except.ok.injEq] at lowScaled highScaled
  rw [← lowScaled, ← highScaled]
  exact scaled_le_scaled ordered convertible

end StyleNumber
