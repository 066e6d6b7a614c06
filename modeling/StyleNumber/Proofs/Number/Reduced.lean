import StyleNumber.Proofs.Number.Expression
import StyleNumber.Proofs.Signature.Reduced

/-! # Expressions stay reduced

No operation on numbers leaves a unit above the bar together with one below it that it
converts into, provided it was given none (`Number.calculate_reduced`). By induction no
expression does (`Expression.evaluate_reduced`).
-/

namespace StyleNumber

namespace Number

variable {K : Type} [Mul K] [Div K] [Constants K]

/-- Sums, differences and remainders take the units of an operand. -/
theorem units_of_coercedOperation {operation : K → K → K} {left right result : Number K}
    (success : left.coercedOperation operation right = .ok result) :
    result.units = left.units ∨ result.units = right.units := by
  obtain ⟨values, _, rfl⟩ := map_eq_ok_iff.mp success
  by_cases bearing : left.hasUnits
  · exact .inl (if_pos bearing)
  · exact .inr (if_neg bearing)

private theorem calculate_reduced {operator : Arithmetic} {left right result : Number Double}
    (leftReduced : left.units.Reduced) (rightReduced : right.units.Reduced)
    (success : left.calculate operator right = .ok result) : result.units.Reduced := by
  cases operator with
  | plus | minus | modulo =>
    rcases units_of_coercedOperation success with same | same
    · exact same ▸ leftReduced
    · exact same ▸ rightReduced
  | times =>
    cases success
    exact Signature.multiply_reduced _ leftReduced rightReduced
  | dividedBy =>
    cases success
    exact Signature.divide_reduced _ leftReduced rightReduced

end Number

namespace Expression

private theorem evaluate_reduced {expression : Expression}
    (reduced : ∀ units ∈ expression.signatures, units.Reduced) {result : Number Double}
    (success : expression.evaluate = .ok result) : result.units.Reduced := by
  induction expression generalizing result with
  | number leaf =>
    cases success
    exact reduced leaf.units List.mem_cons_self
  | operation operator left right leftIh rightIh =>
    obtain ⟨leftNumber, leftSuccess, continued⟩ := bind_eq_ok_iff.mp success
    obtain ⟨rightNumber, rightSuccess, calculated⟩ := bind_eq_ok_iff.mp continued
    apply Number.calculate_reduced _ _ calculated
    · exact leftIh (fun units given => reduced units (List.mem_append_left _ given)) leftSuccess
    · exact rightIh (fun units given => reduced units (List.mem_append_right _ given)) rightSuccess
  | unaryPlus operand ih | unaryMinus operand ih | strip operand ih | writtenAs operand text ih =>
    obtain ⟨number, evaluated, rfl⟩ := map_eq_ok_iff.mp success
    have kept : number.units.Reduced := ih reduced evaluated
    exact kept
  | coerce operand target ih =>
    obtain ⟨number, _, converted⟩ := bind_eq_ok_iff.mp success
    rw [Number.units_of_coerce converted]
    exact reduced target List.mem_cons_self

/-- **Every number that an expression produces is reduced** when its leaves and the
signatures it converts to are. -/
theorem every_part_reduced {expression part : Expression}
    (reduced : ∀ units ∈ expression.signatures, units.Reduced)
    (inside : part ∈ expression.parts) {result : Number Double}
    (success : part.evaluate = .ok result) : result.units.Reduced :=
  evaluate_reduced
    (fun units given => reduced units (signatures_subset_of_mem_parts inside given)) success

/-- A speed times a duration, plus a length, over a duration: seconds cancel and the
197 pixels of the sum stay. -/
theorem speed_times_duration_reduced :
    let speed := number (.ofUnits 10 ⟨[⟨"px"⟩], [⟨"s"⟩]⟩)
    let duration := number (.ofUnits 500 ⟨[⟨"ms"⟩], []⟩)
    let length := number (.ofUnits 2 ⟨[⟨"in"⟩], []⟩)
    let distance := operation .plus (operation .times speed duration) length
    let mean : Number Double := .ofUnits 0.394 ⟨[⟨"px"⟩], [⟨"ms"⟩]⟩
    (operation .dividedBy distance duration).evaluate = .ok mean ∧ mean.units.Reduced := by
  intro speed duration length distance mean
  have evaluates : (operation .dividedBy distance duration).evaluate = .ok mean := by
    decide +kernel
  exact ⟨evaluates, @every_part_reduced (operation .dividedBy distance duration) _ (by decide)
    List.mem_cons_self mean evaluates⟩

end Expression

end StyleNumber
