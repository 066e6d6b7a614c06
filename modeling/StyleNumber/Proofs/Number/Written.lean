import StyleNumber.Proofs.Number.Expression

/-! # How results are written

Only a division passes on what its operands were written as, and only if both were written;
every other operation that computes a number leaves it unwritten (`Number.written_of_calculate`).
An expression therefore passes on a row of texts, with a gap wherever one of its operations
computes (`Expression.marks`), and its result is written as that row, joined by slashes, unless
there is a gap (`Expression.written_of_evaluate`). Nothing but a new text fills a gap
(`Expression.none_mem_marks`).
-/

namespace StyleNumber

/-- Texts joined by slashes, unless one of them is missing. -/
def slashed (texts : List (Option String)) : Option String :=
  if texts.all Option.isSome then some ("/".intercalate (texts.filterMap id)) else none

private theorem slashed_singleton (text : Option String) : slashed [text] = text := by
  cases text with
  | none => rfl
  | some text => simp [slashed]

private theorem slashed_of_none_mem {texts : List (Option String)} (gap : none ∈ texts) :
    slashed texts = none := by
  rw [slashed, if_neg]
  intro complete
  exact Bool.false_ne_true (List.all_eq_true.mp complete none gap)

private theorem filterMap_id_ne_nil {texts : List (Option String)} (nonempty : texts ≠ [])
    (complete : texts.all Option.isSome) : texts.filterMap id ≠ [] := by
  cases texts with
  | nil => exact (nonempty rfl).elim
  | cons first others =>
    cases first with
    | none => simp at complete
    | some text => simp

/-- Two rows in a row are joined by one more slash. -/
theorem slashed_append {first second : List (Option String)} (firstNonempty : first ≠ [])
    (secondNonempty : second ≠ []) :
    slashed (first ++ second) =
      (slashed first).bind fun numerator =>
        (slashed second).map fun denominator => numerator ++ "/" ++ denominator := by
  simp only [slashed, List.all_append, Bool.and_eq_true]
  by_cases firstComplete : first.all Option.isSome
  · by_cases secondComplete : second.all Option.isSome
    · rw [if_pos ⟨firstComplete, secondComplete⟩, if_pos firstComplete, if_pos secondComplete,
        List.filterMap_append, String.intercalate_append_of_ne_nil
          (filterMap_id_ne_nil firstNonempty firstComplete)
          (filterMap_id_ne_nil secondNonempty secondComplete)]
      rfl
    · rw [if_neg fun both => secondComplete both.2, if_neg secondComplete, if_pos firstComplete]
      rfl
  · rw [if_neg fun both => firstComplete both.1, if_neg firstComplete, Option.bind_none]

namespace Number

private theorem written_of_coercedOperation {operation : Double → Double → Double}
    {left right result : Number Double}
    (success : left.coercedOperation operation right = .ok result) : result.written = none := by
  obtain ⟨values, _, rfl⟩ := map_eq_ok_iff.mp success
  rfl

/-- A quotient is written with a slash if both operands are written, and no other result of an
operator is written. -/
theorem written_of_calculate {operator : Arithmetic} {left right result : Number Double}
    (success : left.calculate operator right = .ok result) :
    result.written =
      if operator = .dividedBy then
        left.written.bind fun numerator =>
          right.written.map fun denominator => numerator ++ "/" ++ denominator
      else none := by
  cases operator with
  | plus | minus | modulo => exact written_of_coercedOperation success
  | times =>
    cases success
    rfl
  | dividedBy =>
    cases success
    simp only [dividedBy, ↓reduceIte]
    cases left.written <;> cases right.written <;> rfl

private theorem written_of_coerce {number result : Number Double} {target : Signature}
    (success : number.coerce target = .ok result) : result.written = none := by
  obtain ⟨value, _, rfl⟩ := map_eq_ok_iff.mp success
  rfl

private theorem css_of_written {number : Number Double} {text : String}
    (written : number.written = some text) : number.css = text := by
  rw [css, written, Option.getD_some]

end Number

namespace Expression

/-- Whether an expression only divides, its numbers being left as they are. -/
def IsQuotient : Expression → Prop
  | number _ => True
  | operation operator left right => operator = .dividedBy ∧ left.IsQuotient ∧ right.IsQuotient
  | unaryPlus operand => operand.IsQuotient
  | unaryMinus _ | strip _ | writtenAs _ _ | coerce _ _ => False

/-- The numbers of an expression, from left to right. -/
def leaves : Expression → List (Number Double)
  | number leaf => [leaf]
  | operation _ left right => left.leaves ++ right.leaves
  | unaryPlus operand | unaryMinus operand | strip operand | writtenAs operand _
  | coerce operand _ => operand.leaves

/-- Whether the outermost operation computes a number or strips one, so that nothing is left of
what its operands were written as. -/
def Computes : Expression → Prop
  | operation operator _ _ => operator ≠ .dividedBy
  | unaryMinus _ | strip _ | coerce _ _ => True
  | number _ | unaryPlus _ | writtenAs _ _ => False

/-- An expression and what is below it, down to where a new text is given. -/
def uncoveredParts : Expression → List Expression
  | number leaf => [number leaf]
  | operation operator left right =>
    operation operator left right :: (left.uncoveredParts ++ right.uncoveredParts)
  | unaryPlus operand => unaryPlus operand :: operand.uncoveredParts
  | unaryMinus operand => unaryMinus operand :: operand.uncoveredParts
  | strip operand => strip operand :: operand.uncoveredParts
  | writtenAs operand text => [writtenAs operand text]
  | coerce operand target => coerce operand target :: operand.uncoveredParts

/-- The texts that an expression passes on, from left to right, with a gap for every part that
is not written. -/
def marks : Expression → List (Option String)
  | number leaf => [leaf.written]
  | operation operator left right =>
    if operator = .dividedBy then left.marks ++ right.marks else [none]
  | unaryPlus operand => operand.marks
  | unaryMinus _ | strip _ | coerce _ _ => [none]
  | writtenAs _ text => [some text]

private theorem marks_ne_nil (expression : Expression) : expression.marks ≠ [] := by
  induction expression with
  | number leaf => exact List.cons_ne_nil _ _
  | operation operator left right leftIh rightIh =>
    rw [marks]
    split
    · exact List.append_ne_nil_of_left_ne_nil leftIh _
    · exact List.cons_ne_nil _ _
  | unaryPlus operand ih => exact ih
  | unaryMinus operand ih | strip operand ih | writtenAs operand text ih
  | coerce operand target ih =>
    exact List.cons_ne_nil _ _

/-- **A result is written as its expression passes it on**: the texts joined by slashes, unless
there is a gap among them. -/
theorem written_of_evaluate {expression : Expression} {result : Number Double}
    (success : expression.evaluate = .ok result) : result.written = slashed expression.marks := by
  induction expression generalizing result with
  | number leaf =>
    cases success
    exact (slashed_singleton leaf.written).symm
  | operation operator left right leftIh rightIh =>
    obtain ⟨leftNumber, leftSuccess, continued⟩ := bind_eq_ok_iff.mp success
    obtain ⟨rightNumber, rightSuccess, calculated⟩ := bind_eq_ok_iff.mp continued
    rw [Number.written_of_calculate calculated, leftIh leftSuccess, rightIh rightSuccess, marks]
    split
    · rw [slashed_append left.marks_ne_nil right.marks_ne_nil]
    · rfl
  | unaryPlus operand ih =>
    obtain ⟨number, evaluated, rfl⟩ := map_eq_ok_iff.mp success
    exact ih evaluated
  | unaryMinus operand ih | strip operand ih =>
    obtain ⟨number, _, rfl⟩ := map_eq_ok_iff.mp success
    rfl
  | writtenAs operand text ih =>
    obtain ⟨number, _, rfl⟩ := map_eq_ok_iff.mp success
    exact (slashed_singleton (some text)).symm
  | coerce operand target ih =>
    obtain ⟨number, _, converted⟩ := bind_eq_ok_iff.mp success
    exact Number.written_of_coerce converted

/-- What computes leaves a gap that no operation above it fills. -/
theorem none_mem_marks {expression part : Expression} (uncovered : part ∈ expression.uncoveredParts)
    (computes : part.Computes) : none ∈ expression.marks := by
  induction expression with
  | number leaf =>
    obtain rfl := List.mem_singleton.mp uncovered
    exact computes.elim
  | operation operator left right leftIh rightIh =>
    rw [marks]
    split
    · next division =>
      rcases List.mem_cons.mp uncovered with rfl | below
      · exact (computes division).elim
      · rcases List.mem_append.mp below with inLeft | inRight
        · exact List.mem_append_left _ (leftIh inLeft)
        · exact List.mem_append_right _ (rightIh inRight)
    · exact List.mem_cons_self
  | unaryPlus operand ih =>
    rcases List.mem_cons.mp uncovered with rfl | below
    · exact computes.elim
    · exact ih below
  | unaryMinus operand ih | strip operand ih | coerce operand target ih => exact List.mem_cons_self
  | writtenAs operand text ih =>
    obtain rfl := List.mem_singleton.mp uncovered
    exact computes.elim

private theorem mem_uncoveredParts_self (expression : Expression) :
    expression ∈ expression.uncoveredParts := by
  cases expression <;> exact List.mem_cons_self

/-- A quotient passes on what its numbers were written as. -/
theorem IsQuotient.marks_eq {expression : Expression} (quotient : expression.IsQuotient) :
    expression.marks = expression.leaves.map Number.written := by
  induction expression with
  | number leaf => rfl
  | operation operator left right leftIh rightIh =>
    obtain ⟨division, leftQuotient, rightQuotient⟩ := quotient
    rw [marks, if_pos division, leaves, List.map_append, leftIh leftQuotient,
      rightIh rightQuotient]
  | unaryPlus operand ih => exact ih quotient
  | unaryMinus operand ih | strip operand ih | writtenAs operand text ih
  | coerce operand target ih =>
    exact quotient.elim

private theorem IsQuotient.exists_evaluate {expression : Expression}
    (quotient : expression.IsQuotient) :
    ∃ result, expression.evaluate = .ok result := by
  induction expression with
  | number leaf => exact ⟨leaf, rfl⟩
  | operation operator left right leftIh rightIh =>
    obtain ⟨rfl, leftQuotient, rightQuotient⟩ := quotient
    obtain ⟨leftNumber, leftSuccess⟩ := leftIh leftQuotient
    obtain ⟨rightNumber, rightSuccess⟩ := rightIh rightQuotient
    refine ⟨leftNumber.dividedBy rightNumber, ?_⟩
    rw [evaluate, leftSuccess, rightSuccess]
    rfl
  | unaryPlus operand ih =>
    obtain ⟨number, evaluated⟩ := ih quotient
    refine ⟨number, ?_⟩
    rw [evaluate, evaluated]
    rfl
  | unaryMinus operand ih | strip operand ih | writtenAs operand text ih
  | coerce operand target ih =>
    exact quotient.elim

/-- **Slashes are kept through whole expressions.** An expression that only divides its numbers
has a result, which is written exactly when all of the numbers are: as their texts in order,
joined by slashes, in whatever order it divides. Where an expression computes, its result is
not written, and neither is the result of anything above it that is not given a text anew. -/
theorem slashes_kept :
    (∀ expression : Expression, expression.IsQuotient →
      ∃ result, expression.evaluate = .ok result ∧
        (result.written.isSome ↔ ∀ leaf ∈ expression.leaves, leaf.written.isSome) ∧
        ∀ text, result.written = some text →
          text = "/".intercalate (expression.leaves.filterMap Number.written) ∧
            result.css = text) ∧
    ∀ part : Expression, part.Computes →
      (∀ result, part.evaluate = .ok result → result.written = none) ∧
        ∀ expression : Expression, part ∈ expression.uncoveredParts →
          ∀ result, expression.evaluate = .ok result → result.written = none := by
  constructor
  · intro expression quotient
    obtain ⟨result, success⟩ := quotient.exists_evaluate
    have written := written_of_evaluate success
    rw [quotient.marks_eq, slashed, List.filterMap_map, Function.id_comp] at written
    have complete : (expression.leaves.map Number.written).all Option.isSome ↔
        ∀ leaf ∈ expression.leaves, leaf.written.isSome := by
      simp only [List.all_map, List.all_eq_true, Function.comp_apply]
    refine ⟨result, success, ?_, ?_⟩
    · rw [written, ← complete, Option.isSome_ite]
    · intro text isWritten
      refine ⟨?_, Number.css_of_written isWritten⟩
      rw [isWritten, Option.some_eq_ite_none_right] at written
      exact Option.some_inj.mp written.2
  · intro part computes
    have unwritten : ∀ expression : Expression, part ∈ expression.uncoveredParts →
        ∀ result, expression.evaluate = .ok result → result.written = none := by
      intro expression uncovered result success
      rw [written_of_evaluate success, slashed_of_none_mem (none_mem_marks uncovered computes)]
    exact ⟨unwritten part part.mem_uncoveredParts_self, unwritten⟩

/-- A size of 16 pixels over two thirds keeps both slashes. Over a sum it keeps none, although
both numbers of the sum are written. -/
theorem pixels_over_two_thirds_written :
    let pixels := number ((Number.ofUnit 16 ⟨"px"⟩).writtenAs "16px")
    let two := number ((Number.unitless 2).writtenAs "2")
    let three := number ((Number.unitless 3).writtenAs "3.0")
    let quotient := operation .dividedBy pixels (operation .dividedBy two (unaryPlus three))
    let sum := operation .plus two three
    (quotient.IsQuotient ∧
      ∃ result, quotient.evaluate = .ok result ∧ result.written = some "16px/2/3.0" ∧
        result.css = "16px/2/3.0") ∧
      sum.Computes ∧ sum ∈ (operation .dividedBy pixels sum).uncoveredParts ∧
      ∃ result, (operation .dividedBy pixels sum).evaluate = .ok result ∧
        result.written = none := by
  intro pixels two three quotient sum
  have divides : quotient.IsQuotient := ⟨rfl, trivial, rfl, trivial, trivial⟩
  have computes : sum.Computes := fun same => nomatch same
  have below : sum ∈ (operation .dividedBy pixels sum).uncoveredParts :=
    .tail _ (List.mem_append_right _ sum.mem_uncoveredParts_self)
  refine ⟨⟨divides, ?_⟩, computes, below, _, rfl, ?_⟩
  · obtain ⟨result, success, written, texts⟩ := slashes_kept.1 quotient divides
    have leavesWritten : ∀ leaf ∈ quotient.leaves, leaf.written.isSome := by
      simp [quotient, pixels, two, three, leaves, Number.writtenAs]
    obtain ⟨text, isWritten⟩ := Option.isSome_iff_exists.mp (written.mpr leavesWritten)
    obtain ⟨joined, css⟩ := texts text isWritten
    have joinedTexts : text = "16px/2/3.0" := joined
    exact ⟨result, success, joinedTexts ▸ isWritten, joinedTexts ▸ css⟩
  · exact (slashes_kept.2 sum computes).2 _ below _ rfl

end Expression

end StyleNumber
