import StyleNumber.Proofs.Number.Expression
import StyleNumber.Proofs.Number.Operability

/-! # What a number was written as does not count

An operation on numbers computes with their quantities. Two expressions that are the same but
for what their numbers were written as (`Expression.SameButWritten`) therefore fail alike or
have the same quantity for a result (`Expression.SameButWritten.evaluate_eq`), and a comparison
at the root gives the same answer. Errors quote a number as computed. The written text shows
only where a text is made of the number: in its own text for the stylesheet, and joined with
that of a color (`Number.apply_color_eq`).
-/

namespace StyleNumber

private theorem map_bind {α β γ : Type} (computed : Except Error α) (next : α → Except Error β)
    (change : β → γ) :
    (computed >>= next).map change = computed >>= fun value => (next value).map change := by
  cases computed <;> rfl

/-- Two changes of a computation in a row are one. -/
theorem map_map {α β γ : Type} (computed : Except Error α) (first : α → β) (second : β → γ) :
    (computed.map first).map second = computed >>= fun value => .ok (second (first value)) := by
  cases computed <;> rfl

private theorem Arithmetic.joinsTexts_iff {operator : Arithmetic} :
    operator.joinsTexts ↔ operator ∈ [plus, minus, dividedBy] := by
  cases operator <;> decide

namespace Number

private theorem text_eq_of_toQuantity_eq {first second : Number Double}
    (same : first.toQuantity = second.toQuantity) : first.text = second.text := by
  change (computed first.toQuantity).text = (computed second.toQuantity).text
  rw [same]

section

variable {left left' right right' : Number Double}

/-- Both scalars in one signature come from the quantities. -/
theorem coercedValues_congr (leftSame : left.toQuantity = left'.toQuantity)
    (rightSame : right.toQuantity = right'.toQuantity) :
    left.coercedValues right = left'.coercedValues right' := by
  change (computed left.toQuantity).coercedValues (computed right.toQuantity) = _
  rw [leftSame, rightSame]
  rfl

private theorem coercedOperation_congr (operation : Double → Double → Double)
    (leftSame : left.toQuantity = left'.toQuantity)
    (rightSame : right.toQuantity = right'.toQuantity) :
    left.coercedOperation operation right = left'.coercedOperation operation right' := by
  change (computed left.toQuantity).coercedOperation operation (computed right.toQuantity) = _
  rw [leftSame, rightSame]
  rfl

/-- **Operators compute with quantities**: numbers that differ in what they were written as fail
alike or give results that differ in this only. -/
theorem calculate_congr (operator : Arithmetic) (leftSame : left.toQuantity = left'.toQuantity)
    (rightSame : right.toQuantity = right'.toQuantity) :
    (left.calculate operator right).map toQuantity =
      (left'.calculate operator right').map toQuantity := by
  cases operator with
  | plus | minus | modulo =>
    exact congrArg (Except.map toQuantity) (coercedOperation_congr _ leftSame rightSame)
  | times | dividedBy =>
    simp only [calculate, times, dividedBy, computed, Except.map, leftSame, rightSame]

private theorem compare_congr (operator : Comparison)
    (leftSame : left.toQuantity = left'.toQuantity)
    (rightSame : right.toQuantity = right'.toQuantity) :
    left.compare operator (.number right) = left'.compare operator (.number right') := by
  simp only [compare, coercedValues_congr leftSame rightSame]

private theorem coerce_congr (target : Signature) (same : left.toQuantity = left'.toQuantity) :
    left.coerce target = left'.coerce target := by
  simp only [coerce, valueIn, same]

/-- An operator that joins texts takes the number as it is in the stylesheet. -/
theorem apply_color_eq {operator : Arithmetic} (joins : operator.joinsTexts)
    (number : Number Double) (color : Color) :
    number.apply (.arithmetic operator) (.color color) =
      .ok (.inl (.other (number.css ++ operator.symbol ++ color.text))) := by
  simp only [apply, operate, joins, ↓reduceIte, Except.map]

/-- Beside a value that is no number, the written text shows where texts are joined and nowhere
else. -/
theorem apply_congr (operator : Operator) {right : Value} (noNumber : right.number? = none)
    (same : left.toQuantity = left'.toQuantity) :
    left.apply operator right = left'.apply operator right ∨
      ∃ joining color, operator = .arithmetic joining ∧ joining.joinsTexts ∧
        right = .color color := by
  have sameText := text_eq_of_toQuantity_eq same
  cases right with
  | number other => cases noNumber
  | color color =>
    cases operator with
    | arithmetic operator =>
      by_cases joins : operator.joinsTexts
      · exact .inr ⟨operator, color, rfl, joins, rfl⟩
      · left
        simp only [apply, operate, joins, Bool.false_eq_true, ↓reduceIte, sameText]
    | comparison operator =>
      left
      simp only [apply, compare, sameText]
  | other text =>
    left
    cases operator <;> simp only [apply, operate, compare, sameText]

/-- What follows a computation does not see what its number was written as. -/
theorem bind_congr_of_toQuantity {α : Type} {first second : Except Error (Number Double)}
    {next next' : Number Double → Except Error α}
    (same : first.map toQuantity = second.map toQuantity)
    (continues : ∀ number number' : Number Double, number.toQuantity = number'.toQuantity →
      next number = next' number') : (first >>= next) = (second >>= next') := by
  cases first with
  | error error =>
    cases second with
    | error other =>
      cases same
      rfl
    | ok number => cases same
  | ok number =>
    cases second with
    | error error => cases same
    | ok number' => exact continues number number' (Except.ok.inj same)

end

end Number

namespace Expression

/-- Whether two expressions are the same but for what their numbers were written as. -/
inductive SameButWritten : Expression → Expression → Prop where
  | number {leaf leaf' : Number Double} (same : leaf.toQuantity = leaf'.toQuantity) :
    SameButWritten (number leaf) (number leaf')
  | operation (operator : Arithmetic) {left left' right right' : Expression}
    (leftSame : SameButWritten left left') (rightSame : SameButWritten right right') :
    SameButWritten (operation operator left right) (operation operator left' right')
  | unaryPlus {operand operand' : Expression} (same : SameButWritten operand operand') :
    SameButWritten (unaryPlus operand) (unaryPlus operand')
  | unaryMinus {operand operand' : Expression} (same : SameButWritten operand operand') :
    SameButWritten (unaryMinus operand) (unaryMinus operand')
  | strip {operand operand' : Expression} (same : SameButWritten operand operand') :
    SameButWritten (strip operand) (strip operand')
  | writtenAs {operand operand' : Expression} (text text' : String)
    (same : SameButWritten operand operand') :
    SameButWritten (writtenAs operand text) (writtenAs operand' text')
  | coerce {operand operand' : Expression} (target : Signature)
    (same : SameButWritten operand operand') :
    SameButWritten (coerce operand target) (coerce operand' target)

/-- The answer of a comparison of two expressions. -/
def compare (operator : Comparison) (left right : Expression) : Except Error Bool := do
  let leftNumber ← left.evaluate
  let rightNumber ← right.evaluate
  leftNumber.compare operator (.number rightNumber)

/-- **Expressions compute with quantities.** -/
theorem SameButWritten.evaluate_eq {first second : Expression}
    (same : first.SameButWritten second) :
    first.evaluate.map Number.toQuantity = second.evaluate.map Number.toQuantity := by
  induction same with
  | number same => exact congrArg Except.ok same
  | operation operator leftSame rightSame leftIh rightIh =>
    simp only [evaluate, map_bind]
    apply Number.bind_congr_of_toQuantity leftIh
    intro leftNumber leftNumber' leftEqual
    apply Number.bind_congr_of_toQuantity rightIh
    intro rightNumber rightNumber' rightEqual
    exact Number.calculate_congr operator leftEqual rightEqual
  | unaryPlus same ih | strip same ih | writtenAs text text' same ih =>
    simp only [evaluate, map_map]
    apply Number.bind_congr_of_toQuantity ih
    intro number number' equal
    exact congrArg Except.ok equal
  | unaryMinus same ih =>
    simp only [evaluate, map_map]
    apply Number.bind_congr_of_toQuantity ih
    intro number number' equal
    simp only [Number.unaryMinus, Number.ofUnits, Number.computed, equal]
  | coerce target same ih =>
    simp only [evaluate, map_bind]
    apply Number.bind_congr_of_toQuantity ih
    intro number number' equal
    rw [Number.coerce_congr target equal]

private theorem map_text_eq (outcome : Except Error (Number Double)) :
    outcome.map Number.text =
      (outcome.map Number.toQuantity).map fun quantity => (Number.computed quantity).text := by
  cases outcome <;> rfl

/-- Comparisons do not see what the numbers of their operands are written as. -/
theorem compare_eq {operator : Comparison} {left left' right right' : Expression}
    (leftSame : left.SameButWritten left') (rightSame : right.SameButWritten right') :
    compare operator left right = compare operator left' right' := by
  apply Number.bind_congr_of_toQuantity leftSame.evaluate_eq
  intro leftNumber leftNumber' leftEqual
  apply Number.bind_congr_of_toQuantity rightSame.evaluate_eq
  intro rightNumber rightNumber' rightEqual
  exact Number.compare_congr operator leftEqual rightEqual

/-- **What a number was written as never influences a computation.** Two expressions that are
the same but for what their numbers were written as fail with the same error, or have results of
the same scalar and units and with the same text as computed; compared with each other in two
such ways, they give the same answer or error. Beside a color or another value, an operator gives
the same for two such numbers, unless it joins their texts for the stylesheet with that of a
color. -/
theorem written_text_without_influence :
    (∀ first second : Expression, first.SameButWritten second →
      first.evaluate.map Number.toQuantity = second.evaluate.map Number.toQuantity ∧
        first.evaluate.map Number.text = second.evaluate.map Number.text) ∧
    (∀ (operator : Comparison) (left left' right right' : Expression),
      left.SameButWritten left' → right.SameButWritten right' →
        compare operator left right = compare operator left' right') ∧
    ∀ (operator : Operator) (left left' : Number Double) (right : Value),
      left.toQuantity = left'.toQuantity → right.number? = none →
        left.apply operator right = left'.apply operator right ∨
          ∃ joining color, operator = .arithmetic joining ∧
            joining ∈ [Arithmetic.plus, .minus, .dividedBy] ∧ right = .color color ∧
            ∀ number ∈ [left, left'],
              number.apply operator right =
                .ok (.inl (.other (number.css ++ joining.symbol ++ color.text))) := by
  refine ⟨?_, ?_, ?_⟩
  · intro first second same
    refine ⟨same.evaluate_eq, ?_⟩
    rw [map_text_eq, map_text_eq, same.evaluate_eq]
  · intro operator left left' right right'
    exact compare_eq
  · intro operator left left' right same noNumber
    rcases Number.apply_congr operator noNumber same with equal | joined
    · exact .inl equal
    · obtain ⟨joining, color, rfl, joins, rfl⟩ := joined
      exact .inr ⟨joining, color, rfl, Arithmetic.joinsTexts_iff.mp joins, rfl,
        fun number _ => Number.apply_color_eq joins number color⟩

/-- Sixteen pixels over two come to eight pixels with and without texts, less than an inch either
way, and the texts show beside a color only. -/
theorem half_of_sixteen_pixels :
    let pixels : Number Double := .ofUnit 16 ⟨"px"⟩
    let written := pixels.writtenAs "16.0px"
    let two : Number Double := .unitless 2
    let half := operation .dividedBy (number pixels) (number two)
    let writtenHalf := operation .dividedBy (number written) (number (two.writtenAs "2"))
    let inch := number (.ofUnit 1 ⟨"in"⟩)
    let red : Value := .color (.solid 255 0 0)
    (half.SameButWritten writtenHalf ∧ inch.SameButWritten inch ∧
      pixels.toQuantity = written.toQuantity ∧ red.number? = none) ∧
      half.evaluate.map Number.toQuantity = writtenHalf.evaluate.map Number.toQuantity ∧
      compare .lessThan half inch = compare .lessThan writtenHalf inch ∧
      pixels.apply (.arithmetic .times) red = written.apply (.arithmetic .times) red ∧
      written.apply (.arithmetic .plus) red = .ok (.inl (.other "16.0px+#ff0000")) := by
  intro pixels written two half writtenHalf inch red
  have same : half.SameButWritten writtenHalf := .operation _ (.number rfl) (.number rfl)
  have sameInch : inch.SameButWritten inch := .number rfl
  obtain ⟨results, comparisons, beside⟩ := written_text_without_influence
  refine ⟨⟨same, sameInch, rfl, rfl⟩, (results _ _ same).1, comparisons _ _ _ _ _ same sameInch, ?_,
    by decide +kernel⟩
  rcases beside (.arithmetic .times) pixels written red rfl rfl with equal | joined
  · exact equal
  · obtain ⟨joining, color, isTimes, joins, _⟩ := joined
    cases isTimes
    exact absurd joins (by decide)

end Expression

end StyleNumber
