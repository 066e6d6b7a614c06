import StyleNumber.Proofs.Signature.Product

/-! # Shortcuts of multiplication

Multiplication looks for nothing to cancel where one operand has no units, and where the two
operands are halves of one fraction that the table does not relate
(`Signature.TakesShortcut`); it then puts the units of both side by side
(`Signature.joined`). The test on the halves is exact: it finds a pair exactly when a search
would take one out (`Signature.cancel_eq_iff`). So a shortcut never skips a cancellation
(`Signature.TakesShortcut.cancel_eq`), and with or without it the product is the same, down to
the order of its units (`Signature.shortcuts_skip_nothing`).
-/

namespace StyleNumber

namespace Signature

/-- The units of both operands side by side, nothing cancelled. -/
def joined (left right : Signature) : Signature :=
  ⟨left.numerators ++ right.numerators, left.denominators ++ right.denominators⟩

/-- Whether multiplication joins its operands without a search: one has no units, or one has
all the numerators, the other all the denominators, and none of them would cancel. -/
def TakesShortcut (left right : Signature) : Prop :=
  left.isEmpty ∨ right.isEmpty ∨
    (left.numerators = [] ∧ right.denominators = [] ∧
      ¬anyCancel right.numerators left.denominators) ∨
    (right.numerators = [] ∧ left.denominators = [] ∧
      ¬anyCancel left.numerators right.denominators)

instance (left right : Signature) : Decidable (TakesShortcut left right) :=
  inferInstanceAs (Decidable (_ ∨ _ ∨ _ ∨ _))

private theorem not_anyCancel_of_isEmpty {numerators denominators : List UnitSymbol}
    (empty : numerators = [] ∨ denominators = []) : ¬anyCancel numerators denominators := by
  rw [anyCancel_iff]
  rintro ⟨numerator, above, denominator, below, _⟩
  rcases empty with rfl | rfl
  · cases above
  · cases below

/-- Nothing cancels between the operands of a shortcut, on either side of the bar. -/
theorem TakesShortcut.not_anyCancel {left right : Signature} (shortcut : TakesShortcut left right) :
    ¬anyCancel left.numerators right.denominators ∧
      ¬anyCancel right.numerators left.denominators := by
  rcases shortcut with leftEmpty | rightEmpty | ⟨noneAbove, noneBelow, nothing⟩ |
    ⟨noneAbove, noneBelow, nothing⟩
  · obtain rfl := isEmpty_iff.mp leftEmpty
    exact ⟨not_anyCancel_of_isEmpty (.inl rfl), not_anyCancel_of_isEmpty (.inr rfl)⟩
  · obtain rfl := isEmpty_iff.mp rightEmpty
    exact ⟨not_anyCancel_of_isEmpty (.inr rfl), not_anyCancel_of_isEmpty (.inl rfl)⟩
  · exact ⟨not_anyCancel_of_isEmpty (.inl noneAbove), nothing⟩
  · exact ⟨nothing, not_anyCancel_of_isEmpty (.inl noneAbove)⟩

variable {K : Type} [Mul K] [Div K] [Constants K]

/-- **The test before a shortcut is exact**: it finds nothing exactly when the search leaves
everything as it is. -/
theorem cancel_eq_iff (value : K) {numerators denominators : List UnitSymbol} :
    cancel value denominators numerators = ⟨value, numerators, denominators⟩ ↔
      ¬anyCancel numerators denominators := by
  constructor
  · intro untouched
    obtain ⟨pairs, search, _⟩ := cancel_search value denominators numerators
    rw [untouched] at search
    have noPair : pairs = [] := by simpa using search.seekers_perm.length_eq
    exact search.pairs_eq_nil_iff.mp noPair
  · intro nothing
    exact cancel_of_unrelated value (unrelated_of_not_anyCancel nothing)

/-- Neither search takes a pair out of the operands of a shortcut. -/
theorem TakesShortcut.cancel_eq {left right : Signature} (shortcut : TakesShortcut left right)
    (value : K) :
    cancel value right.denominators left.numerators =
        ⟨value, left.numerators, right.denominators⟩ ∧
      cancel value left.denominators right.numerators =
        ⟨value, right.numerators, left.denominators⟩ :=
  ⟨(cancel_eq_iff value).mpr shortcut.not_anyCancel.1,
    (cancel_eq_iff value).mpr shortcut.not_anyCancel.2⟩

/-- **The shortcuts of multiplication change nothing.** The product is what the two searches
give, in its value and in the order of its units. Where a shortcut is taken, both searches
find nothing to cancel, and the test that admits it is passed exactly by lists among which
a search finds nothing. -/
theorem shortcuts_skip_nothing (value : K) (left right : Signature) :
    multiply value left right = combine value left right ∧
      (TakesShortcut left right →
        multiply value left right = ⟨value, left.joined right⟩ ∧
          cancel value right.denominators left.numerators =
            ⟨value, left.numerators, right.denominators⟩ ∧
          cancel value left.denominators right.numerators =
            ⟨value, right.numerators, left.denominators⟩) ∧
      ∀ numerators denominators,
        ¬anyCancel numerators denominators ↔
          cancel value denominators numerators = ⟨value, numerators, denominators⟩ := by
  refine ⟨multiply_eq_combine value left right, ?_, fun _ _ => (cancel_eq_iff value).symm⟩
  intro shortcut
  obtain ⟨first, second⟩ := shortcut.cancel_eq value
  refine ⟨?_, first, second⟩
  rw [multiply_eq_combine, combine, first]
  dsimp only
  rw [second, joined]

/-- Pixels over seconds are put together without a search, but milliseconds over seconds
are not: they cancel. -/
theorem pixels_per_second_joined :
    let perSecond : Signature := ⟨[], [⟨"s"⟩]⟩
    let pixels : Signature := ⟨[⟨"px"⟩], []⟩
    let milliseconds : Signature := ⟨[⟨"ms"⟩], []⟩
    TakesShortcut perSecond pixels ∧
      multiply (3 : Double) perSecond pixels = ⟨3, ⟨[⟨"px"⟩], [⟨"s"⟩]⟩⟩ ∧
      ¬TakesShortcut perSecond milliseconds ∧
      (multiply (3 : Double) perSecond milliseconds).units = unitless := by
  intro perSecond pixels milliseconds
  have shortcut : TakesShortcut perSecond pixels := by decide
  obtain ⟨product, _, _⟩ := (shortcuts_skip_nothing (3 : Double) perSecond pixels).2.1 shortcut
  exact ⟨shortcut, product, by decide, by decide +kernel⟩

end Signature

end StyleNumber
