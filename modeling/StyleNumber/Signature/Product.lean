import StyleNumber.Signature.Basic
import StyleNumber.Signature.Pairing

/-! # Products of signatures

When quantities are multiplied, the numerators of each cancel against the
denominators of the other, and the factors of the cancelled pairs go into the
value (`Signature.combine`). Nothing cancels within one operand. Operands without
numerators or denominators to cancel are joined directly (`Signature.multiply`).
-/

namespace StyleNumber

/-- A value with its units. -/
structure Quantity (K : Type) where
  value : K
  /-- The units it is measured in. -/
  units : Signature
deriving DecidableEq

variable {K : Type} [Mul K] [Div K] [Constants K]

namespace Signature

/-- Whether the table relates any of the numerators to any of the denominators. -/
def anyCancel (numerators denominators : List UnitSymbol) : Bool :=
  numerators.any fun numerator =>
    denominators.any fun denominator => (numerator.tableFactor? denominator).isSome

/-- The product of two signatures, `value` being the product of the scalars: the left
numerators cancel first, then the right ones. -/
def combine (value : K) (left right : Signature) : Quantity K :=
  let first := cancel value right.denominators left.numerators
  let second := cancel first.value left.denominators right.numerators
  ⟨second.value,
    ⟨first.numerators ++ second.numerators, second.denominators ++ first.denominators⟩⟩

/-- The product of two signatures, `value` being the product of the scalars. An
operand without units, or two halves of a fraction with nothing to cancel, need no
search. -/
def multiply (value : K) (left right : Signature) : Quantity K :=
  match left, right with
  | ⟨[], []⟩, _ => ⟨value, right⟩
  | ⟨[], below⟩, ⟨above, []⟩ =>
    if anyCancel above below then combine value left right else ⟨value, ⟨above, below⟩⟩
  | ⟨_ :: _, _⟩, ⟨[], []⟩ => ⟨value, left⟩
  | ⟨first :: above, []⟩, ⟨[], below⟩ =>
    if anyCancel (first :: above) below then combine value left right
    else ⟨value, ⟨first :: above, below⟩⟩
  | _, _ => combine value left right

/-- The quotient of two signatures, `value` being the quotient of the scalars. -/
def divide (value : K) (left right : Signature) : Quantity K :=
  multiply value left right.inverted

end Signature

end StyleNumber
