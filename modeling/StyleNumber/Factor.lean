import StyleNumber.Double.Arithmetic

/-! # Conversion factors

A factor is kept as the expression that defines it, such as `96 / 2.54`, and
evaluated in whatever scalars the computation uses (`Factor.eval`). In doubles
each numeral and each operation rounds once; in exact scalars the same table
yields the exact ratios.
-/

namespace StyleNumber

/-- Scalars with the constants that factors are made of. -/
class Constants (K : Type) where
  /-- The value of a decimal numeral, `digits / 10 ^ places`. -/
  decimal (digits places : Nat) : K
  /-- Half a turn in radians. -/
  pi : K

instance : Constants Double where
  decimal digits places := .ofRatio false (digits * quantaPerOne) (tenPow places)
  pi := 3.141592653589793

/-- The expression of a conversion factor. -/
inductive Factor where
  /-- The numeral `digits / 10 ^ places`. -/
  | decimal (digits places : Nat)
  | pi
  | mul (left right : Factor)
  | div (left right : Factor)
deriving DecidableEq

namespace Factor

instance (count : Nat) : OfNat Factor count := ⟨decimal count 0⟩

instance : OfScientific Factor where
  ofScientific digits fractional exponent :=
    if fractional then decimal digits exponent else decimal (digits * tenPow exponent) 0

instance : Mul Factor := ⟨mul⟩

instance : Div Factor := ⟨div⟩

variable {K : Type} [Mul K] [Div K] [Constants K]

/-- The value of a factor. -/
def eval : Factor → K
  | decimal digits places => Constants.decimal digits places
  | pi => Constants.pi
  | mul left right => left.eval * right.eval
  | div left right => left.eval / right.eval

end Factor

end StyleNumber
