import StyleNumber.Double.Basic

/-! # Arithmetic of doubles

Each operation takes the exact result as a ratio of quanta and rounds it once to
the nearest double (`Double.ofRatio`). Sums and remainders need no ratio, since
the quanta of the operands are whole numbers. What is left are the signs of zero
and the cases with an infinity or without an answer.
-/

namespace StyleNumber

namespace Double

/-- The double nearest to a signed ratio of quanta; infinite when it overflows. -/
def ofRatio (negative : Bool) (numerator denominator : Nat) : Double :=
  match Magnitude.nearest? numerator denominator with
  | some magnitude => finite negative magnitude
  | none => infinite negative

/-- Zero with a sign. -/
def zero (negative : Bool) : Double :=
  finite negative Magnitude.zero

instance (count : Nat) : OfNat Double count where
  ofNat := ofRatio false (count * quantaPerOne) 1

/-- A decimal numeral denotes the double nearest to its exact value. -/
instance : OfScientific Double where
  ofScientific digits fractional exponent :=
    if fractional then ofRatio false (digits * quantaPerOne) (tenPow exponent)
    else ofRatio false (digits * tenPow exponent * quantaPerOne) 1

/-- The rounded sum. An exact zero is negative only if both operands are. -/
protected def add : Double → Double → Double
  | nan, _ | _, nan => nan
  | infinite left, infinite right => if left = right then infinite left else nan
  | infinite left, finite _ _ => infinite left
  | finite _ _, infinite right => infinite right
  | finite left m, finite right n =>
    let sum := signed left m.quanta + signed right n.quanta
    if sum = 0 then zero (left && right) else ofRatio (decide (sum < 0)) sum.natAbs 1

instance : Add Double := ⟨Double.add⟩

/-- The rounded difference is the sum with the opposite. -/
instance : Sub Double := ⟨fun left right => left + -right⟩

/-- The rounded product. -/
protected def mul : Double → Double → Double
  | nan, _ | _, nan => nan
  | infinite left, infinite right => infinite (left != right)
  | infinite left, finite right n => if n.quanta = 0 then nan else infinite (left != right)
  | finite left m, infinite right => if m.quanta = 0 then nan else infinite (left != right)
  | finite left m, finite right n => ofRatio (left != right) (m.quanta * n.quanta) quantaPerOne

instance : Mul Double := ⟨Double.mul⟩

/-- The rounded quotient. -/
protected def div : Double → Double → Double
  | nan, _ | _, nan => nan
  | infinite _, infinite _ => nan
  | infinite left, finite right _ => infinite (left != right)
  | finite left _, infinite right => zero (left != right)
  | finite left m, finite right n =>
    if n.quanta = 0 then
      if m.quanta = 0 then nan else infinite (left != right)
    else
      ofRatio (left != right) (m.quanta * quantaPerOne) n.quanta

instance : Div Double := ⟨Double.div⟩

/-- The exact remainder of the division truncated toward zero; it has the sign of
the dividend. -/
def rem : Double → Double → Double
  | nan, _ | _, nan => nan
  | infinite _, _ => nan
  | finite left m, infinite _ => finite left m
  | finite left m, finite _ n => if n.quanta = 0 then nan else finite left (m.mod n)

/-- The Euclidean remainder: a negative truncated remainder is lifted by the size
of the divisor, and that sum is rounded. -/
protected def mod (left right : Double) : Double :=
  let remainder := left.rem right
  if remainder < 0 then remainder + right.abs else remainder

instance : Mod Double := ⟨Double.mod⟩

end Double

end StyleNumber
