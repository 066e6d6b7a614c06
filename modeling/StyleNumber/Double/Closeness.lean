import StyleNumber.Double.Arithmetic
import StyleNumber.Double.Integral

/-! # Comparison up to a tolerance

Conversions and chained arithmetic leave rounding errors behind, so numbers are
compared up to a tolerance. Two doubles are `Close` when their rounded difference
stays below it; `Below` and `Above` exclude closeness, `AtMost` and `AtLeast`
include it. A number counts as whole when it is close to a whole number, and a
bound that a number is close to stands for that number.
-/

namespace StyleNumber

namespace Double

/-- Doubles whose difference is smaller than this count as equal. -/
def tolerance : Double := 1e-11

/-- Whether two doubles differ by less than the tolerance. -/
def Close (left right : Double) : Prop :=
  (left - right).abs < tolerance

instance (left right : Double) : Decidable (left.Close right) :=
  inferInstanceAs (Decidable (_ < _))

/-- Less than, and not merely by the tolerance. -/
def Below (left right : Double) : Prop :=
  left < right ∧ ¬left.Close right

instance (left right : Double) : Decidable (left.Below right) :=
  inferInstanceAs (Decidable (_ ∧ _))

/-- Less than or close to. -/
def AtMost (left right : Double) : Prop :=
  left < right ∨ left.Close right

instance (left right : Double) : Decidable (left.AtMost right) :=
  inferInstanceAs (Decidable (_ ∨ _))

/-- Greater than, and not merely by the tolerance. -/
def Above (left right : Double) : Prop :=
  right < left ∧ ¬left.Close right

instance (left right : Double) : Decidable (left.Above right) :=
  inferInstanceAs (Decidable (_ ∧ _))

/-- Greater than or close to. -/
def AtLeast (left right : Double) : Prop :=
  right < left ∨ left.Close right

instance (left right : Double) : Decidable (left.AtLeast right) :=
  inferInstanceAs (Decidable (_ ∨ _))

/-- Whether a finite double is close to a whole number: what is left of it modulo
one is close to one of the two ends. -/
def NearWhole (number : Double) : Prop :=
  number.isFinite ∧ ((number % 1).Close 0 ∨ (number % 1).Close 1)

instance (number : Double) : Decidable number.NearWhole :=
  inferInstanceAs (Decidable (_ ∧ _))

/-- The whole number that a double is close to, as a signed integer of 64 bits. -/
def wholeNumber? (number : Double) : Option Int :=
  if number.NearWhole then some number.round.toInt64 else none

/-- The closest whole double, where a fraction close to one half counts as a half;
halves go away from zero. -/
def tolerantRound (number : Double) : Double :=
  let fraction := number % 1
  if 0 < number then
    if fraction.Below 0.5 then number.floor else number.ceil
  else
    if fraction.AtMost 0.5 then number.floor else number.ceil

/-- The number inside a range: a bound that it is close to, or itself strictly
between the bounds. -/
def clamp? (number least most : Double) : Option Double :=
  if number.Close least then some least
  else if number.Close most then some most
  else if least < number ∧ number < most then some number
  else none

/-- Strictly inside a range, and close to neither bound. -/
def Inside (number least most : Double) : Prop :=
  number.Above least ∧ number.Below most

instance (number least most : Double) : Decidable (number.Inside least most) :=
  inferInstanceAs (Decidable (_ ∧ _))

/-- Inside a range or close to one of its bounds. -/
def Within (number least most : Double) : Prop :=
  number.AtLeast least ∧ number.AtMost most

instance (number least most : Double) : Decidable (number.Within least most) :=
  inferInstanceAs (Decidable (_ ∧ _))

/-- A key for tables of numbers: the count of `1e-10` in a double, rounded. Close
doubles on two sides of a rounding boundary have different keys. -/
def hashKey (number : Double) : Int :=
  (number * 1e10).round.toInt64

end Double

end StyleNumber
