import StyleNumber.Error
import StyleNumber.Signature.Basic
import StyleNumber.Signature.Pairing

/-! # Conversion between signatures

A value converts when the units of the source pair up, one to one, with those of
the target: numerators with numerators and denominators with denominators. A
numerator contributes the factor from the source unit to the target unit, a
denominator the factor in the opposite direction. A value without units takes any
signature, and a target without units leaves a value as it is.
-/

namespace StyleNumber

variable {K : Type} [Mul K] [Div K] [Constants K]

namespace Signature

/-- Pairs the units of two signatures, multiplying a value by the factors; none when
a unit on either side has no partner. -/
def pairUp (value : K) (source target : Signature) : Option K :=
  match fill (fun slot unit => unit.conversionFactor? slot) value
      source.numerators target.numerators with
  | some (scaled, []) =>
    match fill (fun slot unit => slot.conversionFactor? unit) scaled
        source.denominators target.denominators with
    | some (converted, []) => some converted
    | _ => none
  | _ => none

/-- A value measured in the units of `source`, expressed in those of `target`. -/
def convert (value : K) (source target : Signature) : Except Error K :=
  if source = target ∨ source.isEmpty ∨ target.isEmpty then .ok value
  else
    match pairUp value source target with
    | some converted => .ok converted
    | none => .error (.incompatibleUnits source.text target.text)

end Signature

end StyleNumber
