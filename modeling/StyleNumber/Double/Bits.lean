import StyleNumber.Double.Basic

/-! # The bits of doubles

The interchange encoding of a double: a sign bit, eleven bits of exponent and 52
bits of fraction. Every not-a-number reads as the one `Double.nan`. Reading has no
cases for small numbers beyond the absent leading bit, because magnitudes are
counted in quanta throughout.
-/

namespace StyleNumber

namespace Double

/-- The double with the given bits. -/
def ofBits (bits : UInt64) : Double :=
  let negative : Bool := twoPow 63 ≤ bits.toNat
  let exponent := bits.toNat / twoPow 52 % 2048
  let fraction := bits.toNat % twoPow 52
  have doubled : twoPow 53 = twoPow 52 * 2 := twoPow_succ 52
  have fractionSmall : fraction < twoPow 52 := Nat.mod_lt _ (twoPow_pos 52)
  have exponentSmall : exponent < 2048 := Nat.mod_lt _ (by decide)
  if special : exponent = 2047 then
    if fraction = 0 then infinite negative else nan
  else if exponent = 0 then
    finite negative ⟨fraction, representable_of_lt (by omega)⟩
  else
    finite negative ⟨(twoPow 52 + fraction) * twoPow (exponent - 1),
      twoPow 52 + fraction, exponent - 1, by omega, by omega, rfl⟩

/-- The bits of a double; not-a-number has its quiet pattern. -/
def toBits : Double → UInt64
  | nan => 0x7ff8000000000000
  | infinite negative => withSign negative (2047 * twoPow 52)
  | finite negative magnitude =>
    let exponent := gridExponent magnitude.quanta
    withSign negative (exponent * twoPow 52 + magnitude.quanta / twoPow exponent)
where
  /-- The sign bit above the other 63 bits. -/
  withSign (negative : Bool) (rest : Nat) : UInt64 :=
    UInt64.ofNat (if negative then twoPow 63 + rest else rest)

end Double

end StyleNumber
