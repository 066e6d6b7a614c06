/-! # Powers of two and ten

The powers of the two bases in which numbers are held and written.
-/

namespace StyleNumber

/-- A power of two. -/
def twoPow (exponent : Nat) : Nat :=
  Nat.pow 2 exponent

/-- A power of ten. -/
def tenPow (exponent : Nat) : Nat :=
  Nat.pow 10 exponent

/-- Powers of two are positive. -/
theorem twoPow_pos (exponent : Nat) : 0 < twoPow exponent :=
  Nat.two_pow_pos exponent

/-- The next power of two is twice as large. -/
theorem twoPow_succ (exponent : Nat) : twoPow (exponent + 1) = twoPow exponent * 2 :=
  Nat.pow_succ 2 exponent

/-- Exponents of two add up in products. -/
theorem twoPow_add (first second : Nat) :
    twoPow (first + second) = twoPow first * twoPow second :=
  Nat.pow_add 2 first second

/-- Powers of two grow with their exponents. -/
theorem twoPow_le_twoPow {first second : Nat} (ordered : first ≤ second) :
    twoPow first ≤ twoPow second :=
  Nat.pow_le_pow_right (by decide) ordered

/-- The smaller of two powers of two has the smaller exponent. -/
theorem lt_of_twoPow_lt {first second : Nat} (ordered : twoPow first < twoPow second) :
    first < second :=
  Nat.lt_of_not_le fun reversed => Nat.not_le_of_lt ordered (twoPow_le_twoPow reversed)

/-- A number that is not zero is at least the power of its leading bit. -/
theorem twoPow_log2_le {number : Nat} (nonzero : number ≠ 0) : twoPow number.log2 ≤ number :=
  Nat.log2_self_le nonzero

/-- A number is less than the power in front of its leading bit. -/
theorem lt_twoPow_log2 (number : Nat) : number < twoPow (number.log2 + 1) :=
  Nat.lt_log2_self

/-- Powers of ten are positive. -/
theorem tenPow_pos (exponent : Nat) : 0 < tenPow exponent :=
  Nat.pow_pos (by decide)

end StyleNumber
