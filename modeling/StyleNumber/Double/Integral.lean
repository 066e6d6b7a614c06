import StyleNumber.Double.Basic

/-! # Whole doubles

Rounding a double to a whole number acts on its magnitude and keeps its sign, so a
negative number that rounds to nothing becomes the negative zero. A whole number
next to a magnitude is itself a magnitude (`representable_whole`): either the
magnitude was whole already, or it is small enough for every whole number around
it to be held.
-/

namespace StyleNumber

/-- A whole number of ones next to a magnitude is a magnitude. -/
theorem representable_whole {quanta ones : Nat} (held : Representable quanta)
    (near : ones ≤ quanta / quantaPerOne + 1)
    (whole : quanta % quantaPerOne = 0 → ones = quanta / quantaPerOne) :
    Representable (ones * quantaPerOne) := by
  by_cases divides : quanta % quantaPerOne = 0
  · rwa [whole divides, Nat.div_mul_cancel (Nat.dvd_of_mod_eq_zero divides)]
  obtain ⟨significand, exponent, small, bounded, rfl⟩ := held
  by_cases coarse : 1074 ≤ exponent
  · obtain ⟨rest, rfl⟩ := Nat.exists_eq_add_of_le coarse
    refine absurd ?_ divides
    rw [quantaPerOne, Nat.add_comm 1074 rest, twoPow_add, ← Nat.mul_assoc]
    exact Nat.mul_mod_left _ _
  · refine ⟨ones, 1074, ?_, by decide, rfl⟩
    have halved : significand * twoPow exponent / quantaPerOne < twoPow 52 := by
      rw [Nat.div_lt_iff_lt_mul quantaPerOne_pos]
      calc significand * twoPow exponent
          < twoPow 53 * twoPow exponent := Nat.mul_lt_mul_of_pos_right small (twoPow_pos exponent)
        _ = twoPow (53 + exponent) := (twoPow_add 53 exponent).symm
        _ ≤ twoPow (52 + 1074) := twoPow_le_twoPow (by omega)
        _ = twoPow 52 * quantaPerOne := by rw [quantaPerOne, twoPow_add]
    have doubled : twoPow 53 = twoPow 52 * 2 := twoPow_succ 52
    have positive : 0 < twoPow 52 := twoPow_pos 52
    omega

namespace Magnitude

/-- The ones in a magnitude, a started one not counted. -/
def onesBelow (magnitude : Magnitude) : Nat :=
  magnitude.quanta / quantaPerOne

/-- The ones in a magnitude, a started one counted whole. -/
def onesAbove (magnitude : Magnitude) : Nat :=
  if magnitude.quanta % quantaPerOne = 0 then magnitude.onesBelow else magnitude.onesBelow + 1

/-- The ones closest to a magnitude, a half counted whole. -/
def onesNearest (magnitude : Magnitude) : Nat :=
  if 2 * (magnitude.quanta % quantaPerOne) < quantaPerOne then magnitude.onesBelow
  else magnitude.onesBelow + 1

/-- The whole part of a magnitude. -/
def floor (magnitude : Magnitude) : Magnitude :=
  ⟨magnitude.onesBelow * quantaPerOne,
    representable_whole magnitude.representable (Nat.le_succ _) fun _ => rfl⟩

/-- The least whole magnitude that is not smaller. -/
def ceil (magnitude : Magnitude) : Magnitude :=
  ⟨magnitude.onesAbove * quantaPerOne,
    representable_whole magnitude.representable
      (by simp only [onesAbove]; split <;> simp only [onesBelow] <;> omega)
      fun whole => by simp only [onesAbove, whole, ↓reduceIte, onesBelow]⟩

/-- The closest whole magnitude, a half going up. -/
def round (magnitude : Magnitude) : Magnitude :=
  ⟨magnitude.onesNearest * quantaPerOne,
    representable_whole magnitude.representable
      (by simp only [onesNearest]; split <;> simp only [onesBelow] <;> omega)
      fun whole => by
        simp only [onesNearest, whole, Nat.mul_zero, quantaPerOne_pos, ↓reduceIte, onesBelow]⟩

end Magnitude

namespace Double

/-- The greatest whole double that is not larger. -/
def floor : Double → Double
  | nan => nan
  | infinite negative => infinite negative
  | finite negative magnitude =>
    finite negative (if negative then magnitude.ceil else magnitude.floor)

/-- The least whole double that is not smaller. -/
def ceil : Double → Double
  | nan => nan
  | infinite negative => infinite negative
  | finite negative magnitude =>
    finite negative (if negative then magnitude.floor else magnitude.ceil)

/-- The closest whole double, a half going away from zero. -/
def round : Double → Double
  | nan => nan
  | infinite negative => infinite negative
  | finite negative magnitude => finite negative magnitude.round

/-- The least signed integer of 64 bits. -/
def minInt64 : Int :=
  -9223372036854775808

/-- The greatest signed integer of 64 bits. -/
def maxInt64 : Int :=
  9223372036854775807

/-- The whole part as a signed integer of 64 bits: out of range it is the nearest
end, and zero for not-a-number. -/
def toInt64 : Double → Int
  | nan => 0
  | infinite negative => if negative then minInt64 else maxInt64
  | finite negative magnitude => max minInt64 (min (signed negative magnitude.onesBelow) maxInt64)

end Double

end StyleNumber
