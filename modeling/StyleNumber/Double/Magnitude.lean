import StyleNumber.Power

/-! # Magnitudes of doubles

A finite double is a sign and a magnitude, and a magnitude is a whole number of
quanta, a quantum being `2 ^ -1074`. The counts that a double can hold are those
with at most 53 significant bits that stay below the overflow bound
(`Representable`). `Magnitude.nearest?` rounds an exact ratio of quanta to the
closest magnitude, a tie going to the even significand, and has no answer when
the ratio rounds past the largest one.
-/

namespace StyleNumber

/-- The number of quanta in one. -/
def quantaPerOne : Nat :=
  twoPow 1074

/-- The number of quanta at which magnitudes overflow, that is `2 ^ 1024`. -/
def overflowQuanta : Nat :=
  twoPow 2098

/-- One is at least a quantum. -/
theorem quantaPerOne_pos : 0 < quantaPerOne :=
  twoPow_pos 1074

/-- A count of quanta that a double can hold: a significand of at most 53 bits
scaled by one of the exponents of the format. -/
def Representable (quanta : Nat) : Prop :=
  ∃ significand exponent : Nat,
    significand < twoPow 53 ∧ exponent ≤ 2045 ∧ quanta = significand * twoPow exponent

/-- The magnitude of a finite double. -/
structure Magnitude where
  quanta : Nat
  /-- The count fits the format. -/
  representable : Representable quanta
deriving DecidableEq

/-- Every count of quanta below `2 ^ 53` is held exactly. -/
theorem representable_of_lt {quanta : Nat} (small : quanta < twoPow 53) : Representable quanta :=
  ⟨quanta, 0, small, by decide, (Nat.mul_one quanta).symm⟩

/-- Magnitudes stay below the overflow bound. -/
theorem Representable.lt_overflowQuanta {quanta : Nat} (held : Representable quanta) :
    quanta < overflowQuanta := by
  obtain ⟨significand, exponent, small, bounded, rfl⟩ := held
  calc significand * twoPow exponent
      < twoPow 53 * twoPow exponent := Nat.mul_lt_mul_of_pos_right small (twoPow_pos exponent)
    _ = twoPow (53 + exponent) := (twoPow_add 53 exponent).symm
    _ ≤ overflowQuanta := twoPow_le_twoPow (by omega)

/-- The remainder of two magnitudes is a magnitude: it lies on the finer of their
grids and below both. -/
theorem Representable.mod {m n : Nat} (left : Representable m) (right : Representable n) :
    Representable (m % n) := by
  by_cases divisible : n = 0
  · subst divisible
    rwa [Nat.mod_zero]
  obtain ⟨s, e, sSmall, eBound, rfl⟩ := left
  obtain ⟨t, f, tSmall, fBound, rfl⟩ := right
  by_cases finer : e ≤ f
  · obtain ⟨d, rfl⟩ := Nat.exists_eq_add_of_le finer
    refine ⟨s % (t * twoPow d), e, Nat.lt_of_le_of_lt (Nat.mod_le _ _) sSmall, eBound, ?_⟩
    rw [Nat.add_comm e d, twoPow_add, ← Nat.mul_assoc, Nat.mul_mod_mul_right]
  · obtain ⟨d, rfl⟩ := Nat.exists_eq_add_of_le (Nat.le_of_not_le finer)
    have positive : 0 < t := Nat.pos_of_ne_zero fun isZero => by
      subst isZero
      exact divisible (Nat.zero_mul _)
    refine ⟨s * twoPow d % t, f, Nat.lt_trans (Nat.mod_lt _ positive) tSmall, fBound, ?_⟩
    rw [Nat.add_comm f d, twoPow_add, ← Nat.mul_assoc, Nat.mul_mod_mul_right]

/-- The whole number nearest to `numerator / denominator`; a tie goes to the even
neighbour. -/
def nearestEven (numerator denominator : Nat) : Nat :=
  let below := numerator / denominator
  let rest := numerator % denominator
  if 2 * rest < denominator then below
  else if denominator < 2 * rest then below + 1
  else below + below % 2

/-- Rounding a quotient to the nearest number does not go below its whole part. -/
theorem le_nearestEven (numerator denominator : Nat) :
    numerator / denominator ≤ nearestEven numerator denominator := by
  simp only [nearestEven]
  split
  · exact Nat.le_refl _
  · split <;> omega

/-- Rounding a quotient to the nearest number goes above its whole part by one at most. -/
theorem nearestEven_le (numerator denominator : Nat) :
    nearestEven numerator denominator ≤ numerator / denominator + 1 := by
  simp only [nearestEven]
  split
  · exact Nat.le_succ _
  · split <;> omega

/-- The exponent of the grid on which counts near `quanta` are held: the spacing
that leaves 53 significant bits, and never less than one quantum. -/
def gridExponent (quanta : Nat) : Nat :=
  quanta.log2 - 52

/-- On the grid of a magnitude the significand has at most 53 bits. -/
theorem lt_twoPow_gridExponent (quanta : Nat) :
    quanta < twoPow 53 * twoPow (gridExponent quanta) := by
  calc quanta
      < twoPow (quanta.log2 + 1) := lt_twoPow_log2 quanta
    _ ≤ twoPow (53 + gridExponent quanta) :=
        twoPow_le_twoPow (by simp only [gridExponent]; omega)
    _ = twoPow 53 * twoPow (gridExponent quanta) := twoPow_add 53 _

/-- On a grid coarser than single quanta the significand has all its 53 bits. -/
theorem twoPow_gridExponent_le {quanta : Nat} (coarse : 0 < gridExponent quanta) :
    twoPow 52 * twoPow (gridExponent quanta) ≤ quanta := by
  have wide : 52 < quanta.log2 := by
    simp only [gridExponent] at coarse
    omega
  have nonzero : quanta ≠ 0 := by
    rintro rfl
    exact absurd wide (by decide)
  calc twoPow 52 * twoPow (gridExponent quanta)
      = twoPow (52 + gridExponent quanta) := (twoPow_add 52 _).symm
    _ = twoPow quanta.log2 := by
        congr 1
        simp only [gridExponent]
        omega
    _ ≤ quanta := twoPow_log2_le nonzero

/-- The ratio `numerator / denominator` rounded to the grid of its own size. -/
def roundToGrid (numerator denominator : Nat) : Nat :=
  let spacing := twoPow (gridExponent (numerator / denominator))
  nearestEven numerator (denominator * spacing) * spacing

/-- A rounded ratio below the overflow bound is a magnitude. -/
theorem representable_roundToGrid {numerator denominator : Nat}
    (bounded : roundToGrid numerator denominator < overflowQuanta) :
    Representable (roundToGrid numerator denominator) := by
  simp only [roundToGrid] at bounded ⊢
  generalize exponentIs : gridExponent (numerator / denominator) = exponent at bounded ⊢
  generalize countIs : nearestEven numerator (denominator * twoPow exponent) = count at bounded ⊢
  have quotient : numerator / (denominator * twoPow exponent) =
      numerator / denominator / twoPow exponent := (Nat.div_div_eq_div_mul _ _ _).symm
  have above : numerator / (denominator * twoPow exponent) < twoPow 53 := by
    rw [quotient, Nat.div_lt_iff_lt_mul (twoPow_pos exponent), ← exponentIs]
    exact lt_twoPow_gridExponent _
  have most : count ≤ twoPow 53 := by
    have := nearestEven_le numerator (denominator * twoPow exponent)
    omega
  have least : 0 < exponent → twoPow 52 ≤ count := by
    intro coarse
    have below : twoPow 52 ≤ numerator / (denominator * twoPow exponent) := by
      rw [quotient, Nat.le_div_iff_mul_le (twoPow_pos exponent), ← exponentIs]
      exact twoPow_gridExponent_le (exponentIs ▸ coarse)
    have := le_nearestEven numerator (denominator * twoPow exponent)
    omega
  have exponentBound : ∀ {bits}, twoPow bits ≤ count → bits + exponent < 2098 := by
    intro bits enough
    refine lt_of_twoPow_lt ?_
    rw [twoPow_add]
    exact Nat.lt_of_le_of_lt (Nat.mul_le_mul_right _ enough) bounded
  by_cases carried : count = twoPow 53
  · have := exponentBound (Nat.le_of_eq carried.symm)
    refine ⟨twoPow 52, exponent + 1, by decide, by omega, ?_⟩
    rw [carried, ← twoPow_add, ← twoPow_add, show 53 + exponent = 52 + (exponent + 1) by omega]
  · refine ⟨count, exponent, by omega, ?_, rfl⟩
    by_cases coarse : 0 < exponent
    · have := exponentBound (least coarse)
      omega
    · omega

namespace Magnitude

/-- The magnitude closest to `numerator / denominator` quanta, a tie going to the
even significand; none when it overflows. -/
def nearest? (numerator denominator : Nat) : Option Magnitude :=
  if bounded : roundToGrid numerator denominator < overflowQuanta then
    some ⟨roundToGrid numerator denominator, representable_roundToGrid bounded⟩
  else
    none

/-- No quanta. -/
def zero : Magnitude :=
  ⟨0, representable_of_lt (twoPow_pos 53)⟩

/-- The remainder of the division of magnitudes. -/
def mod (m n : Magnitude) : Magnitude :=
  ⟨m.quanta % n.quanta, m.representable.mod n.representable⟩

end Magnitude

end StyleNumber
