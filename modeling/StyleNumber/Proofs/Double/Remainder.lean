import StyleNumber.Proofs.Double.Rank

/-! # Remainders of doubles

The truncated remainder of finite doubles is exact, and so is the Euclidean one unless the
dividend is negative: then the divisor is added, and that sum is rounded (`Double.mod_finite`).
Either way the rank of the Euclidean remainder is that of the quanta, rounded
(`Double.rank?_mod`). It lies between zero and the divisor (`Double.nearestRank_emod_mem`), which it
reaches if the sum is rounded up.
-/

namespace StyleNumber

/-- Zero has no quanta. -/
theorem Magnitude.quanta_zero : Magnitude.zero.quanta = 0 := rfl

/-- The remainder of magnitudes is the remainder of their quanta, with no rounding. -/
theorem Magnitude.quanta_mod (m n : Magnitude) : (m.mod n).quanta = m.quanta % n.quanta := rfl

namespace Double

/-- A numeral is rounded from its quanta. -/
theorem ofNat_eq (count : ℕ) :
    (OfNat.ofNat count : Double) = ofRatio false (count * quantaPerOne) 1 := rfl

/-- Zero is the positive double of the magnitude zero. -/
theorem zero_eq : (0 : Double) = finite false Magnitude.zero := by
  rw [ofNat_eq, Nat.zero_mul, ← Magnitude.quanta_zero, ofRatio_quanta]

/-- The place of zero on the line of doubles. -/
theorem rank?_zero : (0 : Double).rank? = some 0 := by
  rw [zero_eq, rank?_finite, signed_false, Magnitude.quanta_zero, Nat.cast_zero]

variable {n : Magnitude}

/-- A negative remainder that is not zero is lifted. -/
theorem mod_finite (negative sign : Bool) (m : Magnitude) (nonzero : n.quanta ≠ 0) :
    finite negative m % finite sign n =
      if negative ∧ m.quanta % n.quanta ≠ 0 then finite negative (m.mod n) + finite false n
      else finite negative (m.mod n) := by
  have truncated : (finite negative m).rem (finite sign n) = finite negative (m.mod n) := by
    rw [rem, if_neg nonzero]
  have below : finite negative (m.mod n) < 0 ↔ negative ∧ m.quanta % n.quanta ≠ 0 := by
    rw [lt_iff (rank?_finite negative _) rank?_zero, signed_neg_iff, Magnitude.quanta_mod]
  have unsigned : (finite sign n).abs = finite false n := rfl
  change Double.mod _ _ = _
  simp only [Double.mod, truncated, below, unsigned]

/-- The remainder has the place of that of the magnitudes, or of what this lacks to the divisor,
rounded, if the dividend is negative. -/
theorem rank?_mod_finite (negative sign : Bool) (m : Magnitude) (nonzero : n.quanta ≠ 0) :
    (finite negative m % finite sign n).rank? =
      some (if negative ∧ m.quanta % n.quanta ≠ 0 then
        nearestRank (n.quanta - ↑(m.quanta % n.quanta)) 1
      else ↑(m.quanta % n.quanta)) := by
  rw [mod_finite negative sign m nonzero]
  by_cases lifted : negative ∧ m.quanta % n.quanta ≠ 0
  · have sum : signed true (m.quanta % n.quanta) + signed false n.quanta =
        n.quanta - ↑(m.quanta % n.quanta) := by
      simp only [signed, ↓reduceIte, Bool.false_eq_true]
      ring
    rw [if_pos lifted, if_pos lifted, rank?_add, lifted.1, Magnitude.quanta_mod, sum]
  · rw [if_neg lifted, if_neg lifted, rank?_finite, Magnitude.quanta_mod]
    cases negative with
    | false => rw [signed_false]
    | true => rw [not_not.mp fun rest => lifted ⟨rfl, rest⟩, signed_zero, Nat.cast_zero]

/-- The remainder of signed quanta, by the sign of the dividend. -/
theorem signed_emod (negative : Bool) (count divisor : ℕ) :
    signed negative count % (divisor : ℤ) =
      if negative ∧ count % divisor ≠ 0 then (divisor - ↑(count % divisor) : ℤ)
      else ↑(count % divisor) := by
  cases negative with
  | false => simp [signed]
  | true =>
    simp only [signed, ↓reduceIte, true_and, ne_eq, ite_not, Int.neg_emod,
      Int.natCast_dvd_natCast, Nat.dvd_iff_mod_eq_zero, Int.natAbs_natCast, Int.natCast_emod]
    split
    · next divides => exact_mod_cast divides.symm
    · rfl

/-- **The remainder is that of the quanta, rounded.** -/
theorem rank?_mod (negative sign : Bool) (m : Magnitude) (nonzero : n.quanta ≠ 0) :
    (finite negative m % finite sign n).rank? =
      some (nearestRank (signed negative m.quanta % n.quanta) 1) := by
  rw [rank?_mod_finite negative sign m nonzero, signed_emod]
  split
  · rfl
  · rw [← Magnitude.quanta_mod, nearestRank_of_representable (m.mod n).representable]

/-- The remainder has a place between zero and the divisor. -/
theorem nearestRank_emod_mem (place : ℤ) (nonzero : n.quanta ≠ 0) :
    0 ≤ nearestRank (place % n.quanta) 1 ∧ nearestRank (place % n.quanta) 1 ≤ n.quanta := by
  have divisor : (0 : ℤ) < n.quanta := by exact_mod_cast Nat.pos_of_ne_zero nonzero
  have least := nearestRank_le_nearestRank (Int.emod_nonneg place divisor.ne') one_pos
  have most := nearestRank_le_nearestRank (Int.emod_lt_of_pos place divisor).le one_pos
  rw [nearestRank_zero] at least
  rw [nearestRank_of_representable n.representable] at most
  exact ⟨least, most⟩

/-- The remainder of finite doubles is finite unless the divisor is zero. -/
theorem isFinite_mod (negative sign : Bool) (m : Magnitude) (nonzero : n.quanta ≠ 0) :
    (finite negative m % finite sign n).isFinite := by
  have limit := n.representable.lt_overflowQuanta
  obtain ⟨least, most⟩ := nearestRank_emod_mem (signed negative m.quanta) nonzero
  apply isFinite_of_abs_lt (rank?_mod negative sign m nonzero)
  rw [abs_of_nonneg least]
  omega

/-- The remainder of a dividend that is not negative is exact. -/
theorem rank?_mod_of_nonneg {negative : Bool} (sign : Bool) {m : Magnitude}
    (nonzero : n.quanta ≠ 0) (nonnegative : 0 ≤ signed negative m.quanta) :
    (finite negative m % finite sign n).rank? = some (signed negative m.quanta % n.quanta) := by
  have exactly : signed negative m.quanta = m.quanta := by
    rw [← abs_of_nonneg nonnegative, abs_signed]
  rw [rank?_mod negative sign m nonzero, exactly, ← Int.natCast_emod, ← Magnitude.quanta_mod,
    nearestRank_of_representable (m.mod n).representable]

end Double

end StyleNumber
