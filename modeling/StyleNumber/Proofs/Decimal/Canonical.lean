import StyleNumber.Decimal
import StyleNumber.Proofs.Double.Rank

/-! # Canonical decimal text

A number of units of a decimal place has one canonical text: an optional sign, digits in
front of the point that start with a zero only if they are one, and if needed a point with
digits that do not end in a zero. `Decimal.Canonical` says this of the digits, by their
value and shape alone. The digits a `Decimal` is written with are canonical, and no others
are (`Decimal.canonical_iff`, `Decimal.isCanonicalText_iff`).
-/

namespace StyleNumber

/-- Powers of ten are the powers that the library knows. -/
theorem tenPow_eq (exponent : ℕ) : tenPow exponent = 10 ^ exponent := rfl

section

variable {digit : Char} (isDigit : digit.isDigit)

include isDigit

private theorem toNat_digit : 48 ≤ digit.toNat ∧ digit.toNat ≤ 57 := by
  simp only [Char.isDigit, Bool.and_eq_true, decide_eq_true_eq] at isDigit
  exact isDigit

private theorem digitChar_toNat_sub : Nat.digitChar (digit.toNat - 48) = digit := by
  obtain ⟨least, most⟩ := toNat_digit isDigit
  apply Char.toNat_inj.mp
  rw [Nat.toNat_digitChar_of_lt_ten (by omega)]
  omega

private theorem toNat_sub_pos (nonzero : digit ≠ '0') : 0 < digit.toNat - 48 := by
  obtain ⟨least, most⟩ := toNat_digit isDigit
  have different : digit.toNat ≠ 48 := fun same => nonzero (Char.toNat_inj.mp same)
  omega

end

/-- The value of digits is the first one, shifted in front of the value of the others. -/
theorem ofDigitChars_cons_eq (digit : Char) (digits : List Char) :
    Nat.ofDigitChars 10 (digit :: digits) 0 =
      (digit.toNat - 48) * 10 ^ digits.length + Nat.ofDigitChars 10 digits 0 := by
  rw [Nat.ofDigitChars_cons, Nat.ofDigitChars_eq_ofDigitChars_zero, Nat.mul_zero, Nat.zero_add,
    Nat.mul_comm]
  rfl

private theorem ofDigitChars_lt {digits : List Char} (areDigits : ∀ digit ∈ digits, digit.isDigit) :
    Nat.ofDigitChars 10 digits 0 < 10 ^ digits.length := by
  induction digits with
  | nil => exact Nat.one_pos
  | cons digit digits ih =>
    have first := (toNat_digit (areDigits digit List.mem_cons_self)).2
    have later := ih fun other member => areDigits other (List.mem_cons_of_mem _ member)
    rw [ofDigitChars_cons_eq, List.length_cons, Nat.pow_succ]
    calc (digit.toNat - 48) * 10 ^ digits.length + Nat.ofDigitChars 10 digits 0
        < (digit.toNat - 48 + 1) * 10 ^ digits.length := by linarith
      _ ≤ 10 * 10 ^ digits.length := Nat.mul_le_mul_right _ (by omega)
      _ = 10 ^ digits.length * 10 := Nat.mul_comm _ _

/-- Digits behind a positive number are the digits of the number they make with it. -/
theorem toDigits_append {digits : List Char} (areDigits : ∀ digit ∈ digits, digit.isDigit)
    {front : ℕ} (positive : 0 < front) :
    Nat.toDigits 10 front ++ digits = Nat.toDigits 10 (Nat.ofDigitChars 10 digits front) := by
  induction digits generalizing front with
  | nil => rw [List.append_nil, Nat.ofDigitChars_nil]
  | cons digit digits ih =>
    have isDigit := areDigits digit List.mem_cons_self
    have small : digit.toNat - 48 < 10 := by
      have := (toNat_digit isDigit).2
      omega
    have joined := Nat.toDigits_append_toDigits (by decide : 1 < 10) positive small
    rw [Nat.toDigits_of_lt_base small, digitChar_toNat_sub isDigit] at joined
    rw [Nat.ofDigitChars_cons, List.append_cons, joined]
    exact ih (fun other member => areDigits other (List.mem_cons_of_mem _ member)) (by omega)

namespace Decimal

/-- The digits in front of the point and behind it of a canonical text for a count of units of
a decimal place. -/
structure Canonical (count places : ℕ) (whole fraction : List Char) : Prop where
  whole_ne_nil : whole ≠ []
  whole_digits : ∀ digit ∈ whole, digit.isDigit
  no_leading_zero : ∀ others, whole = '0' :: others → others = []
  fraction_digits : ∀ digit ∈ fraction, digit.isDigit
  fraction_length : fraction.length ≤ places
  no_trailing_zero : ∀ others, fraction ≠ others ++ ['0']
  value_eq : (Nat.ofDigitChars 10 (whole ++ fraction) 0 : ℚ) / 10 ^ fraction.length =
    count / 10 ^ places

/-- Whether characters are the canonical text of `number / 10 ^ places`. -/
def IsCanonicalText (number : ℤ) (places : ℕ) (characters : List Char) : Prop :=
  ∃ whole fraction, Canonical number.natAbs places whole fraction ∧
    characters = (if number < 0 then ['-'] else []) ++ whole ++
      (if fraction = [] then [] else '.' :: fraction)

/-! ## Digits in front of the point -/

private theorem eq_nil_of_toDigits_eq_cons {number : ℕ} {others : List Char}
    (leading : Nat.toDigits 10 number = '0' :: others) : others = [] := by
  by_contra more
  have areDigits : ∀ digit ∈ others, digit.isDigit := by
    intro digit member
    refine Nat.isDigit_of_mem_toDigits (n := number) (by decide) (le_refl 10) ?_
    rw [leading]
    exact List.mem_cons_of_mem _ member
  have value : number = Nat.ofDigitChars 10 others 0 := by
    rw [← Nat.ofDigitChars_ten_toDigits (n := number), leading, ofDigitChars_cons_eq]
    simp
  have short : (Nat.toDigits 10 number).length ≤ others.length := by
    rw [Nat.length_toDigits_le_iff (by decide) (List.length_pos_iff.mpr more), value]
    exact ofDigitChars_lt areDigits
  rw [leading, List.length_cons] at short
  omega

/-- Digits that start with a zero only if they are one are the digits of their value. -/
theorem toDigits_ofDigitChars {whole : List Char} (nonempty : whole ≠ [])
    (areDigits : ∀ digit ∈ whole, digit.isDigit)
    (noLeadingZero : ∀ others, whole = '0' :: others → others = []) :
    Nat.toDigits 10 (Nat.ofDigitChars 10 whole 0) = whole := by
  cases whole with
  | nil => exact (nonempty rfl).elim
  | cons digit digits =>
    have isDigit := areDigits digit List.mem_cons_self
    by_cases isZero : digit = '0'
    · rw [isZero, noLeadingZero digits (by rw [isZero])]
      rfl
    · have positive := toNat_sub_pos isDigit isZero
      have small : digit.toNat - 48 < 10 := by
        have := (toNat_digit isDigit).2
        omega
      rw [Nat.ofDigitChars_cons, Nat.mul_zero, Nat.zero_add]
      refine (toDigits_append (fun other member => areDigits other
        (List.mem_cons_of_mem _ member)) positive).symm.trans ?_
      rw [Nat.toDigits_of_lt_base small, digitChar_toNat_sub isDigit]
      rfl

/-! ## Digits behind the point -/

/-- What is left behind some decimal places fits in these places. -/
theorem mod_tenPow_lt (rest places : ℕ) : rest % tenPow places < 10 ^ places :=
  Nat.mod_lt rest (tenPow_pos places)

private theorem div_tenPow_lt {rest places : ℕ} (bounded : rest < 10 ^ (places + 1)) :
    rest / tenPow places < 10 :=
  Nat.div_lt_of_lt_mul (by rwa [Nat.pow_succ] at bounded)

/-- Nothing is written behind the point of a whole number. -/
theorem fractionDigits_zero (places : ℕ) : fractionDigits places 0 = [] := by
  cases places with
  | zero => rfl
  | succ places => rw [fractionDigits, if_pos rfl]

private theorem fractionDigits_eq_nil_iff {places rest : ℕ} (bounded : rest < 10 ^ places) :
    fractionDigits places rest = [] ↔ rest = 0 := by
  cases places with
  | zero => exact iff_of_true rfl (by omega)
  | succ places =>
    rw [fractionDigits]
    split
    · next isZero => simp [isZero]
    · next nonzero => simp [nonzero]

/-- Only digits are written behind the point. -/
theorem isDigit_of_mem_fractionDigits {places rest : ℕ} (bounded : rest < 10 ^ places) :
    ∀ digit ∈ fractionDigits places rest, digit.isDigit := by
  induction places generalizing rest with
  | zero => simp [fractionDigits]
  | succ places ih =>
    rw [fractionDigits]
    split
    · simp
    · intro digit member
      rcases List.mem_cons.mp member with rfl | later
      · rw [Nat.isDigit_digitChar, decide_eq_true_eq]
        exact div_tenPow_lt bounded
      · exact ih (mod_tenPow_lt rest places) digit later

private theorem length_fractionDigits_le (places rest : ℕ) :
    (fractionDigits places rest).length ≤ places := by
  induction places generalizing rest with
  | zero => exact le_refl 0
  | succ places ih =>
    rw [fractionDigits]
    split
    · exact Nat.zero_le _
    · exact Nat.succ_le_succ (ih _)

private theorem fractionDigits_ne_append {places rest : ℕ} (bounded : rest < 10 ^ places)
    (others : List Char) : fractionDigits places rest ≠ others ++ ['0'] := by
  induction places generalizing rest others with
  | zero => simp [fractionDigits]
  | succ places ih =>
    rw [fractionDigits]
    split
    · simp
    · next nonzero =>
      have smaller := mod_tenPow_lt rest places
      intro same
      cases others with
      | nil =>
        -- The only digit is a zero, and so is what stands behind it.
        obtain ⟨first, last⟩ := List.cons.inj same
        rw [fractionDigits_eq_nil_iff smaller] at last
        rw [Nat.digitChar_eq_zero] at first
        have whole := Nat.div_add_mod rest (tenPow places)
        rw [first, last] at whole
        exact nonzero (by omega)
      | cons other others => exact ih smaller others (List.cons.inj same).2

/-- The digits behind the point, shifted to the last place, give the rest back. -/
theorem ofDigitChars_fractionDigits {places rest : ℕ} (bounded : rest < 10 ^ places) :
    Nat.ofDigitChars 10 (fractionDigits places rest) 0 *
      10 ^ (places - (fractionDigits places rest).length) = rest := by
  induction places generalizing rest with
  | zero =>
    have isZero : rest = 0 := by omega
    rw [fractionDigits, Nat.ofDigitChars_nil, isZero, Nat.zero_mul]
  | succ places ih =>
    rw [fractionDigits]
    split
    · next isZero => rw [Nat.ofDigitChars_nil, isZero, Nat.zero_mul]
    · have digit := div_tenPow_lt bounded
      have later := ih (mod_tenPow_lt rest places)
      have fits := length_fractionDigits_le places (rest % tenPow places)
      rw [ofDigitChars_cons_eq, Nat.toNat_digitChar_sub_48_of_lt_ten digit, List.length_cons,
        Nat.add_sub_add_right, Nat.add_mul, later, Nat.mul_assoc, ← Nat.pow_add,
        Nat.add_sub_cancel' fits, ← tenPow_eq, Nat.div_add_mod']

/-- Digits behind the point, shifted to the last place, stay behind the point. -/
theorem ofDigitChars_mul_lt {digits : List Char} {places : ℕ}
    (areDigits : ∀ digit ∈ digits, digit.isDigit) (fits : digits.length ≤ places) :
    Nat.ofDigitChars 10 digits 0 * 10 ^ (places - digits.length) < tenPow places := by
  calc Nat.ofDigitChars 10 digits 0 * 10 ^ (places - digits.length)
      < 10 ^ digits.length * 10 ^ (places - digits.length) :=
        Nat.mul_lt_mul_of_pos_right (ofDigitChars_lt areDigits) (Nat.pow_pos (by decide))
    _ = tenPow places := by rw [← Nat.pow_add, Nat.add_sub_cancel' fits, tenPow_eq]

/-- Digits that do not end in a zero are more than nothing. -/
theorem ofDigitChars_pos {fraction : List Char} (nonempty : fraction ≠ [])
    (areDigits : ∀ digit ∈ fraction, digit.isDigit)
    (noTrailingZero : ∀ others, fraction ≠ others ++ ['0']) :
    0 < Nat.ofDigitChars 10 fraction 0 := by
  obtain ⟨front, last, rfl⟩ := (List.eq_nil_or_concat' fraction).resolve_left nonempty
  have isDigit := areDigits last (by simp)
  have positive := toNat_sub_pos isDigit fun isZero => noTrailingZero front (by rw [isZero])
  rw [Nat.ofDigitChars_append, Nat.ofDigitChars_cons, Nat.ofDigitChars_nil]
  exact Nat.add_pos_right _ positive

/-- Digits that do not end in a zero are the digits behind the point of their value. -/
theorem fractionDigits_ofDigitChars {places : ℕ} {fraction : List Char}
    (areDigits : ∀ digit ∈ fraction, digit.isDigit) (fits : fraction.length ≤ places)
    (noTrailingZero : ∀ others, fraction ≠ others ++ ['0']) :
    fractionDigits places
      (Nat.ofDigitChars 10 fraction 0 * 10 ^ (places - fraction.length)) = fraction := by
  induction fraction generalizing places with
  | nil => rw [Nat.ofDigitChars_nil, Nat.zero_mul, fractionDigits_zero]
  | cons digit digits ih =>
    cases places with
    | zero => cases fits
    | succ places =>
      rw [List.length_cons] at fits
      have isDigit := areDigits digit List.mem_cons_self
      have laterDigits : ∀ other ∈ digits, other.isDigit := fun other member =>
        areDigits other (List.mem_cons_of_mem _ member)
      have positive := ofDigitChars_pos (List.cons_ne_nil digit digits) areDigits noTrailingZero
      have nonzero : Nat.ofDigitChars 10 (digit :: digits) 0 *
          10 ^ (places + 1 - (digits.length + 1)) ≠ 0 :=
        (Nat.mul_pos positive (Nat.pow_pos (by decide))).ne'
      have later := ofDigitChars_mul_lt laterDigits (show digits.length ≤ places by omega)
      have split : Nat.ofDigitChars 10 (digit :: digits) 0 *
          10 ^ (places + 1 - (digits.length + 1)) =
          tenPow places * (digit.toNat - 48) +
            Nat.ofDigitChars 10 digits 0 * 10 ^ (places - digits.length) := by
        rw [ofDigitChars_cons_eq, Nat.add_sub_add_right, Nat.add_mul, Nat.mul_assoc,
          ← Nat.pow_add, Nat.add_sub_cancel' (by omega), tenPow_eq,
          Nat.mul_comm (digit.toNat - 48)]
      rw [List.length_cons, fractionDigits, if_neg nonzero, split,
        Nat.mul_add_div (tenPow_pos places), Nat.div_eq_of_lt later, Nat.add_zero,
        Nat.mul_add_mod, Nat.mod_eq_of_lt later, digitChar_toNat_sub isDigit,
        ih laterDigits (by omega) fun others same => noTrailingZero (digit :: others) (by
          rw [same, List.cons_append])]

/-! ## Canonical texts -/

/-- The value of a text without its point, in units of the last place. -/
theorem value_eq_iff {count places : ℕ} {whole fraction : List Char}
    (fits : fraction.length ≤ places) :
    (Nat.ofDigitChars 10 (whole ++ fraction) 0 : ℚ) / 10 ^ fraction.length = count / 10 ^ places ↔
      tenPow places * Nat.ofDigitChars 10 whole 0 +
        Nat.ofDigitChars 10 fraction 0 * 10 ^ (places - fraction.length) = count := by
  have powers : (10 : ℚ) ^ places = 10 ^ fraction.length * 10 ^ (places - fraction.length) := by
    rw [← pow_add, Nat.add_sub_cancel' fits]
  have joined : Nat.ofDigitChars 10 (whole ++ fraction) 0 =
      10 ^ fraction.length * Nat.ofDigitChars 10 whole 0 + Nat.ofDigitChars 10 fraction 0 := by
    rw [Nat.ofDigitChars_append, Nat.ofDigitChars_eq_ofDigitChars_zero]
  rw [← Nat.cast_inj (R := ℚ), joined, tenPow_eq, powers, div_eq_div_iff (by positivity)
    (by positivity)]
  push_cast
  rw [powers]
  constructor
  · intro same
    have nonzero : (10 : ℚ) ^ fraction.length ≠ 0 := by positivity
    apply mul_right_cancel₀ nonzero
    linear_combination same
  · intro same
    linear_combination 10 ^ fraction.length * same

/-- The canonical digits of a count are those that it is written with. -/
theorem canonical_iff {count places : ℕ} {whole fraction : List Char} :
    Canonical count places whole fraction ↔
      whole = Nat.toDigits 10 (count / tenPow places) ∧
        fraction = fractionDigits places (count % tenPow places) := by
  constructor
  · intro canonical
    have value := (value_eq_iff canonical.fraction_length).mp canonical.value_eq
    have later := ofDigitChars_mul_lt canonical.fraction_digits canonical.fraction_length
    rw [← value, Nat.mul_add_div (tenPow_pos places), Nat.div_eq_of_lt later, Nat.add_zero,
      Nat.mul_add_mod, Nat.mod_eq_of_lt later]
    exact ⟨(toDigits_ofDigitChars canonical.whole_ne_nil canonical.whole_digits
        canonical.no_leading_zero).symm,
      (fractionDigits_ofDigitChars canonical.fraction_digits canonical.fraction_length
        canonical.no_trailing_zero).symm⟩
  · rintro ⟨rfl, rfl⟩
    have bounded := mod_tenPow_lt count places
    refine ⟨Nat.toDigits_ne_nil, fun digit => Nat.isDigit_of_mem_toDigits (by decide) le_rfl,
      fun others => eq_nil_of_toDigits_eq_cons, isDigit_of_mem_fractionDigits bounded,
      length_fractionDigits_le _ _, fractionDigits_ne_append bounded, ?_⟩
    rw [value_eq_iff (length_fractionDigits_le _ _), Nat.ofDigitChars_ten_toDigits,
      ofDigitChars_fractionDigits bounded, Nat.div_add_mod]

/-- A decimal is written as a sign where it is below zero, the digits of its whole part, and a
point with the digits of its fraction where that has any. -/
theorem characters_eq (decimal : Decimal) :
    decimal.characters =
      (if signed decimal.negative decimal.count < 0 then ['-'] else []) ++
        Nat.toDigits 10 (decimal.count / tenPow decimal.places) ++
        (if fractionDigits decimal.places (decimal.count % tenPow decimal.places) = [] then []
        else '.' :: fractionDigits decimal.places (decimal.count % tenPow decimal.places)) := by
  simp only [characters, signed_neg_iff]
  generalize fractionDigits decimal.places (decimal.count % tenPow decimal.places) = fraction
  cases fraction with
  | nil => rw [if_pos (rfl : ([] : List Char) = []), List.append_nil]
  | cons first others => rw [if_neg (List.cons_ne_nil first others)]

/-- **A decimal is written canonically**, and its characters are the only canonical text of
its value. -/
theorem isCanonicalText_iff (decimal : Decimal) {characters : List Char} :
    IsCanonicalText (signed decimal.negative decimal.count) decimal.places characters ↔
      characters = decimal.characters := by
  rw [characters_eq]
  constructor
  · rintro ⟨whole, fraction, canonical, rfl⟩
    rw [natAbs_signed, canonical_iff] at canonical
    rw [canonical.1, canonical.2]
  · rintro rfl
    refine ⟨_, _, canonical_iff.mpr ⟨rfl, rfl⟩, ?_⟩
    rw [natAbs_signed]

end Decimal

end StyleNumber
