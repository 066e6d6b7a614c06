import StyleNumber.Number.Argument
import StyleNumber.Proofs.Double.Whole
import StyleNumber.Proofs.Number.Reading

/-! # Indices into lists

An index counts from one at the front of a list, or back from its end if it is negative
(`IsOffset`), so of the positive indices exactly one stands for each offset, and so does one of
the negative ones (`existsUnique_positive_index`, `existsUnique_negative_index`). A number that
counts as whole is an index by the whole number nearest to its scalar. The number is first cast to
an integer of 64 bits, which makes no difference for lists that such integers can count
(`Number.indices_select_offsets`). No step of the computation leaves the words of 64 bits
(`toNat_wordOffset`).

An index that stands for no offset is reported. The report of a zero is a special one, but it is
chosen by the text of the number, so a zero with units gets the report of an index past the end
(`Number.zero_index_report`).
-/

namespace StyleNumber

/-- The offset that an index stands for: positive ones count from the front, beginning with one,
negative ones from the end. -/
def IsOffset (length : ℕ) (index : ℤ) (offset : ℕ) : Prop :=
  (1 ≤ index ∧ index ≤ length ∧ (offset : ℤ) = index - 1) ∨
    (-length ≤ index ∧ index ≤ -1 ∧ (offset : ℤ) = length + index)

/-- The offset of an index, computed in words of 64 bits. Their difference wraps around if it
would be negative. -/
def wordOffset (index : ℤ) (length : UInt64) : UInt64 :=
  if index < 0 then length - UInt64.ofNat index.natAbs else UInt64.ofNat index.natAbs - 1

section

variable {length offset : ℕ} {index : ℤ}

private theorem IsOffset.lt_length (isOffset : IsOffset length index offset) : offset < length := by
  rw [IsOffset] at isOffset
  omega

private theorem IsOffset.natAbs_le (isOffset : IsOffset length index offset) :
    index.natAbs ≤ length := by
  rw [IsOffset] at isOffset
  omega

/-- Of the positive indices, one and no other stands for an offset. -/
theorem existsUnique_positive_index (inside : offset < length) :
    ∃! index : ℤ, 0 < index ∧ IsOffset length index offset := by
  refine ⟨offset + 1, ⟨by omega, .inl (by omega)⟩, ?_⟩
  rintro other ⟨positive, isOffset⟩
  rw [IsOffset] at isOffset
  omega

/-- Of the negative indices, one and no other stands for an offset. -/
theorem existsUnique_negative_index (inside : offset < length) :
    ∃! index : ℤ, index < 0 ∧ IsOffset length index offset := by
  refine ⟨offset - length, ⟨by omega, .inr (by omega)⟩, ?_⟩
  rintro other ⟨negative, isOffset⟩
  rw [IsOffset] at isOffset
  omega

/-- Integers of 64 bits count all lists that are shorter than the greatest of them. -/
theorem isOffset_toInt64_iff (short : (length : ℤ) < Double.maxInt64) :
    IsOffset length (max Double.minInt64 (min index Double.maxInt64)) offset ↔
      IsOffset length index offset := by
  simp only [IsOffset, Double.minInt64, Double.maxInt64] at short ⊢
  omega

private theorem invalid_toInt64_iff (short : (length : ℤ) < Double.maxInt64) :
    (max Double.minInt64 (min index Double.maxInt64) = 0 ∨
        length < (max Double.minInt64 (min index Double.maxInt64)).natAbs) ↔
      index = 0 ∨ length < index.natAbs := by
  simp only [Double.minInt64, Double.maxInt64] at short ⊢
  omega

end

section

variable {length : UInt64} {index : ℤ} {offset : ℕ}

private theorem toNat_natAbs (isOffset : IsOffset length.toNat index offset) :
    (UInt64.ofNat index.natAbs).toNat = index.natAbs :=
  UInt64.toNat_ofNat_of_lt' (isOffset.natAbs_le.trans_lt length.toNat_lt_size)

/-- In words, the offset of an index comes out without wrapping around. -/
theorem toNat_wordOffset (isOffset : IsOffset length.toNat index offset) :
    (wordOffset index length).toNat = offset := by
  have size := toNat_natAbs isOffset
  rw [IsOffset] at isOffset
  rw [wordOffset]
  split
  · rw [UInt64.toNat_sub_of_le _ _ (by rw [UInt64.le_iff_toNat_le, size]; omega), size]
    omega
  · rw [UInt64.toNat_sub_of_le _ _ (by rw [UInt64.le_iff_toNat_le, size, UInt64.toNat_one]; omega),
      size, UInt64.toNat_one]
    omega

end

namespace Number

variable {number : Number Double} {length : ℕ} {name : Option String}

private theorem assertIndex_of_not_isInt (fractional : ¬number.IsInt) :
    number.assertIndex length name = .error (.argument name (.notAnInteger number.text)) := by
  have noInt : number.int? = none := if_neg fractional
  simp only [assertIndex, assertInt, noInt]
  rfl

section

variable {index : ℤ} (isInt : number.int? = some index)

include isInt

private theorem assertIndex_eq_ok_iff {offset : ℕ} :
    number.assertIndex length name = .ok offset ↔ IsOffset length index offset := by
  simp only [assertIndex, assertInt, isInt, bind, Except.bind, IsOffset]
  split
  · simp only [reduceCtorEq, false_iff]
    omega
  · split
    · rw [Except.ok.injEq]
      omega
    · rw [Except.ok.injEq]
      omega

private theorem assertIndex_eq_error_iff {error : Error} :
    number.assertIndex length name = .error error ↔
      (index = 0 ∨ length < index.natAbs) ∧
        error = .argument name (.invalidIndex number.text length) := by
  simp only [assertIndex, assertInt, isInt, bind, Except.bind]
  split
  · next outside => simp [outside, eq_comm]
  · next inside => split <;> simp [inside]

end

private theorem IsInt.int?_eq (whole : number.IsInt) :
    number.int? =
      some (max Double.minInt64 (min (nearestWhole number.value) Double.maxInt64)) :=
  Double.NearWhole.wholeNumber?_eq whole

/-- What is no whole number, and nothing else, is reported as such. -/
theorem assertIndex_eq_notAnInteger_iff {owner : Option String} {value : String} :
    number.assertIndex length name = .error (.argument owner (.notAnInteger value)) ↔
      ¬number.IsInt ∧ owner = name ∧ value = number.text := by
  by_cases whole : number.IsInt
  · rw [assertIndex_eq_error_iff whole.int?_eq]
    simp [whole]
  · rw [assertIndex_of_not_isInt whole]
    simp [whole, eq_comm]

/-- The computation of an offset stays within words of 64 bits. -/
theorem wordOffset_of_assertIndex {length : UInt64} {offset : ℕ}
    (accepted : number.assertIndex length.toNat name = .ok offset) :
    offset < length.toNat ∧ ∃ index : ℤ, number.int? = some index ∧
      (UInt64.ofNat index.natAbs).toNat = index.natAbs ∧
      (wordOffset index length).toNat = offset := by
  by_cases whole : number.IsInt
  · rw [assertIndex_eq_ok_iff whole.int?_eq] at accepted
    exact ⟨accepted.lt_length, _, whole.int?_eq, toNat_natAbs accepted, toNat_wordOffset accepted⟩
  · rw [assertIndex_of_not_isInt whole] at accepted
    cases accepted

section

variable (whole : number.IsInt) (short : (length : ℤ) < Double.maxInt64)

include whole short

/-- The cast of a scalar to an integer of 64 bits does not change which offset is selected. -/
theorem IsInt.assertIndex_eq_ok_iff {offset : ℕ} :
    number.assertIndex length name = .ok offset ↔
      IsOffset length (nearestWhole number.value) offset := by
  rw [Number.assertIndex_eq_ok_iff whole.int?_eq, isOffset_toInt64_iff short]

/-- The cast of a scalar to an integer of 64 bits does not change what is reported. -/
theorem IsInt.assertIndex_eq_error_iff {error : Error} :
    number.assertIndex length name = .error error ↔
      (nearestWhole number.value = 0 ∨ length < (nearestWhole number.value).natAbs) ∧
        error = .argument name (.invalidIndex number.text length) := by
  rw [Number.assertIndex_eq_error_iff whole.int?_eq, invalid_toInt64_iff short]

end

/-- Every index that is small enough to be a double selects its offset. -/
theorem exists_assertIndex_eq {index : ℤ} {offset : ℕ} (name : Option String)
    (small : length < twoPow 53) (isOffset : IsOffset length index offset) :
    ∃ number : Number Double, nearestWhole number.value = index ∧
      number.assertIndex length name = .ok offset := by
  have bound : twoPow 53 = 9007199254740992 := by decide
  obtain ⟨value, isWhole, exactly⟩ := Double.exists_isWhole_eq (isOffset.natAbs_le.trans_lt small)
  obtain ⟨near, nearest⟩ := isWhole.nearWhole
  have isIndex : nearestWhole value = index := by exact_mod_cast nearest.symm.trans exactly
  have whole : (unitless value).IsInt := near
  refine ⟨unitless value, isIndex, ?_⟩
  rw [whole.assertIndex_eq_ok_iff (by rw [Double.maxInt64]; omega)]
  rwa [← isIndex] at isOffset

/-- **Whole numbers select the elements of a list from either end.** An offset that is found lies
inside the list and is computed without leaving the words of 64 bits. Numbers that do not count as
whole are reported as that, infinities and not-a-number among them. A number that counts as whole
is an index by the whole number it rounds to, for all lists shorter than the greatest integer of
64 bits, and it is reported as invalid if it stands for no offset. Of the positive indices exactly
one stands for each offset, and of the negative ones, too, and where doubles hold these indices
they select it. -/
theorem indices_select_offsets (number : Number Double) (length : UInt64) (name : Option String) :
    (∀ offset, number.assertIndex length.toNat name = .ok offset →
      offset < length.toNat ∧ ∃ index : ℤ, number.int? = some index ∧
        (UInt64.ofNat index.natAbs).toNat = index.natAbs ∧
        (wordOffset index length).toNat = offset) ∧
    (∀ owner value,
      number.assertIndex length.toNat name = .error (.argument owner (.notAnInteger value)) ↔
        ¬number.IsInt ∧ owner = name ∧ value = number.text) ∧
    (¬number.value.isFinite → ¬number.IsInt) ∧
    (number.IsInt →
      number.value.round.exact = nearestWhole number.value ∧
      ((length.toNat : ℤ) < Double.maxInt64 →
        (∀ offset, number.assertIndex length.toNat name = .ok offset ↔
          IsOffset length.toNat (nearestWhole number.value) offset) ∧
        ∀ error, number.assertIndex length.toNat name = .error error ↔
          (nearestWhole number.value = 0 ∨
              length.toNat < (nearestWhole number.value).natAbs) ∧
            error = .argument name (.invalidIndex number.text length.toNat))) ∧
    ∀ offset < length.toNat,
      (∃! index : ℤ, 0 < index ∧ IsOffset length.toNat index offset) ∧
      (∃! index : ℤ, index < 0 ∧ IsOffset length.toNat index offset) ∧
      (length.toNat < twoPow 53 →
        ∀ index, IsOffset length.toNat index offset → ∃ selector : Number Double,
          nearestWhole selector.value = index ∧
            selector.assertIndex length.toNat name = .ok offset) := by
  refine ⟨fun offset accepted => wordOffset_of_assertIndex accepted,
    fun owner value => assertIndex_eq_notAnInteger_iff, ?_, ?_, ?_⟩
  · intro unbounded whole
    exact unbounded whole.1
  · intro whole
    refine ⟨Double.NearWhole.exact_round_eq whole, ?_⟩
    intro short
    exact ⟨fun offset => whole.assertIndex_eq_ok_iff short,
      fun error => whole.assertIndex_eq_error_iff short⟩
  · intro offset inside
    exact ⟨existsUnique_positive_index inside, existsUnique_negative_index inside,
      fun small index isOffset => exists_assertIndex_eq name small isOffset⟩

/-- `1e-13` short of minus one is the last of three elements. -/
theorem almost_minus_one_selects_last :
    let almost : Number Double := ofUnit (-0.9999999999999) ⟨"px"⟩
    almost.IsInt ∧ almost.value.round.exact = (-1 : ℤ) ∧ almost.assertIndex 3 none = .ok 2 := by
  intro almost
  have whole : almost.IsInt := by decide +kernel
  have nearest : nearestWhole almost.value = -1 := by decide +kernel
  obtain ⟨_, _, _, selects, _⟩ := indices_select_offsets almost 3 none
  obtain ⟨rounded, short⟩ := selects whole
  rw [nearest] at rounded short
  exact ⟨whole, rounded, ((short (by decide)).1 2).mpr (.inr (by decide))⟩

/-! ## Reports -/

private theorem unitText_eq_empty_iff :
    number.unitText = "" ↔ number.units = .unitless ∨ number.units = .single ⟨""⟩ := by
  by_cases bearing : number.hasUnits
  · rw [hasUnits_iff] at bearing
    have unitless : number.units ≠ .unitless := mt Signature.isEmpty_iff.mpr bearing
    rw [unitText_of_hasUnits (hasUnits_iff.mpr bearing), Signature.text_eq_empty_iff bearing,
      or_iff_right unitless]
  · rw [unitText_of_not_hasUnits bearing]
    rw [hasUnits_iff, not_not, Signature.isEmpty_iff] at bearing
    exact iff_of_true rfl (.inl bearing)

/-- A number is written as zero if its whole number is and nothing is written behind it. -/
theorem IsInt.text_eq_zero_iff (whole : number.IsInt) :
    number.text = "0" ↔ nearestWhole number.value = 0 ∧ number.unitText = "" := by
  rw [← Double.NearWhole.text_eq_zero_iff whole, text]
  constructor
  · intro isZero
    have characters : number.value.text.toList ++ number.unitText.toList = ['0'] := by
      rw [← String.toList_append, isZero]
      rfl
    rcases List.append_eq_singleton_iff.mp characters with ⟨nothing, _⟩ | ⟨scalar, units⟩
    · exact absurd (String.toList_eq_nil_iff.mp nothing) (Double.text_ne_empty number.value)
    · exact ⟨String.toList_inj.mp scalar, String.toList_eq_nil_iff.mp units⟩
  · rintro ⟨scalar, units⟩
    rw [scalar, units, String.append_empty]

/-- **Which report an invalid index gets.** It is the one for zero if the scalar rounds to zero and
no units are written behind it, and else the one for an index outside of the list, which names the
number and the length. -/
theorem zero_index_report (number : Number Double) (length : ℕ) (name : Option String)
    {owner : Option String} {value : String} {size : ℕ}
    (fails : number.assertIndex length name = .error (.argument owner (.invalidIndex value size))) :
    number.value.round.exact = nearestWhole number.value ∧
      (Error.argument owner (.invalidIndex value size)).message =
        if nearestWhole number.value = 0 ∧
            (number.units = .unitless ∨ number.units = .single ⟨""⟩) then
          "List index may not be 0."
        else
          "Invalid index " ++ number.text ++ " for a list with " ++ toString length ++
            " elements." := by
  by_cases whole : number.IsInt
  · refine ⟨Double.NearWhole.exact_round_eq whole, ?_⟩
    rw [assertIndex_eq_error_iff whole.int?_eq, Error.argument.injEq,
      ArgumentFault.invalidIndex.injEq] at fails
    obtain ⟨_, _, rfl, rfl⟩ := fails
    have zero := whole.text_eq_zero_iff
    rw [unitText_eq_empty_iff] at zero
    by_cases writtenZero : number.text = "0"
    · rw [if_pos (zero.mp writtenZero)]
      exact if_pos writtenZero
    · rw [if_neg (mt zero.mpr writtenZero)]
      exact if_neg writtenZero
  · rw [assertIndex_of_not_isInt whole] at fails
    cases fails

/-- A little less than zero is written as zero and reported as such. -/
theorem tiny_index_reported_as_zero :
    let tiny : Number Double := unitless (-1e-13)
    tiny.assertIndex 3 none = .error (.argument none (.invalidIndex "0" 3)) ∧
      nearestWhole tiny.value = 0 ∧
      (Error.argument none (.invalidIndex "0" 3)).message = "List index may not be 0." := by
  intro tiny
  have fails : tiny.assertIndex 3 none = .error (.argument none (.invalidIndex "0" 3)) := by
    decide +kernel
  have nearest : nearestWhole tiny.value = 0 := by decide +kernel
  have report := (zero_index_report tiny 3 none fails).2
  rw [if_pos ⟨nearest, .inl rfl⟩] at report
  exact ⟨fails, nearest, report⟩

/-- No pixels are zero as an index, but they are reported as an index outside of the list. -/
theorem zero_pixels_reported_as_outside :
    let zero : Number Double := ofUnit 0 ⟨"px"⟩
    (zero.assertIndex 3 none = .error (.argument none (.invalidIndex "0px" 3)) ∧
        nearestWhole zero.value = 0 ∧
        (Error.argument none (.invalidIndex "0px" 3)).message =
          "Invalid index 0px for a list with 3 elements.") ∧
      ¬∀ (number : Number Double) (length : ℕ) (name owner : Option String) (value : String)
        (size : ℕ),
        number.assertIndex length name = .error (.argument owner (.invalidIndex value size)) →
          nearestWhole number.value = 0 →
            (Error.argument owner (.invalidIndex value size)).message =
              "List index may not be 0." := by
  intro zero
  have fails : zero.assertIndex 3 none = .error (.argument none (.invalidIndex "0px" 3)) := by
    decide +kernel
  have nearest : nearestWhole zero.value = 0 := by decide +kernel
  refine ⟨⟨fails, nearest, by decide +kernel⟩, ?_⟩
  intro reported
  have report := reported zero 3 none none "0px" 3 fails nearest
  exact absurd report (by decide +kernel)

end Number

end StyleNumber
