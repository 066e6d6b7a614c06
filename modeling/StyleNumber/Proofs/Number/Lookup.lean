import StyleNumber.Number.Basic
import StyleNumber.Proofs.Double.HashKey

/-! # Numbers in tables

A table files numbers under their hash keys. Numbers that are equal may have different keys, but
then one key follows the other. So whatever the units, looking under the key of a number and under
the two keys beside it finds exactly the numbers of the table that are equal to it
(`Number.equal_numbers_have_adjacent_keys`).
-/

namespace StyleNumber

namespace Number

/-- The numbers of a table that are filed under a key. -/
def filedUnder (table : List (Number Double)) (key : ℤ) : List (Number Double) :=
  table.filter (·.hashKey = key)

/-- The numbers equal to a number among those filed under its key and the two keys beside it. -/
def probe (number : Number Double) (table : List (Number Double)) : List (Number Double) :=
  ([number.hashKey - 1, number.hashKey, number.hashKey + 1].flatMap (filedUnder table)).filter
    (number.Equal ·)

private theorem mem_filedUnder {table : List (Number Double)} {key : ℤ} {entry : Number Double} :
    entry ∈ filedUnder table key ↔ entry ∈ table ∧ entry.hashKey = key := by
  rw [filedUnder, List.mem_filter, decide_eq_true_eq]

/-- Equal numbers have the same key or neighbouring ones. -/
theorem Equal.hashKey_mem {left right : Number Double} (equal : left.Equal right) :
    right.hashKey ∈ [left.hashKey - 1, left.hashKey, left.hashKey + 1] := by
  have adjacent := Double.Close.abs_hashKey_sub_le equal
  rw [abs_le] at adjacent
  simp only [List.mem_cons, List.not_mem_nil, or_false, hashKey]
  omega

/-- Probing finds the equal numbers of a table and no others. -/
theorem mem_probe_iff (number : Number Double) (table : List (Number Double))
    (entry : Number Double) : entry ∈ number.probe table ↔ entry ∈ table ∧ number.Equal entry := by
  rw [probe, List.mem_filter, decide_eq_true_eq, List.mem_flatMap]
  constructor
  · rintro ⟨⟨key, _, filed⟩, equal⟩
    exact ⟨(mem_filedUnder.mp filed).1, equal⟩
  · rintro ⟨inside, equal⟩
    exact ⟨⟨entry.hashKey, equal.hashKey_mem, mem_filedUnder.mpr ⟨inside, rfl⟩⟩, equal⟩

/-- **Equal numbers have adjacent keys.** The keys of close doubles differ by at most one, and keys
keep the order of doubles, that of the infinities and both zeros included. So probing a key and its
two neighbours finds all numbers of a table that are equal to a given one. -/
theorem equal_numbers_have_adjacent_keys :
    (∀ left right : Double, left.Close right → |left.hashKey - right.hashKey| ≤ 1) ∧
    (∀ low high : Double, low ≤ high → low.hashKey ≤ high.hashKey) ∧
    ∀ (number : Number Double) (table : List (Number Double)) (entry : Number Double),
      entry ∈ number.probe table ↔ entry ∈ table ∧ number.Equal entry :=
  ⟨fun _ _ => Double.Close.abs_hashKey_sub_le, fun _ _ => Double.hashKey_le_hashKey, mem_probe_iff⟩

/-- Two close scalars have the keys zero and one; the key of infinity is the greatest; and a
duration is found as the equal of a length that has another key. -/
theorem duration_found_beside_length :
    let little : Double := 4.6e-11
    let more : Double := 5.4e-11
    let endless : Double := .infinite false
    let length : Number Double := ofUnit little ⟨"px"⟩
    let duration : Number Double := ofUnit more ⟨"s"⟩
    (little.Close more ∧ little.hashKey = 0 ∧ more.hashKey = 1 ∧
      |little.hashKey - more.hashKey| ≤ 1) ∧
    (more ≤ endless ∧ endless.hashKey = Double.maxInt64 ∧ more.hashKey ≤ endless.hashKey) ∧
    length.hashKey ≠ duration.hashKey ∧ duration ∈ length.probe [duration] := by
  intro little more endless length duration
  obtain ⟨adjacent, ordered, found⟩ := equal_numbers_have_adjacent_keys
  refine ⟨⟨by decide +kernel, by decide +kernel, by decide +kernel,
      adjacent little more (by decide +kernel)⟩,
    ⟨by decide +kernel, by decide +kernel, ordered more endless (by decide +kernel)⟩,
    by decide +kernel, ?_⟩
  rw [found]
  exact ⟨List.mem_singleton_self duration, by decide +kernel⟩

end Number

end StyleNumber
