import StyleNumber.Proofs.Signature.Conversion

/-! # Conversion as a perfect matching

The units of a source change places while a conversion looks for partners, but what comes out
is a matching of places: every slot of the target has a unit of the source to itself, and no
unit is left over (`Matching`). A conversion multiplies the value by the factors of the matched
pairs, slot by slot, first above the bar and then below it
(`Signature.conversion_matches_perfectly`). In doubles this says which roundings take place, and
in which order.
-/

namespace StyleNumber

/-- A matching of all slots with all units of a pool, by their places in the two lists, and the
factor between each slot and its partner. -/
structure Matching (factor? : UnitSymbol → UnitSymbol → Option Factor)
    (slots pool : List UnitSymbol) where
  /-- The place of the unit that a slot is matched with. -/
  partner : Fin slots.length ≃ Fin pool.length
  factor : Fin slots.length → Factor
  related (slot : Fin slots.length) :
    factor? slots[slot] pool[partner slot] = some (factor slot)

namespace Matching

variable {factor? : UnitSymbol → UnitSymbol → Option Factor} {slots pool : List UnitSymbol}

/-- The matched pairs, in the order of the slots. -/
def pairs (matching : Matching factor? slots pool) : List Pair :=
  List.ofFn fun slot => ⟨slots[slot], pool[matching.partner slot], matching.factor slot⟩

end Matching

namespace Search

variable {factor? : UnitSymbol → UnitSymbol → Option Factor}
  {seekers pool rest : List UnitSymbol} {pairs : List Pair}

/-- A search that leaves nobody idle pairs the seekers in their order. -/
theorem seekers_eq (search : Search factor? seekers pool [] rest pairs) :
    seekers = pairs.map Pair.seeker := by
  generalize nobody : ([] : List UnitSymbol) = idle at search
  induction search with
  | done pool => rfl
  | found related removed later ih => rw [List.map_cons, ← ih nobody]
  | missed unrelated later ih => cases nobody

/-- A search that uses up seekers and pool is a matching. -/
theorem exists_matching (search : Search factor? seekers pool [] [] pairs) :
    ∃ matching : Matching factor? seekers pool, matching.pairs = pairs := by
  have usedUp : (pairs.map Pair.partner).Perm pool :=
    (List.append_nil (pairs.map Pair.partner) ▸ search.pool_perm).symm
  have related : ∀ pair ∈ pairs, factor? pair.seeker pair.partner = some pair.factor :=
    fun _ => search.related_of_mem
  obtain rfl := search.seekers_eq
  have length : (pairs.map Pair.seeker).length = (pairs.map Pair.partner).length := by
    rw [List.length_map, List.length_map]
  let pairAt (slot : Fin (pairs.map Pair.seeker).length) : Pair :=
    pairs.get (slot.cast (List.length_map Pair.seeker))
  let partner : Fin (pairs.map Pair.seeker).length ≃ Fin pool.length :=
    (finCongr length).trans
      (.ofBijective usedUp.idxBij ⟨usedUp.idxBij_injective, usedUp.idxBij_surjective⟩)
  have seekerAt (slot) : (pairs.map Pair.seeker)[slot] = (pairAt slot).seeker :=
    List.getElem_map Pair.seeker
  have partnerAt (slot) : pool[partner slot] = (pairAt slot).partner :=
    (usedUp.getElem_idxBij_eq_getElem (finCongr length slot)).trans (List.getElem_map Pair.partner)
  refine ⟨⟨partner, fun slot => (pairAt slot).factor, fun slot => ?_⟩, ?_⟩
  · rw [seekerAt, partnerAt]
    exact related (pairAt slot) (List.getElem_mem _)
  · simp only [Matching.pairs, seekerAt, partnerAt]
    apply List.ext_getElem
    · rw [List.length_ofFn, List.length_map]
    · intro place ofSlot ofPair
      rw [List.getElem_ofFn]
      rfl

end Search

variable {K : Type} [Mul K] [Div K] [Constants K]

/-- Slots filled from a pool that is used up are matched with it. -/
theorem exists_matching_of_fill {factor? : UnitSymbol → UnitSymbol → Option Factor}
    {value filled : K} {pool slots : List UnitSymbol}
    (success : fill factor? value pool slots = some (filled, [])) :
    ∃ matching : Matching factor? slots pool, filled = scaled value matching.pairs := by
  obtain ⟨pairs, search, rfl⟩ := fill_search success
  obtain ⟨matching, rfl⟩ := search.exists_matching
  exact ⟨matching, rfl⟩

namespace Signature

/-- **A conversion is a perfect matching.** The units of the source are matched with the slots
of the target, numerators with numerators and denominators with denominators, and the result
is the value times the factors of the pairs: for each numerator of the target in order the
factor from its partner, then for each denominator the factor to its partner. -/
theorem conversion_matches_perfectly {value converted : K} {source target : Signature}
    (sourceUnits : ¬source.isEmpty) (targetUnits : ¬target.isEmpty) (different : source ≠ target)
    (success : convert value source target = .ok converted) :
    ∃ (above : Matching (fun slot unit => unit.conversionFactor? slot)
        target.numerators source.numerators)
      (below : Matching (fun slot unit => slot.conversionFactor? unit)
        target.denominators source.denominators),
      converted = scaled (scaled value above.pairs) below.pairs := by
  rw [convert_eq_ok_iff sourceUnits targetUnits different, pairUp_eq_some_iff] at success
  obtain ⟨halfway, filledAbove, filledBelow⟩ := success
  obtain ⟨above, rfl⟩ := exists_matching_of_fill filledAbove
  obtain ⟨below, rfl⟩ := exists_matching_of_fill filledBelow
  exact ⟨above, below, rfl⟩

/-- A second and an inch per millisecond become pixels and milliseconds per second: the inch,
second in its list, is matched with the pixel, first in the other. -/
theorem inches_per_millisecond_matched :
    let source : Signature := ⟨[⟨"s"⟩, ⟨"in"⟩], [⟨"ms"⟩]⟩
    let target : Signature := ⟨[⟨"px"⟩, ⟨"ms"⟩], [⟨"s"⟩]⟩
    (¬source.isEmpty ∧ ¬target.isEmpty ∧ source ≠ target) ∧
      convert (1 : Double) source target = .ok 96000000 ∧
      ∃ (above : Matching (fun slot unit => unit.conversionFactor? slot)
          target.numerators source.numerators)
        (below : Matching (fun slot unit => slot.conversionFactor? unit)
          target.denominators source.denominators),
        (96000000 : Double) = scaled (scaled 1 above.pairs) below.pairs := by
  intro source target
  have success : convert (1 : Double) source target = .ok 96000000 := by decide +kernel
  exact ⟨⟨by decide, by decide, by decide⟩, success,
    conversion_matches_perfectly (by decide) (by decide) (by decide) success⟩

end Signature

end StyleNumber
