import StyleNumber.Proofs.Signature.Commensurable
import StyleNumber.Proofs.Signature.Search
import StyleNumber.Signature.Conversion

/-! # When conversion succeeds

The search for partners is greedy: a slot takes the first unit that converts into it.
It still finds a pairing whenever there is one, because units that convert into one
slot measure the same and so are as good as each other for every later slot
(`exists_fill_of_perm`). Between signatures with units, conversion therefore succeeds
exactly when they are commensurable (`Signature.exists_convert_iff`).
-/

namespace StyleNumber

variable {K : Type} [Mul K] [Div K] [Constants K]

section

variable {factor? : UnitSymbol → UnitSymbol → Option Factor}
  (relates : ∀ slot unit, (factor? slot unit).isSome ↔ slot.dimension = unit.dimension)

include relates

/-- A pool that fills all slots and is used up measures what the slots measure. -/
theorem dimensions_perm_of_fill {value filled : K} {pool slots : List UnitSymbol}
    (success : fill factor? value pool slots = some (filled, [])) :
    (UnitSymbol.dimensions pool).Perm (UnitSymbol.dimensions slots) := by
  obtain ⟨pairs, search, _⟩ := fill_search success
  have slotsPaired : slots.Perm (pairs.map Pair.seeker) :=
    List.append_nil (pairs.map Pair.seeker) ▸ search.seekers_perm
  have poolTaken : pool.Perm (pairs.map Pair.partner) :=
    List.append_nil (pairs.map Pair.partner) ▸ search.pool_perm
  have paired : UnitSymbol.dimensions (pairs.map Pair.seeker) =
      UnitSymbol.dimensions (pairs.map Pair.partner) :=
    search.dimensions_eq fun related =>
      (relates _ _).mp (Option.isSome_iff_exists.mpr ⟨_, related⟩)
  calc (UnitSymbol.dimensions pool).Perm (UnitSymbol.dimensions (pairs.map Pair.partner)) :=
        poolTaken.map _
    _ = UnitSymbol.dimensions (pairs.map Pair.seeker) := paired.symm
    List.Perm _ (UnitSymbol.dimensions slots) := (slotsPaired.map _).symm

/-- A pool that measures what the slots measure fills them all and is used up. -/
theorem exists_fill_of_perm (value : K) {pool slots : List UnitSymbol}
    (same : (UnitSymbol.dimensions pool).Perm (UnitSymbol.dimensions slots)) :
    ∃ filled, fill factor? value pool slots = some (filled, []) := by
  induction slots generalizing value pool with
  | nil =>
    have empty : pool = [] := List.map_eq_nil_iff.mp same.eq_nil
    exact ⟨value, by rw [empty, fill]⟩
  | cons slot slots ih =>
    cases taken : takeFirst? (factor? slot) pool with
    | none =>
      have unrelated := takeFirst?_eq_none_iff.mp taken
      obtain ⟨unit, member, alike⟩ := List.mem_map.mp (same.mem_iff.mpr List.mem_cons_self)
      have related := (relates slot unit).mpr alike.symm
      rw [unrelated unit member] at related
      cases related
    | some found =>
      obtain ⟨factor, remaining⟩ := found
      obtain ⟨partner, related, removed⟩ := takeFirst?_perm taken
      have alike := (relates slot partner).mp (Option.isSome_iff_exists.mpr ⟨factor, related⟩)
      -- Whichever candidate was taken, what remains measures the same.
      have later : (UnitSymbol.dimensions remaining).Perm (UnitSymbol.dimensions slots) := by
        have split := (removed.map UnitSymbol.dimension).symm.trans same
        rw [List.map_cons, ← alike] at split
        exact split.cons_inv
      obtain ⟨filled, success⟩ := ih (value * factor.eval) later
      exact ⟨filled, by rw [fill, taken]; exact success⟩

end

namespace Signature

/-- Signatures pair up when the numerators of the target are filled and then its denominators,
both with nothing left of the source. -/
theorem pairUp_eq_some_iff {value converted : K} {source target : Signature} :
    pairUp value source target = some converted ↔
      ∃ halfway,
        fill (fun slot unit => unit.conversionFactor? slot) value source.numerators
            target.numerators = some (halfway, []) ∧
          fill (fun slot unit => slot.conversionFactor? unit) halfway source.denominators
            target.denominators = some (converted, []) := by
  constructor
  · intro success
    unfold pairUp at success
    split at success
    · next halfway above =>
      split at success
      · next below =>
        cases success
        exact ⟨halfway, above, below⟩
      · cases success
    · cases success
  · rintro ⟨halfway, above, below⟩
    simp only [pairUp, above, below]

private theorem exists_pairUp_iff (value : K) (source target : Signature) :
    (∃ converted, pairUp value source target = some converted) ↔ source.Commensurable target := by
  rw [commensurable_iff]
  constructor
  · rintro ⟨converted, success⟩
    obtain ⟨halfway, above, below⟩ := pairUp_eq_some_iff.mp success
    exact ⟨dimensions_perm_of_fill
        (fun slot unit => unit.isSome_conversionFactor? slot |>.trans eq_comm) above,
      dimensions_perm_of_fill (fun slot unit => slot.isSome_conversionFactor? unit) below⟩
  · rintro ⟨above, below⟩
    obtain ⟨halfway, filled⟩ := exists_fill_of_perm
      (fun slot unit => unit.isSome_conversionFactor? slot |>.trans eq_comm) value above
    obtain ⟨converted, success⟩ := exists_fill_of_perm
      (fun slot unit => slot.isSome_conversionFactor? unit) halfway below
    exact ⟨converted, pairUp_eq_some_iff.mpr ⟨halfway, filled, success⟩⟩

/-- A value is not changed by a conversion from or to no units. -/
theorem convert_of_isEmpty (value : K) {source target : Signature}
    (bare : source.isEmpty ∨ target.isEmpty) : convert value source target = .ok value :=
  if_pos (.inr bare)

/-- A value is not changed by a conversion to its own units. -/
theorem convert_self (value : K) (units : Signature) : convert value units units = .ok value :=
  if_pos (.inl rfl)

/-- Between different signatures that are not empty, converting is pairing up. -/
theorem convert_eq_ok_iff {source target : Signature} (sourceUnits : ¬source.isEmpty)
    (targetUnits : ¬target.isEmpty) (different : source ≠ target) {value converted : K} :
    convert value source target = .ok converted ↔
      pairUp value source target = some converted := by
  rw [convert, if_neg (not_or.mpr ⟨different, not_or.mpr ⟨sourceUnits, targetUnits⟩⟩)]
  cases pairUp value source target with
  | none => simp only [reduceCtorEq]
  | some scaled => simp only [Except.ok.injEq, Option.some.injEq]

/-- A conversion fails with the texts of both signatures. -/
theorem error_of_convert {value : K} {source target : Signature} {error : Error}
    (failure : convert value source target = .error error) :
    error = .incompatibleUnits source.text target.text := by
  unfold convert at failure
  split at failure
  · cases failure
  · split at failure
    · cases failure
    · cases failure
      rfl

/-- Between signatures with units, conversion succeeds exactly when they are
commensurable. -/
theorem exists_convert_iff {source target : Signature} (sourceUnits : ¬source.isEmpty)
    (targetUnits : ¬target.isEmpty) (value : K) :
    (∃ converted, convert value source target = .ok converted) ↔ source.Commensurable target := by
  by_cases same : source = target
  · subst same
    exact ⟨fun _ => .refl source, fun _ => ⟨value, convert_self value source⟩⟩
  · simp only [convert_eq_ok_iff sourceUnits targetUnits same, exists_pairUp_iff]

/-- Between commensurable signatures, with units or without, conversion succeeds. -/
theorem Commensurable.exists_convert {source target : Signature}
    (matched : source.Commensurable target) (value : K) :
    ∃ converted, convert value source target = .ok converted := by
  by_cases bare : source.isEmpty
  · exact ⟨value, convert_of_isEmpty value (.inl bare)⟩
  · exact (exists_convert_iff bare (matched.isEmpty_eq ▸ bare) value).mpr matched

/-- **Conversion finds a pairing whenever there is one.** A value passes unchanged when
either side has no units. Otherwise success is a matter of counting the classes of alike
units, hence of pairing them off one to one; neither the scalar nor the order of the
units has a say in it. -/
theorem convert_succeeds_iff_units_pair_off (value : K) (source target : Signature) :
    (source.isEmpty ∨ target.isEmpty → convert value source target = .ok value) ∧
      (¬source.isEmpty → ¬target.isEmpty →
        ((∃ converted, convert value source target = .ok converted) ↔
            source.Commensurable target) ∧
          ((∃ converted, convert value source target = .ok converted) ↔
            UnitSymbol.PairsOff source.numerators target.numerators ∧
              UnitSymbol.PairsOff source.denominators target.denominators)) ∧
      (∀ (other : K) (sourceAnew targetAnew : Signature),
        sourceAnew.Perm source → targetAnew.Perm target →
          ((∃ converted, convert other sourceAnew targetAnew = .ok converted) ↔
            ∃ converted, convert value source target = .ok converted)) ∧
      ∀ error, convert value source target = .error error →
        error = .incompatibleUnits source.text target.text := by
  refine ⟨convert_of_isEmpty value, ?_, ?_, fun error => error_of_convert⟩
  · intro sourceUnits targetUnits
    rw [exists_convert_iff sourceUnits targetUnits, ← commensurable_iff_pairsOff]
    exact ⟨.rfl, .rfl⟩
  · intro other sourceAnew targetAnew sourceSame targetSame
    by_cases bare : source.isEmpty ∨ target.isEmpty
    · have bareAnew : sourceAnew.isEmpty ∨ targetAnew.isEmpty := by
        rwa [sourceSame.isEmpty_eq, targetSame.isEmpty_eq]
      rw [convert_of_isEmpty value bare, convert_of_isEmpty other bareAnew]
      exact ⟨fun _ => ⟨value, rfl⟩, fun _ => ⟨other, rfl⟩⟩
    · obtain ⟨sourceUnits, targetUnits⟩ := not_or.mp bare
      rw [exists_convert_iff sourceUnits targetUnits,
        exists_convert_iff (sourceSame.isEmpty_eq ▸ sourceUnits)
          (targetSame.isEmpty_eq ▸ targetUnits)]
      constructor
      · intro matched
        exact (Commensurable.of_perm sourceSame).symm.trans
          (matched.trans (.of_perm targetSame))
      · intro matched
        exact (Commensurable.of_perm sourceSame).trans
          (matched.trans (Commensurable.of_perm targetSame).symm)

/-- Known and unknown units pair off in any order, with 96 pixels to the inch, 2.54 centimeters
to 72 points and 1000 milliseconds to the second; a unit too many does not. -/
theorem mixed_units_pair_off :
    let source : Signature := ⟨[⟨"in"⟩, ⟨"em"⟩, ⟨"pt"⟩], [⟨"s"⟩]⟩
    let target : Signature := ⟨[⟨"px"⟩, ⟨"cm"⟩, ⟨"em"⟩], [⟨"ms"⟩]⟩
    let twice : Signature := ⟨[⟨"px"⟩, ⟨"em"⟩, ⟨"em"⟩], [⟨"ms"⟩]⟩
    ((∃ converted, convert (1 : Double) source target = .ok converted) ∧
        convert (1 : Double) source target = .ok 0.0033866666666666667) ∧
      ¬∃ converted, convert (1 : Double) source twice = .ok converted := by
  intro source target twice
  have pairsOff := (convert_succeeds_iff_units_pair_off (1 : Double) source target).2.1
    (by decide) (by decide)
  have tooMany := (convert_succeeds_iff_units_pair_off (1 : Double) source twice).2.1
    (by decide) (by decide)
  exact ⟨⟨pairsOff.1.mpr (by decide), by decide +kernel⟩, tooMany.1.not.mpr (by decide)⟩

end Signature

end StyleNumber
