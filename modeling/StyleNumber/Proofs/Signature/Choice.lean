import StyleNumber.Proofs.Signature.Leftovers

/-! # Where the choice of a partner matters

Two searches of the same seekers among the same units leave the same seekers idle and as many units
of every dimension, whichever partners they took (`Search.idle_eq`,
`Search.dimensions_rest_perm`). Which units of a category are left can depend on the choice. It
does not where no choice is to be made: where at most one seeker finds a partner at all, or where
in every category nothing is taken, everything is taken, or all units are of one symbol
(`Determined`). Then it does not matter how the gaps are closed
(`Closing.leave_perm_of_determined`).
-/

namespace StyleNumber

open UnitSymbol Signature

instance : Fintype Category where
  elems := {.length, .angle, .time, .frequency, .resolution}
  complete := by
    intro category
    cases category <;> decide

/-- Whether the units of a category that stay in a pool are known without a look at the pairs:
nothing of the category is taken, or everything, or its units are all of one symbol. -/
def Forced (category : Category) (seekers pool : List UnitSymbol) : Prop :=
  countIn category seekers = 0 ∨ countIn category pool ≤ countIn category seekers ∨
    ∀ unit ∈ pool, ∀ other ∈ pool, unit.category? = some category →
      other.category? = some category → unit = other

instance (category : Category) (seekers pool : List UnitSymbol) :
    Decidable (Forced category seekers pool) :=
  inferInstanceAs (Decidable (_ ∨ _ ∨ _))

/-- Whether the table relates a seeker to any unit of a pool. -/
def hasPartner (pool : List UnitSymbol) (seeker : UnitSymbol) : Bool :=
  pool.any fun unit => (seeker.tableFactor? unit).isSome

/-- Whether a search has no choice to make that matters: at most one seeker has a partner in the
pool, or every category is forced. -/
def Determined (seekers pool : List UnitSymbol) : Prop :=
  seekers.countP (hasPartner pool) ≤ 1 ∨ ∀ category, Forced category seekers pool

instance (seekers pool : List UnitSymbol) : Decidable (Determined seekers pool) :=
  inferInstanceAs (Decidable (_ ∨ _))

/-- The table relates units of one category. -/
theorem UnitSymbol.category?_eq_some_iff_of_related {seeker partner : UnitSymbol} {factor : Factor}
    (related : seeker.tableFactor? partner = some factor) {category : Category} :
    seeker.category? = some category ↔ partner.category? = some category := by
  rw [← dimension_eq_known_iff, ← dimension_eq_known_iff, dimension_eq_of_tableFactor? related]

/-- No unit counts in a category when none is of it. -/
theorem UnitSymbol.countIn_eq_zero_iff {category : Category} {units : List UnitSymbol} :
    countIn category units = 0 ↔ ∀ unit ∈ units, unit.category? ≠ some category := by
  simp only [countIn, List.countP_eq_zero, decide_eq_true_eq, ne_eq]

section

variable {seekers pool seekers' pool' : List UnitSymbol}

private theorem hasPartner_perm (permuted : pool'.Perm pool) : hasPartner pool' = hasPartner pool :=
  funext fun _ => permuted.any_eq

/-- The count of a category does not depend on the order of the units. -/
theorem countIn_perm (category : Category) (permuted : pool'.Perm pool) :
    countIn category pool' = countIn category pool :=
  permuted.countP_eq _

/-- Whether a search is determined does not depend on the order of the units. -/
theorem Determined.of_perm (determined : Determined seekers pool) (first : seekers'.Perm seekers)
    (second : pool'.Perm pool) : Determined seekers' pool' := by
  simpa only [Determined, Forced, hasPartner_perm second, first.countP_eq, countIn_perm _ first,
    countIn_perm _ second, second.mem_iff] using determined

end

namespace Search

private theorem exists_candidate {seeker partner : UnitSymbol} {factor : Factor}
    (related : seeker.tableFactor? partner = some factor) {pool : List UnitSymbol}
    (measured : partner.dimension ∈ dimensions pool) :
    ∃ candidate ∈ pool, seeker.tableFactor? candidate ≠ none := by
  obtain ⟨category, sought, known⟩ := exists_dimension_of_tableFactor? related
  obtain ⟨candidate, member, alike⟩ := List.mem_map.mp measured
  refine ⟨candidate, member, Option.isSome_iff_ne_none.mp ?_⟩
  rw [isSome_tableFactor?]
  exact ⟨category, dimension_eq_known_iff.mp sought, dimension_eq_known_iff.mp (alike.trans known)⟩

variable {seekers pool idle rest pool' idle' rest' : List UnitSymbol} {pairs pairs' : List Pair}

/-- **Who stays idle does not depend on the partners taken**, nor on more of the pool than its
dimensions. -/
theorem idle_eq (search : Search tableFactor? seekers pool idle rest pairs)
    (other : Search tableFactor? seekers pool' idle' rest' pairs')
    (same : (dimensions pool).Perm (dimensions pool')) : idle = idle' := by
  induction search generalizing pool' idle' rest' pairs' with
  | done pool =>
    cases other
    rfl
  | found related removed later ih =>
    have split := (removed.map dimension).symm.trans same
    cases other with
    | found related' removed' later' =>
      have alike := (dimension_eq_of_tableFactor? related).symm.trans
        (dimension_eq_of_tableFactor? related')
      have split' := split.trans (removed'.map dimension)
      rw [List.map_cons, List.map_cons, alike] at split'
      exact ih later' split'.cons_inv
    | missed unrelated' later' =>
      obtain ⟨candidate, member, isCandidate⟩ :=
        exists_candidate related (split.mem_iff.mp List.mem_cons_self)
      exact (isCandidate (unrelated' candidate member)).elim
  | missed unrelated later ih =>
    cases other with
    | found related' removed' later' =>
      have split' := (removed'.map dimension).symm.trans same.symm
      obtain ⟨candidate, member, isCandidate⟩ :=
        exists_candidate related' (split'.mem_iff.mp List.mem_cons_self)
      exact (isCandidate (unrelated candidate member)).elim
    | missed unrelated' later' => rw [ih later' same]

section

variable (search : Search tableFactor? seekers pool idle rest pairs)

include search

/-- How many units of a category are left does not depend on the partners taken. -/
theorem dimensions_rest_perm (other : Search tableFactor? seekers pool idle' rest' pairs') :
    (dimensions rest).Perm (dimensions rest') := by
  apply List.perm_iff_count.mpr
  intro dimension
  have left := search.count_rest dimension
  have left' := other.count_rest dimension
  omega

private theorem countIn_rest (category : Category) :
    countIn category rest + min (countIn category seekers) (countIn category pool) =
      countIn category pool := by
  simp only [countIn_eq_count]
  exact search.count_rest (.known category)

/-- A unit of a category that no seeker belongs to is not taken. -/
theorem count_rest_of_absent {symbol : UnitSymbol} {category : Category}
    (known : symbol.category? = some category) (absent : countIn category seekers = 0) :
    rest.count symbol = pool.count symbol := by
  have untaken : symbol ∉ pairs.map Pair.partner := by
    intro taken
    obtain ⟨pair, member, rfl⟩ := List.mem_map.mp taken
    have outside := countIn_eq_zero_iff.mp absent pair.seeker (search.seeker_mem member)
    exact outside ((category?_eq_some_iff_of_related (search.related_of_mem member)).mpr known)
  rw [search.pool_perm.count_eq, List.count_append, List.count_eq_zero.mpr untaken, Nat.zero_add]

/-- A category of at most as many units as seekers is used up. -/
theorem count_rest_of_exhausted {symbol : UnitSymbol} {category : Category}
    (known : symbol.category? = some category)
    (exhausted : countIn category pool ≤ countIn category seekers) : rest.count symbol = 0 := by
  have none : countIn category rest = 0 := by
    have left := search.countIn_rest category
    omega
  exact List.count_eq_zero.mpr fun stays => countIn_eq_zero_iff.mp none symbol stays known

/-- Where all units of a category are of one symbol, that symbol is left as often as the
category. -/
theorem count_rest_of_uniform {symbol : UnitSymbol} {category : Category}
    (known : symbol.category? = some category) (member : symbol ∈ pool)
    (uniform : ∀ unit ∈ pool, ∀ other ∈ pool, unit.category? = some category →
      other.category? = some category → unit = other) :
    rest.count symbol = countIn category rest := by
  apply List.countP_congr
  intro unit stays
  rw [beq_iff_eq, decide_eq_true_iff]
  refine ⟨fun same => same ▸ known, fun unitKnown => ?_⟩
  exact uniform unit (search.rest_subset stays) symbol member unitKnown known

/-- Where a category is forced, its units are left alike by all searches. -/
theorem count_rest_of_forced (other : Search tableFactor? seekers pool idle' rest' pairs')
    {symbol : UnitSymbol} {category : Category} (known : symbol.category? = some category)
    (forced : Forced category seekers pool) : rest.count symbol = rest'.count symbol := by
  rcases forced with absent | exhausted | uniform
  · rw [search.count_rest_of_absent known absent, other.count_rest_of_absent known absent]
  · rw [search.count_rest_of_exhausted known exhausted,
      other.count_rest_of_exhausted known exhausted]
  · by_cases member : symbol ∈ pool
    · rw [search.count_rest_of_uniform known member uniform,
        other.count_rest_of_uniform known member uniform, countIn_eq_count, countIn_eq_count]
      exact (search.dimensions_rest_perm other).count_eq _
    · rw [List.count_eq_zero.mpr fun stays => member (search.rest_subset stays),
        List.count_eq_zero.mpr fun stays => member (other.rest_subset stays)]

/-- Where every category is forced, all searches leave the same units. -/
theorem rest_perm (other : Search tableFactor? seekers pool idle' rest' pairs')
    (forced : ∀ category, Forced category seekers pool) : rest.Perm rest' := by
  apply List.perm_iff_count.mpr
  intro symbol
  cases known : symbol.category? with
  | some category => exact search.count_rest_of_forced other known (forced category)
  | none =>
    have unknown : ¬symbol.isConvertible :=
      not_isConvertible_iff.mpr (dimension_eq_custom_iff.mpr ⟨known, rfl⟩)
    rw [count_eq_count_dimension unknown, count_eq_count_dimension unknown]
    exact (search.dimensions_rest_perm other).count_eq _

end

end Search

private theorem not_hasPartner_iff {seeker : UnitSymbol} {pool : List UnitSymbol} :
    ¬hasPartner pool seeker ↔ ∀ unit ∈ pool, seeker.tableFactor? unit = none := by
  simp only [hasPartner, List.any_eq_true, not_exists, not_and, Bool.not_eq_true,
    Option.isSome_eq_false_iff, Option.isNone_iff_eq_none]

namespace Closing

variable (closing other : Closing) {seekers pool : List UnitSymbol}

private theorem leave_of_unrelated
    (unrelated : ∀ seeker ∈ seekers, ∀ unit ∈ pool, seeker.tableFactor? unit = none) :
    closing.leave pool seekers = pool := by
  induction seekers with
  | nil => rfl
  | cons seeker seekers ih =>
    rw [leave, closing.take?_eq_none_iff.mpr (unrelated seeker List.mem_cons_self)]
    exact ih fun later member => unrelated later (List.mem_cons_of_mem _ member)

/-- A seeker that takes a unit leaves the others the rest of the pool. -/
theorem leave_cons_of_eq_some {seeker : UnitSymbol} {factor : Factor} {rest : List UnitSymbol}
    (taken : closing.take? seeker.tableFactor? pool = some (factor, rest))
    (seekers : List UnitSymbol) :
    closing.leave pool (seeker :: seekers) = closing.leave rest seekers := by
  rw [leave, taken]

/-- Before anything is taken, the pool is the same for all ways to close a gap. If only one seeker
has a partner, all therefore take the same one. -/
theorem leave_perm_of_few (few : seekers.countP (hasPartner pool) ≤ 1) :
    (closing.leave pool seekers).Perm (other.leave pool seekers) := by
  induction seekers with
  | nil => exact .refl pool
  | cons seeker seekers ih =>
    cases taken : closing.take? seeker.tableFactor? pool with
    | none =>
      have nothing := closing.take?_eq_none_iff.mp taken
      rw [List.countP_cons_of_neg (not_hasPartner_iff.mpr nothing)] at few
      rw [leave, leave, taken, other.take?_eq_none_iff.mpr nothing]
      exact ih few
    | some found =>
      obtain ⟨factor, rest⟩ := found
      obtain ⟨before, unit, behind, rfl, silent, answers, rfl⟩ := closing.take?_eq_some_iff.mp taken
      have takenToo := other.take?_eq_some_iff.mpr ⟨before, unit, behind, rfl, silent, answers, rfl⟩
      have related : hasPartner (before ++ unit :: behind) seeker := by
        by_contra nothing
        rw [closing.take?_eq_none_iff.mpr (not_hasPartner_iff.mp nothing)] at taken
        cases taken
      rw [List.countP_cons_of_pos related] at few
      have nobody : ∀ later ∈ seekers, ∀ candidate ∈ before ++ unit :: behind,
          later.tableFactor? candidate = none := by
        intro later member
        apply not_hasPartner_iff.mp
        exact List.countP_eq_zero.mp (Nat.le_zero.mp (Nat.le_of_succ_le_succ few)) later member
      have untouched (way : Closing) : way.leave (before ++ way.close behind) seekers =
          before ++ way.close behind := by
        apply way.leave_of_unrelated
        intro later member candidate stays
        apply nobody later member
        rw [List.mem_append, (way.close_perm behind).mem_iff] at stays
        exact List.mem_append.mpr (stays.imp_right (List.mem_cons_of_mem unit))
      rw [closing.leave_cons_of_eq_some taken, other.leave_cons_of_eq_some takenToo,
        untouched closing, untouched other]
      exact ((closing.close_perm behind).trans (other.close_perm behind).symm).append_left before

/-- Where a search is determined, it does not matter how the gaps are closed. -/
theorem leave_perm_of_determined (determined : Determined seekers pool) :
    (closing.leave pool seekers).Perm (other.leave pool seekers) := by
  rcases determined with few | forced
  · exact closing.leave_perm_of_few other few
  · obtain ⟨_, _, search, _⟩ := closing.exists_cancel_eq pool seekers
    obtain ⟨_, _, search', _⟩ := other.exists_cancel_eq pool seekers
    exact search.rest_perm search' forced

end Closing

end StyleNumber
