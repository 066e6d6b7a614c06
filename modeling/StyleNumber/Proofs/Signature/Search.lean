import StyleNumber.Proofs.Signature.Closing

/-! # Searches for partners

Filling the slots of a target and cancelling a fraction are the same search: one
unit after the other seeks a partner in a pool, and a partner found leaves the pool.
`Search` describes its runs without saying which of several candidates is taken or
how the pool closes the gap, so whatever holds of every `Search` depends on neither.
`fill` and `cancel` are runs of it (`fill_search`, `cancel_search`), and so is cancelling with
any other way to close the gaps (`Closing.exists_cancel_eq`). The value they return is the given
one times the factors of the pairs, in order (`scaled`).
-/

namespace StyleNumber

/-- A unit that sought a partner, the partner it took, and the factor between them. -/
structure Pair where
  seeker : UnitSymbol
  partner : UnitSymbol
  factor : Factor

/-- The runs of a search: each seeker takes a partner out of the pool, or stays idle
when the pool has none for it. -/
inductive Search (factor? : UnitSymbol → UnitSymbol → Option Factor) :
    (seekers pool idle rest : List UnitSymbol) → List Pair → Prop
  | done (pool : List UnitSymbol) : Search factor? [] pool [] pool []
  | found {seeker partner : UnitSymbol} {factor : Factor}
      {seekers pool remaining idle rest : List UnitSymbol} {pairs : List Pair}
      (related : factor? seeker partner = some factor)
      (removed : pool.Perm (partner :: remaining))
      (later : Search factor? seekers remaining idle rest pairs) :
      Search factor? (seeker :: seekers) pool idle rest (⟨seeker, partner, factor⟩ :: pairs)
  | missed {seeker : UnitSymbol} {seekers pool idle rest : List UnitSymbol} {pairs : List Pair}
      (unrelated : ∀ candidate ∈ pool, factor? seeker candidate = none)
      (later : Search factor? seekers pool idle rest pairs) :
      Search factor? (seeker :: seekers) pool (seeker :: idle) rest pairs

namespace Search

variable {factor? : UnitSymbol → UnitSymbol → Option Factor}
  {seekers pool idle rest : List UnitSymbol} {pairs : List Pair}

/-- The units of a pair are related by its factor. -/
theorem related_of_mem (search : Search factor? seekers pool idle rest pairs) {pair : Pair}
    (member : pair ∈ pairs) : factor? pair.seeker pair.partner = some pair.factor := by
  induction search with
  | done pool => cases member
  | found related removed later ih =>
    rcases List.mem_cons.mp member with rfl | earlier
    · exact related
    · exact ih earlier
  | missed unrelated later ih => exact ih member

/-- Where only units of one dimension are related, seekers and partners measure the same. -/
theorem dimensions_eq (search : Search factor? seekers pool idle rest pairs)
    (alike : ∀ {seeker partner factor}, factor? seeker partner = some factor →
      seeker.dimension = partner.dimension) :
    (pairs.map Pair.seeker).map UnitSymbol.dimension =
      (pairs.map Pair.partner).map UnitSymbol.dimension := by
  rw [List.map_map, List.map_map]
  apply List.map_congr_left
  intro pair member
  exact alike (search.related_of_mem member)

/-- Every seeker is in a pair or idle, and nothing else is. -/
theorem seekers_perm (search : Search factor? seekers pool idle rest pairs) :
    seekers.Perm (pairs.map Pair.seeker ++ idle) := by
  induction search with
  | done pool => exact .refl []
  | found related removed later ih => exact ih.cons _
  | missed unrelated later ih => exact (ih.cons _).trans List.perm_middle.symm

/-- Every unit of the pool is in a pair or left, and nothing else is. -/
theorem pool_perm (search : Search factor? seekers pool idle rest pairs) :
    pool.Perm (pairs.map Pair.partner ++ rest) := by
  induction search with
  | done pool => exact .refl pool
  | found related removed later ih => exact removed.trans (ih.cons _)
  | missed unrelated later ih => exact ih

/-- The seekers of the pairs are among the seekers. -/
theorem seeker_mem (search : Search factor? seekers pool idle rest pairs) {pair : Pair}
    (member : pair ∈ pairs) : pair.seeker ∈ seekers :=
  search.seekers_perm.mem_iff.mpr (List.mem_append_left _ (List.mem_map_of_mem member))

/-- The partners of the pairs are from the pool. -/
theorem partner_mem (search : Search factor? seekers pool idle rest pairs) {pair : Pair}
    (member : pair ∈ pairs) : pair.partner ∈ pool :=
  search.pool_perm.mem_iff.mpr (List.mem_append_left _ (List.mem_map_of_mem member))

/-- Idle seekers stay in order. -/
theorem idle_sublist (search : Search factor? seekers pool idle rest pairs) :
    idle.Sublist seekers := by
  induction search with
  | done pool => exact .slnil
  | found related removed later ih => exact ih.cons _
  | missed unrelated later ih => exact ih.cons_cons _

/-- What is left is from the pool. -/
theorem rest_subset (search : Search factor? seekers pool idle rest pairs) : rest ⊆ pool := by
  intro unit member
  exact search.pool_perm.mem_iff.mpr (List.mem_append_right _ member)

/-- No idle seeker has a partner among the units that are left. -/
theorem idle_unrelated (search : Search factor? seekers pool idle rest pairs) :
    ∀ seeker ∈ idle, ∀ candidate ∈ rest, factor? seeker candidate = none := by
  induction search with
  | done pool =>
    intro seeker member
    cases member
  | found related removed later ih => exact ih
  | missed unrelated later ih =>
    intro seeker member candidate left
    rcases List.mem_cons.mp member with rfl | earlier
    · exact unrelated candidate (later.rest_subset left)
    · exact ih seeker earlier candidate left

end Search

variable {K : Type} [Mul K] [Div K] [Constants K]

/-- A value times the factors of pairs, one after the other. -/
def scaled (value : K) (pairs : List Pair) : K :=
  pairs.foldl (fun product pair => product * pair.factor.eval) value

/-- Pairs scale one list after the other. -/
theorem scaled_append (value : K) (first second : List Pair) :
    scaled value (first ++ second) = scaled (scaled value first) second :=
  List.foldl_append

/-- Filling slots finds the same pairs for every value. -/
theorem fill_eq_scaled {factor? : UnitSymbol → UnitSymbol → Option Factor} {value filled : K}
    {pool slots rest : List UnitSymbol}
    (success : fill factor? value pool slots = some (filled, rest)) :
    ∃ pairs, Search factor? slots pool [] rest pairs ∧
      ∀ other : K, fill factor? other pool slots = some (scaled other pairs, rest) := by
  induction slots generalizing value pool with
  | nil =>
    cases success
    exact ⟨[], .done _, fun _ => rfl⟩
  | cons slot slots ih =>
    simp only [fill] at success
    split at success
    · next factor remaining taken =>
      obtain ⟨partner, related, removed⟩ := takeFirst?_perm taken
      obtain ⟨pairs, later, filled⟩ := ih success
      refine ⟨⟨slot, partner, factor⟩ :: pairs, .found related removed later, fun other => ?_⟩
      simp only [fill, taken]
      exact filled (other * factor.eval)
    · cases success

/-- Filling slots is a search that leaves no slot idle. -/
theorem fill_search {factor? : UnitSymbol → UnitSymbol → Option Factor} {value filled : K}
    {pool slots rest : List UnitSymbol}
    (success : fill factor? value pool slots = some (filled, rest)) :
    ∃ pairs, Search factor? slots pool [] rest pairs ∧ filled = scaled value pairs := by
  obtain ⟨pairs, search, same⟩ := fill_eq_scaled success
  have unique := success.symm.trans (same value)
  cases unique
  exact ⟨pairs, search, rfl⟩

/-- However its gaps are closed, cancelling is a search of the numerators among the denominators,
and it finds the same pairs for every value of every kind. -/
theorem Closing.exists_cancel_eq (closing : Closing) (denominators numerators : List UnitSymbol) :
    ∃ idle pairs, Search UnitSymbol.tableFactor? numerators denominators idle
        (closing.leave denominators numerators) pairs ∧
      ∀ (K : Type) [Mul K] [Div K] [Constants K] (value : K),
        closing.cancel value denominators numerators =
          ⟨scaled value pairs, idle, closing.leave denominators numerators⟩ := by
  induction numerators generalizing denominators with
  | nil => exact ⟨[], [], .done denominators, fun _ _ _ _ _ => rfl⟩
  | cons numerator numerators ih =>
    cases taken : closing.take? numerator.tableFactor? denominators with
    | some found =>
      obtain ⟨factor, remaining⟩ := found
      obtain ⟨partner, related, removed⟩ := closing.take?_perm taken
      obtain ⟨idle, pairs, later, cancelled⟩ := ih remaining
      simp only [Closing.leave, Closing.cancel, taken]
      exact ⟨idle, ⟨numerator, partner, factor⟩ :: pairs, .found related removed later,
        fun K _ _ _ value => cancelled K (value * factor.eval)⟩
    | none =>
      obtain ⟨idle, pairs, later, cancelled⟩ := ih denominators
      simp only [Closing.leave, Closing.cancel, taken, cancelled]
      exact ⟨numerator :: idle, pairs, .missed (closing.take?_eq_none_iff.mp taken) later,
        fun _ _ _ _ _ => rfl⟩

/-- Cancelling is a search, and which pairs it finds does not depend on the scalars. -/
theorem exists_cancel_eq (denominators numerators : List UnitSymbol) :
    ∃ idle rest pairs, Search UnitSymbol.tableFactor? numerators denominators idle rest pairs ∧
      ∀ (K : Type) [Mul K] [Div K] [Constants K] (value : K),
        cancel value denominators numerators = ⟨scaled value pairs, idle, rest⟩ := by
  obtain ⟨idle, pairs, search, cancelled⟩ := Closing.lastIn.exists_cancel_eq denominators numerators
  simp only [Closing.cancel_lastIn] at cancelled
  exact ⟨idle, _, pairs, search, cancelled⟩

/-- Cancelling scales the value by the pairs of a search and leaves what the search leaves. -/
theorem cancel_search (value : K) (denominators numerators : List UnitSymbol) :
    ∃ pairs, Search UnitSymbol.tableFactor? numerators denominators
        (cancel value denominators numerators).numerators
        (cancel value denominators numerators).denominators pairs ∧
      (cancel value denominators numerators).value = scaled value pairs := by
  obtain ⟨idle, rest, pairs, search, cancelled⟩ := exists_cancel_eq denominators numerators
  rw [cancelled K value]
  exact ⟨pairs, search, rfl⟩

end StyleNumber
