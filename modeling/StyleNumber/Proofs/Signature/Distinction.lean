import StyleNumber.Proofs.Signature.Choice

/-! # Orders that tell two closings apart

A search that is not determined shows how its gaps are closed, in some order of the same units. One
pair has to be made first, so that the pool is closed once (`exists_unforced`). If the pool then
ends in the units of a category of which not all will be taken, those that seek them start from its
end when the last unit moves in, and from its front when the units move up
(`Closing.leave_lastIn_append`, `Closing.leave_inOrder_append`). With the units of one symbol put
first, they leave that symbol unequally often (`exists_arranged`), and with the category mirrored,
as often as the other closing did (`Closing.Distinguished`). No other units left beside them can
make up for both (`Closing.determined_of_perm`).
-/

namespace StyleNumber

open UnitSymbol

private theorem lastToFront_concat {α : Type} (front : List α) (last : α) :
    lastToFront (front ++ [last]) = last :: front := by
  simp [lastToFront]

/-- The first and the last units of a list differ in how often they hold the symbol it begins with,
if it holds others as well. -/
theorem count_take_ne_count_drop {symbol : UnitSymbol} {copies taken : ℕ} {others : List UnitSymbol}
    (some : 0 < copies) (absent : symbol ∉ others) (others_ne : others ≠ [])
    (takes : 0 < taken) (leaves : taken < copies + others.length) :
    ((List.replicate copies symbol ++ others).take (copies + others.length - taken)).count symbol ≠
      ((List.replicate copies symbol ++ others).drop taken).count symbol := by
  have none (part : List UnitSymbol) (inside : part ⊆ others) : part.count symbol = 0 :=
    List.count_eq_zero.mpr fun member => absent (inside member)
  have nonempty := List.length_pos_iff.mpr others_ne
  rw [List.take_append, List.drop_append, List.count_append, List.count_append,
    none _ (List.take_subset _ _), none _ (List.drop_subset _ _), List.take_replicate,
    List.drop_replicate, List.count_replicate_self, List.count_replicate_self]
  omega

namespace UnitSymbol

private theorem exists_factor_of_category {seeker unit : UnitSymbol} {category : Category}
    (seeks : seeker.category? = some category) (known : unit.category? = some category) :
    ∃ factor, seeker.tableFactor? unit = some factor :=
  Option.isSome_iff_exists.mp ((isSome_tableFactor? seeker unit).mpr ⟨category, seeks, known⟩)

private theorem tableFactor?_eq_none_of_category {seeker unit : UnitSymbol} {category : Category}
    (seeks : seeker.category? = some category) (foreign : unit.category? ≠ some category) :
    seeker.tableFactor? unit = none := by
  apply Option.eq_none_iff_forall_ne_some.mpr
  intro factor related
  exact foreign ((category?_eq_some_iff_of_related related).mp seeks)

end UnitSymbol

namespace Closing

variable {category : Category} {others units seekers : List UnitSymbol}

/-- When units move up, those at the end of the pool are taken from the front. -/
theorem leave_inOrder_append (foreign : ∀ unit ∈ others, unit.category? ≠ some category)
    (known : ∀ unit ∈ units, unit.category? = some category)
    (seek : ∀ seeker ∈ seekers, seeker.category? = some category)
    (enough : seekers.length ≤ units.length) (later : List UnitSymbol) :
    inOrder.leave (others ++ units) (seekers ++ later) =
      inOrder.leave (others ++ units.drop seekers.length) later := by
  induction seekers generalizing units with
  | nil => rfl
  | cons seeker seekers ih =>
    cases units with
    | nil => cases enough
    | cons unit units =>
      have seeks := seek seeker List.mem_cons_self
      obtain ⟨factor, related⟩ := exists_factor_of_category seeks (known unit List.mem_cons_self)
      have taken : inOrder.take? seeker.tableFactor? (others ++ unit :: units) =
          some (factor, others ++ units) :=
        inOrder.take?_eq_some_iff.mpr ⟨others, unit, units, rfl,
          fun other member => tableFactor?_eq_none_of_category seeks (foreign other member),
          related, rfl⟩
      rw [List.cons_append, inOrder.leave_cons_of_eq_some taken]
      exact ih (fun other member => known other (List.mem_cons_of_mem _ member))
        (fun other member => seek other (List.mem_cons_of_mem _ member))
        (Nat.le_of_succ_le_succ enough)

/-- When the last unit moves in, those at the end of the pool are taken from the end. -/
theorem leave_lastIn_append (known : ∀ unit ∈ units, unit.category? = some category)
    (seek : ∀ seeker ∈ seekers, seeker.category? = some category)
    (enough : seekers.length ≤ units.length) (later : List UnitSymbol) :
    lastIn.leave (lastToFront (others ++ units)) (seekers ++ later) =
      lastIn.leave (lastToFront (others ++ units.take (units.length - seekers.length))) later := by
  induction seekers generalizing units with
  | nil => rw [List.length_nil, Nat.sub_zero, List.take_length, List.nil_append]
  | cons seeker seekers ih =>
    have nonempty := List.length_pos_iff.mp (Nat.lt_of_lt_of_le (Nat.succ_pos _) enough)
    obtain ⟨front, last, rfl⟩ := (List.eq_nil_or_concat' units).resolve_left nonempty
    have knownLast := known last (List.mem_append_right _ List.mem_cons_self)
    obtain ⟨factor, related⟩ :=
      exists_factor_of_category (seek seeker List.mem_cons_self) knownLast
    have shorter : seekers.length ≤ front.length := by simpa using enough
    have keeps : (front ++ [last]).take ((front ++ [last]).length - (seeker :: seekers).length) =
        front.take (front.length - seekers.length) := by
      rw [List.length_append, List.length_singleton, List.length_cons, Nat.add_sub_add_right,
        List.take_append_of_le_length (Nat.sub_le _ _)]
    rw [← List.append_assoc, lastToFront_concat, List.cons_append,
      lastIn.leave_cons_of_eq_some (lastIn.take?_cons_of_eq_some related _), keeps]
    exact ih (fun unit member => known unit (List.mem_append_left _ member))
      (fun other member => seek other (List.mem_cons_of_mem _ member)) shorter

/-- Seekers outside a category leave its units as they are. -/
theorem count_leave_of_absent (closing : Closing) {symbol : UnitSymbol} (pool : List UnitSymbol)
    (known : symbol.category? = some category) (absent : countIn category seekers = 0) :
    (closing.leave pool seekers).count symbol = pool.count symbol := by
  obtain ⟨_, _, search, _⟩ := closing.exists_cancel_eq pool seekers
  exact search.count_rest_of_absent known absent

end Closing

section

variable {seekers pool seekers' pool' : List UnitSymbol}

private theorem countIn_cons_of_known {category : Category} {unit : UnitSymbol}
    (known : unit.category? = some category) (units : List UnitSymbol) :
    countIn category (unit :: units) = countIn category units + 1 :=
  List.countP_cons_of_pos (decide_eq_true known)

private theorem countIn_cons_of_foreign {category : Category} {unit : UnitSymbol}
    (foreign : unit.category? ≠ some category) (units : List UnitSymbol) :
    countIn category (unit :: units) = countIn category units :=
  List.countP_cons_of_neg fun known => foreign (of_decide_eq_true known)

private theorem exists_of_countIn_pos {category : Category} {units : List UnitSymbol}
    (positive : 0 < countIn category units) : ∃ unit ∈ units, unit.category? = some category := by
  obtain ⟨unit, member, known⟩ := List.countP_pos_iff.mp positive
  exact ⟨unit, member, of_decide_eq_true known⟩

private theorem not_forced_iff {category : Category} :
    ¬Forced category seekers pool ↔
      0 < countIn category seekers ∧ countIn category seekers < countIn category pool ∧
        ∃ unit ∈ pool, ∃ other ∈ pool, unit.category? = some category ∧
          other.category? = some category ∧ unit ≠ other := by
  simp only [Forced, not_or, not_forall, Nat.not_le, Nat.pos_iff_ne_zero, exists_prop, ne_eq]

/-- A pair made outside a category leaves it as it is. -/
theorem not_forced_of_foreign {category : Category} {first partner : UnitSymbol}
    (unforced : ¬Forced category seekers pool) (seekersPerm : seekers.Perm (first :: seekers'))
    (poolPerm : pool.Perm (partner :: pool')) (foreign : first.category? ≠ some category)
    (partnerForeign : partner.category? ≠ some category) : ¬Forced category seekers' pool' := by
  obtain ⟨sought, fewer, unit, member, other, otherMember, known, otherKnown, different⟩ :=
    not_forced_iff.mp unforced
  rw [countIn_perm category seekersPerm, countIn_cons_of_foreign foreign] at sought fewer
  rw [countIn_perm category poolPerm, countIn_cons_of_foreign partnerForeign] at fewer
  have stays {candidate : UnitSymbol} (inPool : candidate ∈ pool)
      (candidateKnown : candidate.category? = some category) : candidate ∈ pool' := by
    rcases List.mem_cons.mp (poolPerm.mem_iff.mp inPool) with rfl | later
    · exact absurd candidateKnown partnerForeign
    · exact later
  exact not_forced_iff.mpr ⟨sought, fewer, unit, stays member known, other,
    stays otherMember otherKnown, known, otherKnown, different⟩

/-- Where a category has several seekers, one of them can leave two units of different symbols. -/
theorem exists_unforced_of_several {category : Category}
    (unforced : ¬Forced category seekers pool) (several : 1 < countIn category seekers) :
    ∃ first partner factor seekers' pool',
      seekers.Perm (first :: seekers') ∧ pool.Perm (partner :: pool') ∧
        first.tableFactor? partner = some factor ∧ ¬Forced category seekers' pool' := by
  obtain ⟨sought, fewer, unit, member, other, otherMember, known, otherKnown, different⟩ :=
    not_forced_iff.mp unforced
  obtain ⟨first, seeks, seeksKnown⟩ := exists_of_countIn_pos sought
  have otherStays := (List.mem_erase_of_ne different.symm).mpr otherMember
  have pairPerm : pool.Perm ([unit, other] ++ (pool.erase unit).erase other) :=
    (List.perm_cons_erase member).trans ((List.perm_cons_erase otherStays).cons unit)
  have seekersPerm := List.perm_cons_erase seeks
  have seekersCount := countIn_perm category seekersPerm
  have pairCount := countIn_perm category pairPerm
  rw [countIn_cons_of_known seeksKnown] at seekersCount
  rw [List.cons_append, List.singleton_append, countIn_cons_of_known known,
    countIn_cons_of_known otherKnown] at pairCount
  have third : 0 < countIn category ((pool.erase unit).erase other) := by omega
  obtain ⟨partner, stands, partnerKnown⟩ := exists_of_countIn_pos third
  obtain ⟨factor, related⟩ := exists_factor_of_category seeksKnown partnerKnown
  have poolPerm := (pairPerm.trans ((List.perm_cons_erase stands).append_left _)).trans
    List.perm_middle
  have poolCount := countIn_perm category poolPerm
  rw [countIn_cons_of_known partnerKnown] at poolCount
  refine ⟨first, partner, factor, _, _, seekersPerm, poolPerm, related, not_forced_iff.mpr ?_⟩
  exact ⟨by omega, by omega, unit, by simp, other, by simp, known, otherKnown, different⟩

/-- Where a search is not determined, a category can be left unforced by a first pair. -/
theorem exists_unforced (undetermined : ¬Determined seekers pool) :
    ∃ category first partner factor seekers' pool',
      seekers.Perm (first :: seekers') ∧ pool.Perm (partner :: pool') ∧
        first.tableFactor? partner = some factor ∧ ¬Forced category seekers' pool' := by
  simp only [Determined, not_or, not_forall] at undetermined
  obtain ⟨severalPairs, category, unforced⟩ := undetermined
  refine ⟨category, ?_⟩
  by_cases several : 1 < countIn category seekers
  · exact exists_unforced_of_several unforced several
  · -- There are more seekers with a partner than seekers of this category.
    obtain ⟨first, seeks, answers, foreign⟩ : ∃ first ∈ seekers, hasPartner pool first ∧
        first.category? ≠ some category := by
      by_contra inside
      push Not at inside
      have bounded : seekers.countP (hasPartner pool) ≤ countIn category seekers := by
        apply List.countP_mono_left
        intro first seeks answers
        exact decide_eq_true (inside first seeks answers)
      omega
    obtain ⟨partner, stands, answer⟩ := List.any_eq_true.mp answers
    obtain ⟨factor, related⟩ := Option.isSome_iff_exists.mp answer
    have partnerForeign : partner.category? ≠ some category := by
      rwa [ne_eq, ← category?_eq_some_iff_of_related related]
    have seekersPerm := List.perm_cons_erase seeks
    have poolPerm := List.perm_cons_erase stands
    exact ⟨first, partner, factor, _, _, seekersPerm, poolPerm, related,
      not_forced_of_foreign unforced seekersPerm poolPerm foreign partnerForeign⟩

/-- The units of a category apart from the others. -/
theorem exists_split (category : Category) (units : List UnitSymbol) :
    ∃ inside outside : List UnitSymbol, (inside ++ outside).Perm units ∧
      (∀ unit ∈ inside, unit.category? = some category) ∧
      (∀ unit ∈ outside, unit.category? ≠ some category) ∧
      inside.length = countIn category units := by
  let belongs (unit : UnitSymbol) := decide (unit.category? = some category)
  refine ⟨units.filter belongs, units.filter fun unit => !belongs unit,
    List.filter_append_perm belongs units, ?_, ?_, List.countP_eq_length_filter.symm⟩
  · intro unit member
    exact of_decide_eq_true (List.mem_filter.mp member).2
  · intro unit member
    simpa [belongs] using (List.mem_filter.mp member).2

/-- The units of one symbol can be put first. -/
theorem exists_copies_first (symbol : UnitSymbol) (units : List UnitSymbol) :
    ∃ others : List UnitSymbol, (List.replicate (units.count symbol) symbol ++ others).Perm units ∧
      symbol ∉ others := by
  refine ⟨units.filter fun unit => !(unit == symbol), ?_, ?_⟩
  · rw [← List.filter_beq]
    exact List.filter_append_perm _ units
  · simp

/-- Where a category has units of two symbols, they can be put last, in an order in which as many
from its front as from its end differ in how often they hold one of the symbols. -/
theorem exists_arranged {category : Category} {unit other : UnitSymbol} (member : unit ∈ pool)
    (otherMember : other ∈ pool) (unitKnown : unit.category? = some category)
    (otherKnown : other.category? = some category) (different : unit ≠ other) :
    ∃ outside ending : List UnitSymbol, (outside ++ ending).Perm pool ∧
      (∀ candidate ∈ outside, candidate.category? ≠ some category) ∧
      (∀ candidate ∈ ending, candidate.category? = some category) ∧
      ending.length = countIn category pool ∧
      ∀ taken, 0 < taken → taken < ending.length →
        (ending.take (ending.length - taken)).count unit ≠ (ending.drop taken).count unit := by
  obtain ⟨inside, outside, poolPerm, insideKnown, foreign, insideLength⟩ :=
    exists_split category pool
  obtain ⟨others, copiesPerm, absent⟩ := exists_copies_first unit inside
  have isInside {candidate : UnitSymbol} (stands : candidate ∈ pool)
      (candidateKnown : candidate.category? = some category) : candidate ∈ inside :=
    (List.mem_append.mp (poolPerm.mem_iff.mpr stands)).resolve_right fun isOutside =>
      foreign candidate isOutside candidateKnown
  have someCopies : 0 < inside.count unit := List.count_pos_iff.mpr (isInside member unitKnown)
  have otherLeft : other ∈ others := by
    have among := copiesPerm.mem_iff.mpr (isInside otherMember otherKnown)
    exact (List.mem_append.mp among).resolve_left fun copy =>
      different (List.eq_of_mem_replicate copy).symm
  refine ⟨outside, List.replicate (inside.count unit) unit ++ others,
    (copiesPerm.append_left outside).trans (List.perm_append_comm.trans poolPerm), foreign,
    fun candidate stands => insideKnown candidate (copiesPerm.mem_iff.mp stands),
    copiesPerm.length_eq.trans insideLength, ?_⟩
  intro taken takes leaves
  rw [List.length_append, List.length_replicate] at leaves ⊢
  exact count_take_ne_count_drop someCopies absent (List.ne_nil_of_mem otherLeft) takes leaves

end

namespace Closing

variable {category : Category} {seekers pool : List UnitSymbol}

section

variable {first partner unit : UnitSymbol} {factor : Factor}
  {outside ending seeking later : List UnitSymbol}

/-- With a first pair at the front, and the units of a category at the end of which not all are
sought, the last unit that moves in has them taken from the end. -/
theorem count_leave_lastIn (related : first.tableFactor? partner = some factor)
    (known : ∀ candidate ∈ ending, candidate.category? = some category)
    (seek : ∀ seeker ∈ seeking, seeker.category? = some category)
    (laterForeign : ∀ seeker ∈ later, seeker.category? ≠ some category)
    (enough : seeking.length ≤ ending.length) (unitKnown : unit.category? = some category) :
    (lastIn.leave (partner :: (outside ++ ending)) (first :: (seeking ++ later))).count unit =
      outside.count unit + (ending.take (ending.length - seeking.length)).count unit := by
  rw [lastIn.leave_cons_of_eq_some (lastIn.take?_cons_of_eq_some related _), lastIn_close,
    leave_lastIn_append known seek enough,
    lastIn.count_leave_of_absent _ unitKnown (countIn_eq_zero_iff.mpr laterForeign),
    (lastToFront_perm _).count_eq, List.count_append]

/-- With the same pool, the units that move up are taken from the front of the category. -/
theorem count_leave_inOrder (related : first.tableFactor? partner = some factor)
    (foreign : ∀ candidate ∈ outside, candidate.category? ≠ some category)
    (known : ∀ candidate ∈ ending, candidate.category? = some category)
    (seek : ∀ seeker ∈ seeking, seeker.category? = some category)
    (laterForeign : ∀ seeker ∈ later, seeker.category? ≠ some category)
    (enough : seeking.length ≤ ending.length) (unitKnown : unit.category? = some category) :
    (inOrder.leave (partner :: (outside ++ ending)) (first :: (seeking ++ later))).count unit =
      outside.count unit + (ending.drop seeking.length).count unit := by
  rw [inOrder.leave_cons_of_eq_some (inOrder.take?_cons_of_eq_some related _), inOrder_close,
    leave_inOrder_append foreign known seek enough,
    inOrder.count_leave_of_absent _ unitKnown (countIn_eq_zero_iff.mpr laterForeign),
    List.count_append]

end

/-- Two orders of a pool, for the same seekers, that show how the gaps are closed: in either order
the closings leave a symbol unequally often, and from the one order to the other they exchange how
often. -/
structure Distinguished (seekers pool : List UnitSymbol) where
  seekers' : List UnitSymbol
  pool' : List UnitSymbol
  mirrored : List UnitSymbol
  seekers_perm : seekers'.Perm seekers
  pool_perm : pool'.Perm pool
  mirrored_perm : mirrored.Perm pool
  symbol : UnitSymbol
  differ : (lastIn.leave pool' seekers').count symbol ≠ (inOrder.leave pool' seekers').count symbol
  lastIn_mirrored :
    (lastIn.leave mirrored seekers').count symbol = (inOrder.leave pool' seekers').count symbol
  inOrder_mirrored :
    (inOrder.leave mirrored seekers').count symbol = (lastIn.leave pool' seekers').count symbol

/-- Where a first pair leaves a category unforced, some order of the units tells the closings
apart. -/
theorem exists_distinguished_of_unforced {first partner : UnitSymbol} {factor : Factor}
    (related : first.tableFactor? partner = some factor)
    (unforced : ¬Forced category seekers pool) :
    Nonempty (Distinguished (first :: seekers) (partner :: pool)) := by
  obtain ⟨sought, fewer, unit, member, other, otherMember, unitKnown, otherKnown, different⟩ :=
    not_forced_iff.mp unforced
  obtain ⟨seeking, later, seekersPerm, seek, laterForeign, seekingLength⟩ :=
    exists_split category seekers
  obtain ⟨outside, ending, poolPerm, foreign, known, endingLength, differ⟩ :=
    exists_arranged member otherMember unitKnown otherKnown different
  rw [← seekingLength] at sought
  rw [← seekingLength, ← endingLength] at fewer
  have enough := fewer.le
  have enoughMirrored : seeking.length ≤ ending.reverse.length := by
    rwa [List.length_reverse]
  have knownMirrored : ∀ candidate ∈ ending.reverse, candidate.category? = some category :=
    fun candidate stands => known candidate (List.mem_reverse.mp stands)
  refine ⟨⟨first :: (seeking ++ later), partner :: (outside ++ ending),
    partner :: (outside ++ ending.reverse), seekersPerm.cons first, poolPerm.cons partner,
    (((List.reverse_perm ending).append_left outside).trans poolPerm).cons partner, unit,
    ?_, ?_, ?_⟩⟩
  · rw [count_leave_lastIn related known seek laterForeign enough unitKnown,
      count_leave_inOrder related foreign known seek laterForeign enough unitKnown,
      Nat.add_right_inj.ne]
    exact differ seeking.length sought fewer
  · -- The units taken from the end of the mirrored category are those at the front.
    rw [count_leave_lastIn related knownMirrored seek laterForeign enoughMirrored unitKnown,
      count_leave_inOrder related foreign known seek laterForeign enough unitKnown,
      List.take_reverse, List.count_reverse, List.length_reverse, Nat.sub_sub_self enough]
  · rw [count_leave_lastIn related known seek laterForeign enough unitKnown,
      count_leave_inOrder related foreign knownMirrored seek laterForeign enoughMirrored unitKnown,
      List.drop_reverse, List.count_reverse]

/-- Where a search is not determined, some order of the same units tells the closings apart. -/
theorem exists_distinguished {seekers pool : List UnitSymbol}
    (undetermined : ¬Determined seekers pool) : Nonempty (Distinguished seekers pool) := by
  obtain ⟨category, first, partner, factor, seekers', pool', seekersPerm, poolPerm, related,
    unforced⟩ := exists_unforced undetermined
  obtain ⟨found⟩ := exists_distinguished_of_unforced related unforced
  exact ⟨{ found with
    seekers_perm := found.seekers_perm.trans seekersPerm.symm
    pool_perm := found.pool_perm.trans poolPerm.symm
    mirrored_perm := found.mirrored_perm.trans poolPerm.symm }⟩

/-- If the closings leave the same units together with others, in every order of the seekers and of
the pool, the search is determined. -/
theorem determined_of_perm {seekers pool : List UnitSymbol} (others others' : List UnitSymbol)
    (same : ∀ seekers' pool', seekers'.Perm seekers → pool'.Perm pool →
      (others ++ lastIn.leave pool' seekers').Perm (others' ++ inOrder.leave pool' seekers')) :
    Determined seekers pool := by
  by_contra undetermined
  obtain ⟨found⟩ := exists_distinguished undetermined
  have counts := (same _ _ found.seekers_perm found.pool_perm).count_eq found.symbol
  have mirrored := (same _ _ found.seekers_perm found.mirrored_perm).count_eq found.symbol
  rw [List.count_append, List.count_append] at counts mirrored
  rw [found.lastIn_mirrored, found.inOrder_mirrored] at mirrored
  -- What the others contribute cannot make up for a difference and for its mirror image.
  have differ := found.differ
  omega

end Closing

end StyleNumber
