import StyleNumber.Proofs.Signature.Commensurable
import StyleNumber.Proofs.Signature.Product

/-! # What a product leaves

Two searches make a product, and each takes as many pairs out of a category as the
scarcer of its two sides has units, but no pair of symbols outside the table
(`Search.count_pairs`). Counting a signature dimension by dimension
(`Signature.above`, `Signature.below`) therefore tells what a product leaves on either
side of the bar (`Signature.counts_multiply`), whichever of several candidates the
searches took.
-/

namespace StyleNumber

/-- How many pairs cancel among units of one dimension. -/
def Dimension.cancelled (dimension : Dimension) (seekers candidates : ℕ) : ℕ :=
  match dimension with
  | known _ => min seekers candidates
  | custom _ => 0

namespace UnitSymbol

/-- A symbol measures a known quantity when its unit is of that category. -/
theorem dimension_eq_known_iff {symbol : UnitSymbol} {category : Category} :
    symbol.dimension = .known category ↔ symbol.category? = some category := by
  cases found : symbol.category? <;> simp [dimension, found]

/-- A symbol measures a quantity of its own when it is outside the table. -/
theorem dimension_eq_custom_iff {symbol other : UnitSymbol} :
    symbol.dimension = .custom other ↔ symbol.category? = none ∧ symbol = other := by
  cases found : symbol.category? <;> simp [dimension, found]

/-- A symbol that converts into nothing else measures a quantity of its own. -/
theorem not_isConvertible_iff {symbol : UnitSymbol} :
    ¬symbol.isConvertible ↔ symbol.dimension = .custom symbol := by
  simp [dimension_eq_custom_iff, isConvertible, category?]

/-- The table relates symbols of one known quantity. -/
theorem exists_dimension_of_tableFactor? {source target : UnitSymbol} {factor : Factor}
    (related : source.tableFactor? target = some factor) :
    ∃ category, source.dimension = .known category ∧ target.dimension = .known category := by
  simp only [dimension_eq_known_iff]
  exact (isSome_tableFactor? source target).mp (Option.isSome_iff_exists.mpr ⟨factor, related⟩)

/-- Symbols that the table relates measure the same. -/
theorem dimension_eq_of_tableFactor? {source target : UnitSymbol} {factor : Factor}
    (related : source.tableFactor? target = some factor) :
    source.dimension = target.dimension := by
  obtain ⟨category, sourceKnown, targetKnown⟩ := exists_dimension_of_tableFactor? related
  rw [sourceKnown, targetKnown]

private theorem isConvertible_of_tableFactor? {source target : UnitSymbol} {factor : Factor}
    (related : source.tableFactor? target = some factor) : source.isConvertible := by
  obtain ⟨category, known, _⟩ := exists_dimension_of_tableFactor? related
  by_contra unknown
  rw [not_isConvertible_iff.mp unknown] at known
  cases known

/-- How many units of a list belong to a category. -/
def countIn (category : Category) (units : List UnitSymbol) : ℕ :=
  units.countP fun unit => unit.category? = some category

/-- The units of a category are those that measure its quantity. -/
theorem countIn_eq_count (category : Category) (units : List UnitSymbol) :
    countIn category units = (dimensions units).count (.known category) :=
  countP_eq_count_dimension (fun _ => decide_eq_true_iff.trans dimension_eq_known_iff.symm) units

/-- A symbol outside the table has a dimension to itself. -/
theorem count_eq_count_dimension {symbol : UnitSymbol} (unknown : ¬symbol.isConvertible)
    (units : List UnitSymbol) :
    units.count symbol = (dimensions units).count symbol.dimension := by
  have own := not_isConvertible_iff.mp unknown
  apply countP_eq_count_dimension
  intro unit
  rw [beq_iff_eq]
  constructor
  · rintro rfl
    rfl
  · intro same
    exact (dimension_eq_custom_iff.mp (same.trans own)).2

/-- Where all units convert, none measures a quantity of its own. -/
theorem count_custom_eq_zero {units : List UnitSymbol}
    (convertible : ∀ unit ∈ units, unit.isConvertible) (symbol : UnitSymbol) :
    (dimensions units).count (.custom symbol) = 0 := by
  apply List.count_eq_zero.mpr
  intro measured
  obtain ⟨unit, member, custom⟩ := List.mem_map.mp measured
  obtain rfl := (dimension_eq_custom_iff.mp custom).2
  exact not_isConvertible_iff.mpr custom (convertible unit member)

/-- Of two lists that the table does not relate, one has no unit of a given category. -/
theorem count_eq_zero_of_unrelated {seekers candidates : List UnitSymbol}
    (unrelated : ∀ seeker ∈ seekers, ∀ candidate ∈ candidates,
      seeker.tableFactor? candidate = none) (category : Category) :
    (dimensions seekers).count (.known category) = 0 ∨
      (dimensions candidates).count (.known category) = 0 := by
  by_contra both
  simp only [not_or, List.count_eq_zero, not_not] at both
  obtain ⟨seeker, seeks, seekerKnown⟩ := List.mem_map.mp both.1
  obtain ⟨candidate, stands, candidateKnown⟩ := List.mem_map.mp both.2
  have related : (seeker.tableFactor? candidate).isSome :=
    (isSome_tableFactor? seeker candidate).mpr
      ⟨category, dimension_eq_known_iff.mp seekerKnown, dimension_eq_known_iff.mp candidateKnown⟩
  rw [unrelated seeker seeks candidate stands] at related
  cases related

end UnitSymbol

namespace Search

open UnitSymbol

variable {seekers pool idle rest : List UnitSymbol} {pairs : List Pair}

private theorem count_seekers {factor? : UnitSymbol → UnitSymbol → Option Factor}
    (search : Search factor? seekers pool idle rest pairs) (dimension : Dimension) :
    (dimensions seekers).count dimension =
      (dimensions (pairs.map Pair.seeker)).count dimension + (dimensions idle).count dimension := by
  rw [dimensions, (search.seekers_perm.map _).count_eq, List.map_append, List.count_append]
  rfl

private theorem count_pool {factor? : UnitSymbol → UnitSymbol → Option Factor}
    (search : Search factor? seekers pool idle rest pairs) (dimension : Dimension) :
    (dimensions pool).count dimension =
      (dimensions (pairs.map Pair.partner)).count dimension +
        (dimensions rest).count dimension := by
  rw [dimensions, (search.pool_perm.map _).count_eq, List.map_append, List.count_append]
  rfl

variable (search : Search UnitSymbol.tableFactor? seekers pool idle rest pairs)

include search

private theorem count_partners (dimension : Dimension) :
    (dimensions (pairs.map Pair.partner)).count dimension =
      (dimensions (pairs.map Pair.seeker)).count dimension :=
  congrArg (List.count dimension) (search.dimensions_eq dimension_eq_of_tableFactor?).symm

/-- A search for partners by the table goes on until one side has run out. -/
theorem count_pairs (dimension : Dimension) :
    (dimensions (pairs.map Pair.seeker)).count dimension =
      dimension.cancelled ((dimensions seekers).count dimension)
        ((dimensions pool).count dimension) := by
  have sought := search.count_seekers dimension
  have offered := search.count_pool dimension
  rw [search.count_partners] at offered
  cases dimension with
  | known category =>
    -- An idle seeker and a candidate left over would have made another pair.
    have exhausted := count_eq_zero_of_unrelated search.idle_unrelated category
    simp only [Dimension.cancelled]
    omega
  | custom symbol =>
    apply count_custom_eq_zero
    intro seeker paired
    obtain ⟨pair, member, rfl⟩ := List.mem_map.mp paired
    exact isConvertible_of_tableFactor? (search.related_of_mem member)

private theorem count_idle (dimension : Dimension) :
    (dimensions idle).count dimension +
        dimension.cancelled ((dimensions seekers).count dimension)
          ((dimensions pool).count dimension) =
      (dimensions seekers).count dimension := by
  have sought := search.count_seekers dimension
  rw [search.count_pairs] at sought
  omega

/-- Of each dimension a search takes as many units from the pool as cancel. -/
theorem count_rest (dimension : Dimension) :
    (dimensions rest).count dimension +
        dimension.cancelled ((dimensions seekers).count dimension)
          ((dimensions pool).count dimension) =
      (dimensions pool).count dimension := by
  have offered := search.count_pool dimension
  rw [search.count_partners, search.count_pairs] at offered
  omega

private theorem rest_subperm : rest.Subperm pool :=
  (List.sublist_append_right _ _).subperm.trans search.pool_perm.symm.subperm

end Search

namespace Signature

open UnitSymbol

/-- How many numerators measure a dimension. -/
def above (units : Signature) (dimension : Dimension) : ℕ :=
  (dimensions units.numerators).count dimension

/-- How many denominators measure a dimension. -/
def below (units : Signature) (dimension : Dimension) : ℕ :=
  (dimensions units.denominators).count dimension

/-- Signatures are commensurable when they have as many units of each dimension, above and
below. -/
theorem commensurable_iff_counts {source target : Signature} :
    source.Commensurable target ↔
      ∀ dimension, source.above dimension = target.above dimension ∧
        source.below dimension = target.below dimension := by
  rw [commensurable_iff, List.perm_iff_count, List.perm_iff_count, ← forall_and]
  rfl

variable {K : Type} [Mul K] [Div K] [Constants K]

/-- How many pairs of a dimension cancel in a product. -/
def cancelledPairs (left right : Signature) (dimension : Dimension) : ℕ :=
  dimension.cancelled (left.above dimension) (right.below dimension) +
    dimension.cancelled (right.above dimension) (left.below dimension)

/-- What cancels in a product is missing above the bar and below it, and nothing else is. -/
theorem counts_multiply (value : K) (left right : Signature) (dimension : Dimension) :
    (multiply value left right).units.above dimension + cancelledPairs left right dimension =
        left.above dimension + right.above dimension ∧
      (multiply value left right).units.below dimension + cancelledPairs left right dimension =
        left.below dimension + right.below dimension := by
  obtain ⟨leftIdle, rightIdle, leftRest, rightRest, leftPairs, rightPairs, first, second,
    product⟩ := multiply_searches value left right
  have fromLeft := first.count_idle dimension
  have fromRight := second.count_idle dimension
  have ofRight := first.count_rest dimension
  have ofLeft := second.count_rest dimension
  rw [product]
  simp only [above, below, cancelledPairs, dimensions, List.map_append, List.count_append]
    at fromLeft fromRight ofLeft ofRight ⊢
  omega

/-- **A product loses, invents and duplicates no unit.** In every category as many units
vanish above the bar as below it: each side of one operand cancels against the other side
of the other operand until one of the two runs out. Symbols outside the table all stay.
What stays of the left operand comes before what stays of the right one; the numerators
keep their order, the denominators need not. -/
theorem multiply_accounts_for_units (value : K) (left right : Signature) :
    (∀ category,
      let cancelled :=
        min (countIn category left.numerators) (countIn category right.denominators) +
          min (countIn category right.numerators) (countIn category left.denominators)
      countIn category (multiply value left right).units.numerators + cancelled =
          countIn category left.numerators + countIn category right.numerators ∧
        countIn category (multiply value left right).units.denominators + cancelled =
          countIn category left.denominators + countIn category right.denominators) ∧
      (∀ symbol : UnitSymbol, ¬symbol.isConvertible →
        (multiply value left right).units.numerators.count symbol =
            left.numerators.count symbol + right.numerators.count symbol ∧
          (multiply value left right).units.denominators.count symbol =
            left.denominators.count symbol + right.denominators.count symbol) ∧
      (∃ fromLeft fromRight,
        (multiply value left right).units.numerators = fromLeft ++ fromRight ∧
          fromLeft.Sublist left.numerators ∧ fromRight.Sublist right.numerators) ∧
      ∃ ofLeft ofRight,
        (multiply value left right).units.denominators = ofLeft ++ ofRight ∧
          ofLeft.Subperm left.denominators ∧ ofRight.Subperm right.denominators := by
  refine ⟨?_, ?_, ?_⟩
  · intro category
    simp only [countIn_eq_count]
    exact counts_multiply value left right (.known category)
  · intro symbol unknown
    simp only [count_eq_count_dimension unknown, not_isConvertible_iff.mp unknown]
    exact counts_multiply value left right (.custom symbol)
  · obtain ⟨leftIdle, rightIdle, leftRest, rightRest, leftPairs, rightPairs, first, second,
      product⟩ := multiply_searches value left right
    rw [product]
    exact ⟨⟨leftIdle, rightIdle, rfl, first.idle_sublist, second.idle_sublist⟩,
      leftRest, rightRest, rfl, second.rest_subperm, first.rest_subperm⟩

/-- An inch cancels a point and a millisecond a second, but no em cancels an em. -/
theorem ems_stay_in_product :
    let em : UnitSymbol := ⟨"em"⟩
    let left : Signature := ⟨[⟨"in"⟩, em, ⟨"cm"⟩], [em, ⟨"s"⟩]⟩
    let right : Signature := ⟨[⟨"ms"⟩, ⟨"px"⟩], [⟨"pt"⟩, em]⟩
    let units := (multiply (1 : Double) left right).units
    units = ⟨[em, ⟨"cm"⟩, ⟨"px"⟩], [em, em]⟩ ∧ ¬em.isConvertible ∧
      units.numerators.count em = left.numerators.count em + right.numerators.count em ∧
      units.denominators.count em = left.denominators.count em + right.denominators.count em := by
  intro em left right units
  refine ⟨by decide, by decide, ?_⟩
  exact (multiply_accounts_for_units (1 : Double) left right).2.1 em (by decide)

end Signature

end StyleNumber
