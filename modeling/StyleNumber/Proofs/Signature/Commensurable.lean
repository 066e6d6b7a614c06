import Mathlib
import StyleNumber.Signature.Basic

/-! # Commensurable signatures

Symbols that are the same, or that share a category, are alike (`UnitSymbol.Alike`):
they measure the same dimension (`UnitSymbol.alike_iff`). Two signatures are
commensurable when every class of alike symbols occurs as often above the bar of the
one as above that of the other, and as often below (`Signature.Commensurable`). That
is to say that their dimensions are the same up to order
(`Signature.commensurable_iff`), and again that their units pair off, one to one,
with alike units (`Signature.commensurable_iff_pairsOff`).
-/

namespace StyleNumber

namespace UnitSymbol

/-- Whether two symbols are the same or belong to the same category. -/
def Alike (left right : UnitSymbol) : Prop :=
  left = right ∨
    ∃ category, left.category? = some category ∧ right.category? = some category

private theorem alike_iff {left right : UnitSymbol} :
    left.Alike right ↔ left.dimension = right.dimension := by
  constructor
  · rintro (rfl | ⟨category, leftKnown, rightKnown⟩)
    · rfl
    · simp only [dimension, leftKnown, rightKnown]
  · intro same
    simp only [dimension] at same
    cases leftCategory : left.category? with
    | none =>
      cases rightCategory : right.category? with
      | none =>
        simp only [leftCategory, rightCategory, Dimension.custom.injEq] at same
        exact .inl same
      | some category => simp only [leftCategory, rightCategory, reduceCtorEq] at same
    | some category =>
      cases rightCategory : right.category? with
      | none => simp only [leftCategory, rightCategory, reduceCtorEq] at same
      | some other =>
        simp only [leftCategory, rightCategory, Dimension.known.injEq] at same
        exact .inr ⟨category, leftCategory, same ▸ rightCategory⟩

instance (left right : UnitSymbol) : Decidable (left.Alike right) :=
  decidable_of_iff _ alike_iff.symm

/-- What the symbols of a list measure, in order. -/
def dimensions (units : List UnitSymbol) : List Dimension :=
  units.map dimension

/-- How many units of a list are alike to a symbol. -/
def countAlike (symbol : UnitSymbol) (units : List UnitSymbol) : ℕ :=
  units.countP fun unit => symbol.Alike unit

/-- To count the units of one dimension is to count the dimension. -/
theorem countP_eq_count_dimension {measures : UnitSymbol → Bool} {dimension : Dimension}
    (correct : ∀ unit, measures unit ↔ unit.dimension = dimension) (units : List UnitSymbol) :
    units.countP measures = (dimensions units).count dimension := by
  rw [dimensions, List.count, List.countP_map]
  apply List.countP_congr
  intro unit _
  rw [correct, Function.comp_apply, beq_iff_eq]

private theorem countAlike_eq_count (symbol : UnitSymbol) (units : List UnitSymbol) :
    countAlike symbol units = (dimensions units).count symbol.dimension :=
  countP_eq_count_dimension (fun _ => decide_eq_true_iff.trans (alike_iff.trans eq_comm)) units

/-- Counting the classes of alike symbols determines the dimensions up to order. -/
theorem dimensions_perm_iff {left right : List UnitSymbol} :
    (dimensions left).Perm (dimensions right) ↔
      ∀ symbol, countAlike symbol left = countAlike symbol right := by
  simp only [countAlike_eq_count]
  constructor
  · intro same symbol
    exact same.count_eq symbol.dimension
  · intro counts
    apply List.perm_iff_count.mpr
    intro dimension
    -- A dimension that no symbol of either list measures is counted by no symbol at all.
    by_cases measured : dimension ∈ dimensions left ++ dimensions right
    · obtain ⟨symbol, _, rfl⟩ := List.mem_map.mp (List.map_append ▸ measured)
      exact counts symbol
    · rw [List.mem_append, not_or] at measured
      rw [List.count_eq_zero.mpr measured.1, List.count_eq_zero.mpr measured.2]

/-- Whether a pool, in some order, matches the slots one by one with alike units. -/
def PairsOff (pool slots : List UnitSymbol) : Prop :=
  ∃ partners : List UnitSymbol, partners.Perm pool ∧ List.Forall₂ Alike partners slots

private theorem forall₂_alike_iff {partners slots : List UnitSymbol} :
    List.Forall₂ Alike partners slots ↔ dimensions partners = dimensions slots := by
  rw [← List.forall₂_eq_eq_eq, dimensions, dimensions, List.forall₂_map_left_iff,
    List.forall₂_map_right_iff]
  constructor
  · exact fun matched => matched.imp fun _ _ => alike_iff.mp
  · exact fun matched => matched.imp fun _ _ => alike_iff.mpr

private theorem pairsOff_iff {pool slots : List UnitSymbol} :
    PairsOff pool slots ↔ (dimensions pool).Perm (dimensions slots) := by
  constructor
  · rintro ⟨partners, reordered, matched⟩
    rw [← forall₂_alike_iff.mp matched]
    exact (reordered.map dimension).symm
  · intro same
    obtain ⟨partners, matched, reordered⟩ :
        ∃ partners, dimensions slots = dimensions partners ∧ partners.Perm pool :=
      (congrFun₂ (List.eq_map_comp_perm dimension) (dimensions slots) pool).mpr same.symm
    exact ⟨partners, reordered, forall₂_alike_iff.mpr matched.symm⟩

end UnitSymbol

namespace Signature

/-- Whether every class of alike symbols has as many numerators in the one signature
as in the other, and as many denominators. -/
def Commensurable (source target : Signature) : Prop :=
  ∀ symbol : UnitSymbol,
    symbol.countAlike source.numerators = symbol.countAlike target.numerators ∧
      symbol.countAlike source.denominators = symbol.countAlike target.denominators

/-- Signatures are commensurable when their numerators measure the same, up to order, and
so do their denominators. -/
theorem commensurable_iff {source target : Signature} :
    source.Commensurable target ↔
      (UnitSymbol.dimensions source.numerators).Perm (UnitSymbol.dimensions target.numerators) ∧
        (UnitSymbol.dimensions source.denominators).Perm
          (UnitSymbol.dimensions target.denominators) := by
  simp only [Commensurable, forall_and, UnitSymbol.dimensions_perm_iff]

instance (source target : Signature) : Decidable (source.Commensurable target) :=
  decidable_of_iff _ commensurable_iff.symm

/-- Signatures are commensurable when their units pair off, numerators with numerators and
denominators with denominators. -/
theorem commensurable_iff_pairsOff {source target : Signature} :
    source.Commensurable target ↔
      UnitSymbol.PairsOff source.numerators target.numerators ∧
        UnitSymbol.PairsOff source.denominators target.denominators := by
  rw [commensurable_iff, UnitSymbol.pairsOff_iff, UnitSymbol.pairsOff_iff]

/-- Whether two signatures have the same units on both sides of the bar, in any order. -/
def Perm (left right : Signature) : Prop :=
  left.numerators.Perm right.numerators ∧ left.denominators.Perm right.denominators

/-- The order of units does not change whether there are any. -/
theorem Perm.isEmpty_eq {left right : Signature} (same : left.Perm right) :
    left.isEmpty = right.isEmpty := by
  simp only [isEmpty, same.1.isEmpty_eq, same.2.isEmpty_eq]

namespace Commensurable

/-- Signatures with the same units in another order are commensurable. -/
theorem of_perm {left right : Signature} (same : left.Perm right) : left.Commensurable right :=
  fun _ => ⟨same.1.countP_eq _, same.2.countP_eq _⟩

/-- A signature is commensurable with itself. -/
theorem refl (units : Signature) : units.Commensurable units :=
  fun _ => ⟨rfl, rfl⟩

/-- Commensurability is symmetric. -/
theorem symm {source target : Signature} (same : source.Commensurable target) :
    target.Commensurable source :=
  fun symbol => ⟨(same symbol).1.symm, (same symbol).2.symm⟩

/-- Commensurability is transitive. -/
theorem trans {source middle target : Signature} (first : source.Commensurable middle)
    (second : middle.Commensurable target) : source.Commensurable target :=
  fun symbol => ⟨(first symbol).1.trans (second symbol).1, (first symbol).2.trans (second symbol).2⟩

/-- Of commensurable signatures both or none are empty. -/
theorem isEmpty_eq {source target : Signature} (same : source.Commensurable target) :
    source.isEmpty = target.isEmpty := by
  obtain ⟨above, below⟩ := commensurable_iff.mp same
  have aboveEmpty := above.isEmpty_eq
  have belowEmpty := below.isEmpty_eq
  simp only [UnitSymbol.dimensions, List.isEmpty_map] at aboveEmpty belowEmpty
  rw [isEmpty, isEmpty, aboveEmpty, belowEmpty]

end Commensurable

end Signature

end StyleNumber
