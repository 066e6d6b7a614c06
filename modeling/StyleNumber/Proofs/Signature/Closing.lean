import Mathlib
import StyleNumber.Signature.Pairing

/-! # Closing the gap of a partner taken

A partner that is taken leaves a gap in the pool. `cancel` has the last unit move into it, which is
`Closing.lastIn`; the units behind the gap could as well move up (`Closing.inOrder`) or change
places in any other way. Every `Closing` takes the first candidate of the pool as it stands
(`Closing.take?_eq_some_iff`), but which unit that is for a later seeker depends on how the earlier
gaps were closed.
-/

namespace StyleNumber

/-- A way to close the gap that a unit leaves in a list: what becomes of the units behind it. -/
structure Closing where
  close : List UnitSymbol → List UnitSymbol
  close_perm (behind : List UnitSymbol) : (close behind).Perm behind

namespace Closing

/-- The last unit moves into the gap. -/
def lastIn : Closing where
  close := lastToFront
  close_perm := lastToFront_perm

/-- The units behind the gap move up. -/
def inOrder : Closing where
  close := id
  close_perm := .refl

/-- The last unit behind the gap moves into it. -/
@[simp]
theorem lastIn_close (behind : List UnitSymbol) : lastIn.close behind = lastToFront behind := rfl

/-- The units behind the gap move up in their order. -/
@[simp]
theorem inOrder_close (behind : List UnitSymbol) : inOrder.close behind = behind := rfl

/-- Takes out the first unit for which `choose` has an answer, and closes the gap. -/
def take? (closing : Closing) (choose : UnitSymbol → Option Factor) :
    List UnitSymbol → Option (Factor × List UnitSymbol)
  | [] => none
  | unit :: behind =>
    match choose unit with
    | some factor => some (factor, closing.close behind)
    | none => (closing.take? choose behind).map fun (factor, rest) => (factor, unit :: rest)

/-- What seekers leave of a pool when each takes out the first unit that the table relates to it. -/
def leave (closing : Closing) (pool : List UnitSymbol) : List UnitSymbol → List UnitSymbol
  | [] => pool
  | seeker :: seekers =>
    match closing.take? seeker.tableFactor? pool with
    | some (_, rest) => closing.leave rest seekers
    | none => closing.leave pool seekers

section

variable {K : Type} [Mul K] [Div K] [Constants K]

/-- Pairs numerators with denominators that the table relates to them. -/
def cancel (closing : Closing) (value : K) (denominators : List UnitSymbol) :
    List UnitSymbol → Cancellation K
  | [] => ⟨value, [], denominators⟩
  | numerator :: numerators =>
    match closing.take? numerator.tableFactor? denominators with
    | some (factor, rest) => closing.cancel (value * factor.eval) rest numerators
    | none =>
      let left := closing.cancel value denominators numerators
      ⟨left.value, numerator :: left.numerators, left.denominators⟩

end

variable (closing : Closing) {choose : UnitSymbol → Option Factor}

private theorem take?_lastIn (choose : UnitSymbol → Option Factor) (pool : List UnitSymbol) :
    lastIn.take? choose pool = takeFirst? choose pool := by
  induction pool with
  | nil => rfl
  | cons unit behind ih =>
    cases answer : choose unit with
    | some factor => simp only [take?, takeFirst?, answer, lastIn_close]
    | none => simp only [take?, takeFirst?, answer, ih]

/-- Moving the last unit into the gap is what the cancellation does. -/
theorem cancel_lastIn {K : Type} [Mul K] [Div K] [Constants K] (value : K)
    (denominators numerators : List UnitSymbol) :
    lastIn.cancel value denominators numerators =
      StyleNumber.cancel value denominators numerators := by
  induction numerators generalizing value denominators with
  | nil => rfl
  | cons numerator numerators ih =>
    cases taken : takeFirst? numerator.tableFactor? denominators with
    | some found => simp only [cancel, StyleNumber.cancel, take?_lastIn, taken, ih]
    | none => simp only [cancel, StyleNumber.cancel, take?_lastIn, taken, ih]

/-- A first unit that answers is taken, and the gap in front of the others is closed. -/
theorem take?_cons_of_eq_some {unit : UnitSymbol} {factor : Factor}
    (answers : choose unit = some factor) (behind : List UnitSymbol) :
    closing.take? choose (unit :: behind) = some (factor, closing.close behind) := by
  simp only [take?, answers]

private theorem take?_append {before : List UnitSymbol}
    (silent : ∀ unit ∈ before, choose unit = none)
    (behind : List UnitSymbol) :
    closing.take? choose (before ++ behind) =
      (closing.take? choose behind).map fun (factor, rest) => (factor, before ++ rest) := by
  induction before with
  | nil => simp
  | cons unit before ih =>
    have later := ih fun other member => silent other (List.mem_cons_of_mem _ member)
    simp only [List.cons_append, take?, silent unit List.mem_cons_self, later, Option.map_map]
    rfl

/-- Nothing is taken when no unit of the pool answers. -/
theorem take?_eq_none_iff {pool : List UnitSymbol} :
    closing.take? choose pool = none ↔ ∀ unit ∈ pool, choose unit = none := by
  induction pool with
  | nil => simp [take?]
  | cons unit behind ih =>
    cases answer : choose unit with
    | some factor => simp [take?, answer]
    | none => simp [take?, answer, ih]

/-- Where the table relates nothing, nothing cancels. -/
theorem cancel_of_unrelated {K : Type} [Mul K] [Div K] [Constants K] (value : K)
    {denominators numerators : List UnitSymbol}
    (unrelated : ∀ numerator ∈ numerators, ∀ denominator ∈ denominators,
      numerator.tableFactor? denominator = none) :
    closing.cancel value denominators numerators = ⟨value, numerators, denominators⟩ := by
  induction numerators with
  | nil => rfl
  | cons numerator numerators ih =>
    have refused : closing.take? numerator.tableFactor? denominators = none :=
      closing.take?_eq_none_iff.mpr (unrelated numerator List.mem_cons_self)
    have later := ih fun other member => unrelated other (List.mem_cons_of_mem _ member)
    simp only [cancel, refused, later]

/-- The unit taken is the first with an answer, and only the units behind it change places. -/
theorem take?_eq_some_iff {pool rest : List UnitSymbol} {factor : Factor} :
    closing.take? choose pool = some (factor, rest) ↔
      ∃ before unit behind, pool = before ++ unit :: behind ∧
        (∀ other ∈ before, choose other = none) ∧ choose unit = some factor ∧
        rest = before ++ closing.close behind := by
  refine ⟨?_, ?_⟩
  · intro taken
    induction pool generalizing rest with
    | nil => cases taken
    | cons unit behind ih =>
      cases answer : choose unit with
      | some answered =>
        rw [closing.take?_cons_of_eq_some answer] at taken
        cases taken
        exact ⟨[], unit, behind, rfl, by simp, answer, rfl⟩
      | none =>
        simp only [take?, answer, Option.map_eq_some_iff, Prod.mk.injEq, Prod.exists] at taken
        obtain ⟨_, later, takenLater, rfl, rfl⟩ := taken
        obtain ⟨before, found, after, rfl, silent, answers, rfl⟩ := ih takenLater
        exact ⟨unit :: before, found, after, rfl, by simpa [answer] using silent, answers, rfl⟩
  · rintro ⟨before, unit, behind, rfl, silent, answers, rfl⟩
    rw [closing.take?_append silent, closing.take?_cons_of_eq_some answers]
    rfl

/-- What is taken and what stays are the pool, up to order. -/
theorem take?_perm {pool rest : List UnitSymbol} {factor : Factor}
    (taken : closing.take? choose pool = some (factor, rest)) :
    ∃ unit, choose unit = some factor ∧ pool.Perm (unit :: rest) := by
  obtain ⟨before, unit, behind, rfl, _, answers, rfl⟩ := closing.take?_eq_some_iff.mp taken
  exact ⟨unit, answers,
    List.perm_middle.trans (((closing.close_perm behind).symm.append_left before).cons unit)⟩

end Closing

end StyleNumber
