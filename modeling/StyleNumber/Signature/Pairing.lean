import StyleNumber.Unit.Symbol

/-! # Pairing units

Conversion and cancellation both pair units up: the units of one list look, in
order, for a partner in a pool, and a partner found leaves the pool. The search
takes the first candidate. What takes the place of the partner is the last unit of
the pool, which shows in the order of the units that stay (`takeFirst?`).

`fill` pairs every slot of a target and fails when a slot finds no partner;
`cancel` keeps the units that find none. Both multiply a value by the factors of
the pairs as they go.
-/

namespace StyleNumber

/-- Moves the last element of a list to its front. -/
def lastToFront {α : Type} (list : List α) : List α :=
  match list.getLast? with
  | some last => last :: list.dropLast
  | none => []

/-- Takes out the first element for which `choose` has an answer; the last element
moves into its place. -/
def takeFirst? {α β : Type} (choose : α → Option β) : List α → Option (β × List α)
  | [] => none
  | element :: others =>
    match choose element with
    | some chosen => some (chosen, lastToFront others)
    | none => (takeFirst? choose others).map fun (chosen, rest) => (chosen, element :: rest)

/-- Moving the last element to the front only changes the order. -/
theorem lastToFront_perm {α : Type} (list : List α) : (lastToFront list).Perm list := by
  simp only [lastToFront]
  cases list.eq_nil_or_concat with
  | inl empty => simp [empty]
  | inr split =>
    obtain ⟨front, last, rfl⟩ := split
    simpa using (List.perm_append_singleton last front).symm

/-- What is taken and what stays are the list, up to order. -/
theorem takeFirst?_perm {α β : Type} {choose : α → Option β} {list rest : List α} {chosen : β}
    (taken : takeFirst? choose list = some (chosen, rest)) :
    ∃ element, choose element = some chosen ∧ list.Perm (element :: rest) := by
  induction list generalizing rest with
  | nil => cases taken
  | cons first others rec =>
    simp only [takeFirst?] at taken
    split at taken
    · next accepted =>
      cases taken
      exact ⟨first, accepted, (lastToFront_perm others).symm.cons first⟩
    · obtain ⟨⟨found, left⟩, inner, equal⟩ := Option.map_eq_some_iff.1 taken
      cases equal
      obtain ⟨element, accepted, same⟩ := rec inner
      exact ⟨element, accepted, (same.cons first).trans (List.Perm.swap element first left)⟩

/-- Nothing is taken exactly when no element has an answer. -/
theorem takeFirst?_eq_none_iff {α β : Type} {choose : α → Option β} {list : List α} :
    takeFirst? choose list = none ↔ ∀ element ∈ list, choose element = none := by
  induction list with
  | nil => simp [takeFirst?]
  | cons first others rec =>
    simp only [takeFirst?]
    split
    · next accepted => simp [accepted]
    · next refused => simp [refused, rec]

variable {K : Type} [Mul K] [Div K] [Constants K]

/-- Pairs every slot with a unit of the pool. -/
def fill (factor? : UnitSymbol → UnitSymbol → Option Factor) (value : K) (pool : List UnitSymbol) :
    List UnitSymbol → Option (K × List UnitSymbol)
  | [] => some (value, pool)
  | slot :: slots =>
    match takeFirst? (factor? slot) pool with
    | some (factor, rest) => fill factor? (value * factor.eval) rest slots
    | none => none

/-- What is left after a cancellation. -/
structure Cancellation (K : Type) where
  /-- The value, with the factors of the pairs. -/
  value : K
  /-- The numerators without a partner. -/
  numerators : List UnitSymbol
  /-- The denominators without a partner. -/
  denominators : List UnitSymbol

/-- Pairs numerators with denominators that the table relates to them. -/
def cancel (value : K) (denominators : List UnitSymbol) : List UnitSymbol → Cancellation K
  | [] => ⟨value, [], denominators⟩
  | numerator :: numerators =>
    match takeFirst? numerator.tableFactor? denominators with
    | some (factor, rest) => cancel (value * factor.eval) rest numerators
    | none =>
      let left := cancel value denominators numerators
      ⟨left.value, numerator :: left.numerators, left.denominators⟩

end StyleNumber
