import StyleNumber.Unit.Symbol

/-! # Unit signatures

The units of a number form a fraction: the symbols above the bar and those below
it, in the order in which they were gathered. Repeats count, and nothing is sorted
or cancelled here.
-/

namespace StyleNumber

/-- The units of a number. -/
structure Signature where
  /-- The symbols above the bar. -/
  numerators : List UnitSymbol
  /-- The symbols below the bar. -/
  denominators : List UnitSymbol
deriving DecidableEq

namespace Signature

/-- The signature without units. -/
def unitless : Signature :=
  ⟨[], []⟩

/-- The signature of a single unit. -/
def single (unit : UnitSymbol) : Signature :=
  ⟨[unit], []⟩

/-- Whether there are no units on either side of the bar. -/
def isEmpty (units : Signature) : Bool :=
  units.numerators.isEmpty && units.denominators.isEmpty

/-- The signature of the reciprocal. -/
def inverted (units : Signature) : Signature :=
  ⟨units.denominators, units.numerators⟩

/-- Only the signature of numbers without units is empty. -/
theorem isEmpty_iff {units : Signature} : units.isEmpty ↔ units = unitless := by
  cases units
  simp [isEmpty, unitless]

/-- Symbols joined by the sign of multiplication. -/
def productText (units : List UnitSymbol) : String :=
  "*".intercalate (units.map (·.text))

/-- The text of the signature. -/
def text : Signature → String
  | ⟨[], []⟩ => "no units"
  | ⟨[], [unit]⟩ => unit.text ++ "^-1"
  | ⟨[], denominators⟩ => "(" ++ productText denominators ++ ")^-1"
  | ⟨numerators, []⟩ => productText numerators
  | ⟨numerators, denominators⟩ => productText numerators ++ "/" ++ productText denominators

end Signature

end StyleNumber
