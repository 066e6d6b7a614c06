import StyleNumber.Text.Quoted
import StyleNumber.Unit.Table

/-! # Unit symbols

Any text can stand behind a number as its unit. Symbols that stand for a unit of
the table have a factor to every unit of their category, themselves included
(`tableFactor?`). Other symbols convert into nothing but themselves, and only
where a conversion is asked for (`conversionFactor?`).

What a symbol measures is its `Dimension`: the category of its unit, or the symbol
itself. Symbols convert into each other exactly when they measure the same
(`isSome_conversionFactor?`).
-/

namespace StyleNumber

/-- The symbol of a unit. -/
structure UnitSymbol where
  text : String
deriving DecidableEq

/-- What a symbol measures. -/
inductive Dimension where
  /-- A quantity with units that convert. -/
  | known (category : Category)
  /-- A quantity with this one unit. -/
  | custom (symbol : UnitSymbol)
deriving DecidableEq

namespace UnitSymbol

/-- The unit of the table that the symbol stands for. -/
def unit? (symbol : UnitSymbol) : Option TableUnit :=
  TableUnit.ofSymbol? symbol.text

/-- The category of the unit that the symbol stands for. -/
def category? (symbol : UnitSymbol) : Option Category :=
  symbol.unit?.map (·.category)

/-- Whether the symbol converts into anything but itself. -/
def isConvertible (symbol : UnitSymbol) : Bool :=
  symbol.unit?.isSome

/-- What the symbol measures. -/
def dimension (symbol : UnitSymbol) : Dimension :=
  match symbol.category? with
  | some category => .known category
  | none => .custom symbol

/-- How many targets make up one source, by the table alone. -/
def tableFactor? (source target : UnitSymbol) : Option Factor :=
  match source.unit?, target.unit? with
  | some sourceUnit, some targetUnit => sourceUnit.factor? targetUnit
  | _, _ => none

/-- How many targets make up one source; every symbol makes up one of itself. -/
def conversionFactor? (source target : UnitSymbol) : Option Factor :=
  if source = target then some 1 else source.tableFactor? target

/-- The table relates two symbols exactly when both have the same category. -/
theorem isSome_tableFactor? (source target : UnitSymbol) :
    (source.tableFactor? target).isSome ↔
      ∃ category, source.category? = some category ∧ target.category? = some category := by
  simp only [tableFactor?, category?]
  cases source.unit? with
  | none => simp
  | some sourceUnit =>
    cases target.unit? with
    | none => simp
    | some targetUnit => simpa [TableUnit.isSome_factor?] using eq_comm

/-- Symbols convert into each other exactly when they measure the same. -/
theorem isSome_conversionFactor? (source target : UnitSymbol) :
    (source.conversionFactor? target).isSome ↔ source.dimension = target.dimension := by
  simp only [conversionFactor?]
  by_cases same : source = target
  · simp [same]
  · simp only [same, ↓reduceIte, isSome_tableFactor?, dimension]
    cases source.category? with
    | none => cases target.category? <;> simp [same]
    | some category =>
      cases target.category? with
      | none => simp
      | some other => simpa using eq_comm

/-- The symbol as shown to a developer. -/
def inspected (symbol : UnitSymbol) : String :=
  "Unit(" ++ quoted symbol.text ++ ")"

end UnitSymbol

end StyleNumber
