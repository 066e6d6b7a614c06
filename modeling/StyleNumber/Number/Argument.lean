import StyleNumber.Number.Basic

/-! # Checks of arguments

A function of a stylesheet checks its arguments: whether a number is whole, is an
index into a list, lies in a range, or has the units it should have. Every check
takes the name of the argument, if it has one, for the report.
-/

namespace StyleNumber

namespace Number

/-- Whether the number is close to a whole one. -/
def IsInt (number : Number Double) : Prop :=
  number.value.NearWhole

instance (number : Number Double) : Decidable number.IsInt :=
  inferInstanceAs (Decidable (Double.NearWhole _))

/-- The whole number that this one is close to. -/
def int? (number : Number Double) : Option Int :=
  number.value.wholeNumber?

/-- The whole number that this one is close to, or a report that it is none. -/
def assertInt (number : Number Double) (name : Option String) : Except Error Int :=
  match number.int? with
  | some int => .ok int
  | none => .error (.argument name (.notAnInteger number.text))

/-- The offset into a list of `length` elements for an index that counts from one, or
from the end of the list if it is negative. -/
def assertIndex (number : Number Double) (length : Nat) (name : Option String) :
    Except Error Nat := do
  let index ← number.assertInt name
  if index = 0 ∨ length < index.natAbs then
    .error (.argument name (.invalidIndex number.text length))
  else if index < 0 then .ok (length - index.natAbs)
  else .ok (index.natAbs - 1)

/-- The scalar inside a range; close to a bound, it is that bound. -/
def valueInRange (number : Number Double) (least most : Double) (name : Option String) :
    Except Error Double :=
  match number.value.clamp? least most with
  | some value => .ok value
  | none =>
    .error (.argument name
      (.outOfRange number.text (least.text ++ number.unitText) (most.text ++ number.unitText)))

/-- Checks that the number has exactly the given unit. -/
def assertUnit (number : Number Double) (unit : UnitSymbol) (name : Option String) :
    Except Error Unit :=
  if number.HasUnit unit then .ok ()
  else .error (.argument name (.wrongUnit number.text unit.text))

/-- Checks that the number has no units. -/
def assertNoUnits (number : Number Double) (name : Option String) : Except Error Unit :=
  if number.hasUnits then .error (.argument name (.unexpectedUnits number.text)) else .ok ()

end Number

end StyleNumber
