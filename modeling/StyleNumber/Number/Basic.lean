import StyleNumber.Decimal
import StyleNumber.Signature.Conversion
import StyleNumber.Signature.Product

/-! # Numbers

A number is a quantity together with the text it was written as, if it still has
one. The written text is only for output: a number read from a stylesheet has its
own rendering (`Number.literal`), what is computed has none, and a quotient of two
written numbers can be written with a slash (`Number.dividedBy`).

Sums, differences, remainders and comparisons bring both scalars to one signature
first (`Number.coercedValues`): the right operand takes the units of the left one,
or the left one those of the right if it has none itself. Equality and the hash key
look at the scalar alone.
-/

namespace StyleNumber

/-- A quantity and the text it was written as. -/
structure Number (K : Type) extends Quantity K where
  /-- The text the number was written as; none for a computed number. -/
  written : Option String
deriving DecidableEq

namespace Number

section

variable {K : Type}

/-- A computed number. -/
def computed (quantity : Quantity K) : Number K :=
  ⟨quantity, none⟩

/-- A computed number with the given units. -/
def ofUnits (value : K) (units : Signature) : Number K :=
  computed ⟨value, units⟩

/-- A computed number with one unit. -/
def ofUnit (value : K) (unit : UnitSymbol) : Number K :=
  ofUnits value (.single unit)

/-- A computed number without units. -/
def unitless (value : K) : Number K :=
  ofUnits value .unitless

/-- The number, written as the given text. -/
def writtenAs (number : Number K) (text : String) : Number K :=
  ⟨number.toQuantity, some text⟩

/-- The number without its written text. -/
def strip (number : Number K) : Number K :=
  computed number.toQuantity

/-- Whether the number has any units. -/
def hasUnits (number : Number K) : Bool :=
  !number.units.isEmpty

/-- Whether the number has exactly the given unit. -/
def HasUnit (number : Number K) (unit : UnitSymbol) : Prop :=
  number.units = .single unit

instance (number : Number K) (unit : UnitSymbol) : Decidable (number.HasUnit unit) :=
  inferInstanceAs (Decidable (_ = _))

/-- The units as written behind the scalar; nothing for a number without units. -/
def unitText (number : Number K) : String :=
  if number.hasUnits then number.units.text else ""

/-- The number itself, with its written text. -/
def unaryPlus (number : Number K) : Number K :=
  number

/-- The opposite number; it is computed. -/
def unaryMinus [Neg K] (number : Number K) : Number K :=
  ofUnits (-number.value) number.units

end

section

variable {K : Type} [Mul K] [Div K] [Constants K]

/-- The scalar, expressed in the given units. -/
def valueIn (number : Number K) (target : Signature) : Except Error K :=
  Signature.convert number.value number.units target

/-- The number, converted to the given units. -/
def coerce (number : Number K) (target : Signature) : Except Error (Number K) :=
  (number.valueIn target).map (ofUnits · target)

/-- Both scalars in one signature: the units of the left operand if it has any, else
those of the right one. -/
def coercedValues (left right : Number K) : Except Error (K × K) :=
  if left.hasUnits then (right.valueIn left.units).map (left.value, ·)
  else (left.valueIn right.units).map (·, right.value)

/-- An operation on the scalars in one signature. -/
def coercedOperation (operation : K → K → K) (left right : Number K) : Except Error (Number K) :=
  (left.coercedValues right).map fun (leftValue, rightValue) =>
    ofUnits (operation leftValue rightValue) (if left.hasUnits then left.units else right.units)

/-- The sum, in the units of the left operand if it has any. -/
def plus [Add K] : Number K → Number K → Except Error (Number K) :=
  coercedOperation (· + ·)

/-- The difference, in the units of the left operand if it has any. -/
def minus [Sub K] : Number K → Number K → Except Error (Number K) :=
  coercedOperation (· - ·)

/-- The remainder, in the units of the left operand if it has any. -/
def modulo [Mod K] : Number K → Number K → Except Error (Number K) :=
  coercedOperation (· % ·)

/-- The product, with units that convert into each other cancelled. -/
def times (left right : Number K) : Number K :=
  computed (Signature.multiply (left.value * right.value) left.units right.units)

/-- The quotient, with units that convert into each other cancelled. It is written
with a slash when both operands are written. -/
def dividedBy (left right : Number K) : Number K :=
  ⟨Signature.divide (left.value / right.value) left.units right.units,
    match left.written, right.written with
    | some numerator, some denominator => some (numerator ++ "/" ++ denominator)
    | _, _ => none⟩

/-- Whether two numbers can be compared: one of them has no units, or the units of one
convert into those of the other. -/
def isComparableTo (left right : Number K) : Bool :=
  !left.hasUnits || !right.hasUnits || (left.coercedValues right).isOk

end

/-- The text of the number, as computed. -/
def text (number : Number Double) : String :=
  number.value.text ++ number.unitText

/-- The text of the number in a stylesheet: as written, else as computed. -/
def css (number : Number Double) : String :=
  number.written.getD number.text

/-- A number as read from a stylesheet, written as its own text. -/
def literal (value : Double) (units : Signature) : Number Double :=
  (ofUnits value units).writtenAs (ofUnits value units).text

/-- Whether two numbers have close scalars, whatever their units. -/
def Equal (left right : Number Double) : Prop :=
  left.value.Close right.value

instance (left right : Number Double) : Decidable (left.Equal right) :=
  inferInstanceAs (Decidable (Double.Close _ _))

/-- The key of the number in a table; it looks at the scalar alone. -/
def hashKey (number : Number Double) : Int :=
  number.value.hashKey

end Number

end StyleNumber
