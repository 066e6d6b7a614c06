import StyleNumber.Double.Closeness

/-! # Decimal text

A `Decimal` is a signed whole number of units of a decimal place. Its text has no
leading zeros in front of the point and no trailing ones behind it, no point
without a fraction, and no sign on zero. A double close to a whole number is
written as that number, any other finite one as its nearest decimal of ten places
(`Magnitude.toDecimal`).
-/

namespace StyleNumber

/-- A signed count of `10 ^ -places`. -/
structure Decimal where
  /-- Whether the sign is negative. -/
  negative : Bool
  /-- The absolute value in units of the last place. -/
  count : Nat
  /-- The number of places behind the point. -/
  places : Nat
deriving DecidableEq

namespace Decimal

/-- The digits of `rest` in `places` decimal places, up to the last one that is not
zero. -/
def fractionDigits : Nat → Nat → List Char
  | 0, _ => []
  | places + 1, rest =>
    if rest = 0 then []
    else Nat.digitChar (rest / tenPow places) :: fractionDigits places (rest % tenPow places)

/-- The characters of the decimal, in shortest form. -/
def characters (decimal : Decimal) : List Char :=
  let sign := if decimal.negative ∧ decimal.count ≠ 0 then ['-'] else []
  let whole := Nat.toDigits 10 (decimal.count / tenPow decimal.places)
  match fractionDigits decimal.places (decimal.count % tenPow decimal.places) with
  | [] => sign ++ whole
  | first :: others => sign ++ whole ++ '.' :: first :: others

/-- The text of the decimal, in shortest form. -/
def text (decimal : Decimal) : String :=
  String.ofList decimal.characters

end Decimal

/-- The number of places behind the point when a number is written. -/
def precision : Nat := 10

/-- The decimal of `places` places nearest to the exact value of a finite double; a
tie goes to the even count. -/
def Magnitude.toDecimal (negative : Bool) (magnitude : Magnitude) (places : Nat) : Decimal :=
  ⟨negative, nearestEven (magnitude.quanta * tenPow places) quantaPerOne, places⟩

/-- The text of a double in a stylesheet. -/
def Double.text : Double → String
  | nan => "NaN"
  | infinite negative => if negative then "-Infinity" else "Infinity"
  | finite negative magnitude =>
    if (finite negative magnitude).NearWhole then (magnitude.round.toDecimal negative 0).text
    else (magnitude.toDecimal negative precision).text

end StyleNumber
