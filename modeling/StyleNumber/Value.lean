import StyleNumber.Color
import StyleNumber.Number.Basic

/-! # Values

The operators on numbers tell numbers and colors apart from everything else. Any
other value comes as the text it has in a stylesheet.
-/

namespace StyleNumber

/-- A value of a stylesheet. -/
inductive Value where
  | number (number : Number Double)
  | color (color : Color)
  /-- Any other value, as its text. -/
  | other (text : String)
deriving DecidableEq

namespace Value

/-- The number, if the value is one. -/
def number? : Value → Option (Number Double)
  | number inner => some inner
  | color _ | other _ => none

/-- The text of the value, as computed. -/
def text : Value → String
  | number inner => inner.text
  | color inner => inner.text
  | other text => text

/-- The text of the value in a stylesheet. -/
def css : Value → String
  | number inner => inner.css
  | color inner => inner.text
  | other text => text

/-- Whether two values are equal; numbers are compared by their scalars. -/
def Equal : Value → Value → Prop
  | number left, number right => left.Equal right
  | color left, color right => left = right
  | other left, other right => left = right
  | _, _ => False

instance (left right : Value) : Decidable (left.Equal right) :=
  match left, right with
  | number left, number right => inferInstanceAs (Decidable (left.Equal right))
  | color left, color right => inferInstanceAs (Decidable (left = right))
  | other left, other right => inferInstanceAs (Decidable (left = right))
  | number _, color _ | number _, other _ | color _, number _
  | color _, other _ | other _, number _ | other _, color _ => isFalse id

end Value

end StyleNumber
