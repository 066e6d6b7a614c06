import StyleNumber.Value

/-! # Operations

A number on the left of an operator meets any value on the right. With a number the
operator computes. With a color, sums, differences and quotients are not computed
but written: the texts of both joined by the operator. Everything else is undefined.
-/

namespace StyleNumber

/-- Whether a comparison holds between two scalars. -/
def Comparison.Holds (operator : Comparison) (left right : Double) : Prop :=
  match operator with
  | greaterThan => left.Above right
  | greaterThanOrEquals => left.AtLeast right
  | lessThan => left.Below right
  | lessThanOrEquals => left.AtMost right

instance (operator : Comparison) (left right : Double) : Decidable (operator.Holds left right) :=
  match operator with
  | .greaterThan => inferInstanceAs (Decidable (left.Above right))
  | .greaterThanOrEquals => inferInstanceAs (Decidable (left.AtLeast right))
  | .lessThan => inferInstanceAs (Decidable (left.Below right))
  | .lessThanOrEquals => inferInstanceAs (Decidable (left.AtMost right))

/-- Whether an operator applied to a color joins the texts of its operands. -/
def Arithmetic.joinsTexts : Arithmetic → Bool
  | plus | minus | dividedBy => true
  | times | modulo => false

namespace Number

/-- The operation on two numbers. -/
def calculate (operator : Arithmetic) (left right : Number Double) :
    Except Error (Number Double) :=
  match operator with
  | .plus => left.plus right
  | .minus => left.minus right
  | .times => .ok (left.times right)
  | .dividedBy => .ok (left.dividedBy right)
  | .modulo => left.modulo right

/-- The result of an operator between a number and a value. -/
def operate (operator : Arithmetic) (left : Number Double) (right : Value) : Except Error Value :=
  match right with
  | .number other => (left.calculate operator other).map .number
  | .color color =>
    if operator.joinsTexts then .ok (.other (left.css ++ operator.symbol ++ color.text))
    else .error (.undefinedOperation (.arithmetic operator) left.text right.text)
  | .other _ => .error (.undefinedOperation (.arithmetic operator) left.text right.text)

/-- The answer of a comparison between a number and a value. -/
def compare (operator : Comparison) (left : Number Double) (right : Value) : Except Error Bool :=
  match right with
  | .number other =>
    (left.coercedValues other).map fun (leftValue, rightValue) =>
      decide (operator.Holds leftValue rightValue)
  | .color _ | .other _ =>
    .error (.undefinedOperation (.comparison operator) left.text right.text)

end Number

end StyleNumber
