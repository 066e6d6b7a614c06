/-! # Operators

The binary operators that a number can stand to the left of, and how they are
written.
-/

namespace StyleNumber

/-- Operators that compute a value. -/
inductive Arithmetic where
  | plus
  | minus
  | times
  | dividedBy
  | modulo
deriving DecidableEq

/-- Operators that compare numbers. -/
inductive Comparison where
  | greaterThan
  | greaterThanOrEquals
  | lessThan
  | lessThanOrEquals
deriving DecidableEq

/-- The operators that a number can stand to the left of. -/
inductive Operator where
  | arithmetic (operator : Arithmetic)
  | comparison (operator : Comparison)
deriving DecidableEq

/-- The operator as written. -/
def Arithmetic.symbol : Arithmetic → String
  | plus => "+"
  | minus => "-"
  | times => "*"
  | dividedBy => "/"
  | modulo => "%"

def Comparison.symbol : Comparison → String
  | greaterThan => ">"
  | greaterThanOrEquals => ">="
  | lessThan => "<"
  | lessThanOrEquals => "<="

def Operator.symbol : Operator → String
  | arithmetic operator => operator.symbol
  | comparison operator => operator.symbol

end StyleNumber
