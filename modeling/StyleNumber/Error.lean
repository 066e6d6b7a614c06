import StyleNumber.Operator

/-! # Errors

Why an operation on numbers fails. Operands are kept as text, since a report needs
nothing else of them. The checks of an argument carry the name of the argument
when the caller gives one, and the name then opens the message.
-/

namespace StyleNumber

/-- What is wrong with an argument. -/
inductive ArgumentFault where
  /-- The number is not close to a whole one. -/
  | notAnInteger (value : String)
  /-- The list index is zero or past either end. -/
  | invalidIndex (index : String) (length : Nat)
  /-- The number is outside the range. -/
  | outOfRange (value least most : String)
  /-- The number does not have exactly the required unit. -/
  | wrongUnit (value unit : String)
  /-- The number has units where none belong. -/
  | unexpectedUnits (value : String)
deriving DecidableEq

/-- The report on an argument, without its name. -/
def ArgumentFault.message : ArgumentFault → String
  | notAnInteger value => value ++ " is not an int."
  | invalidIndex index length =>
    if index = "0" then "List index may not be 0."
    else "Invalid index " ++ index ++ " for a list with " ++ toString length ++ " elements."
  | outOfRange value least most =>
    "Expected " ++ value ++ " to be within " ++ least ++ " and " ++ most ++ "."
  | wrongUnit value unit => "Expected " ++ value ++ " to have unit \"" ++ unit ++ "\"."
  | unexpectedUnits value => "Expected " ++ value ++ " to have no units."

/-- Why an operation fails. -/
inductive Error where
  /-- The units of one signature do not pair up with those of the other. -/
  | incompatibleUnits (source target : String)
  /-- The operator does not apply to values of these kinds. -/
  | undefinedOperation (operator : Operator) (left right : String)
  /-- An argument, named or not, does not pass a check. -/
  | argument (name : Option String) (fault : ArgumentFault)
deriving DecidableEq

namespace Error

/-- The report without the name of an argument. -/
def message : Error → String
  | incompatibleUnits source target => "Incompatible units " ++ source ++ " and " ++ target ++ "."
  | undefinedOperation operator left right =>
    "Undefined operation \"" ++ left ++ " " ++ operator.symbol ++ " " ++ right ++ "\"."
  | argument _ fault => fault.message

/-- The name of the argument at fault, if one was given. -/
def argumentName : Error → Option String
  | argument name _ => name
  | _ => none

/-- The whole report. -/
def text (error : Error) : String :=
  match error.argumentName with
  | some name => "$" ++ name ++ ": " ++ error.message
  | none => error.message

end Error

end StyleNumber
