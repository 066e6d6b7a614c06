import StyleNumber.Operation
import StyleNumber.Proofs.Number.Coercion

/-! # Expressions over numbers

An expression is a tree of numbers and of the operations that make numbers of numbers.
Its value is what the operations give from the leaves up (`Expression.evaluate`), and
the numbers that come up on the way are the values of its parts (`Expression.parts`).
-/

namespace StyleNumber

/-- Two computations in a row succeed when both do. -/
theorem bind_eq_ok_iff {α β : Type} {computed : Except Error α} {next : α → Except Error β}
    {result : β} :
    (computed >>= next) = .ok result ↔ ∃ value, computed = .ok value ∧ next value = .ok result := by
  cases computed <;> simp [bind, Except.bind]

/-- A tree of operations on numbers. -/
inductive Expression where
  | number (leaf : Number Double)
  | operation (operator : Arithmetic) (left right : Expression)
  | unaryPlus (operand : Expression)
  | unaryMinus (operand : Expression)
  | strip (operand : Expression)
  | writtenAs (operand : Expression) (text : String)
  | coerce (operand : Expression) (target : Signature)

namespace Expression

/-- The value of an expression, or the failure of its first part that fails. -/
def evaluate : Expression → Except Error (Number Double)
  | number leaf => .ok leaf
  | operation operator left right => do
    let leftNumber ← left.evaluate
    let rightNumber ← right.evaluate
    leftNumber.calculate operator rightNumber
  | unaryPlus operand => operand.evaluate.map Number.unaryPlus
  | unaryMinus operand => operand.evaluate.map Number.unaryMinus
  | strip operand => operand.evaluate.map Number.strip
  | writtenAs operand text => operand.evaluate.map (·.writtenAs text)
  | coerce operand target => do
    let number ← operand.evaluate
    number.coerce target

/-- An expression and everything below it. -/
def parts : Expression → List Expression
  | number leaf => [number leaf]
  | operation operator left right => operation operator left right :: (left.parts ++ right.parts)
  | unaryPlus operand => unaryPlus operand :: operand.parts
  | unaryMinus operand => unaryMinus operand :: operand.parts
  | strip operand => strip operand :: operand.parts
  | writtenAs operand text => writtenAs operand text :: operand.parts
  | coerce operand target => coerce operand target :: operand.parts

/-- The signatures an expression is given: those of its leaves and those it is to be
converted to. -/
def signatures : Expression → List Signature
  | number leaf => [leaf.units]
  | operation _ left right => left.signatures ++ right.signatures
  | unaryPlus operand | unaryMinus operand | strip operand | writtenAs operand _ =>
    operand.signatures
  | coerce operand target => target :: operand.signatures

/-- The signatures of a part are among those of the whole. -/
theorem signatures_subset_of_mem_parts {expression part : Expression}
    (inside : part ∈ expression.parts) : part.signatures ⊆ expression.signatures := by
  induction expression with
  | number leaf =>
    rw [List.mem_singleton.mp inside]
    exact List.Subset.refl _
  | operation operator left right leftIh rightIh =>
    rcases List.mem_cons.mp inside with rfl | below
    · exact List.Subset.refl _
    · rcases List.mem_append.mp below with inLeft | inRight
      · exact List.subset_append_of_subset_left _ (leftIh inLeft)
      · exact List.subset_append_of_subset_right _ (rightIh inRight)
  | unaryPlus operand ih | unaryMinus operand ih | strip operand ih | writtenAs operand text ih =>
    rcases List.mem_cons.mp inside with rfl | below
    · exact List.Subset.refl _
    · exact ih below
  | coerce operand target ih =>
    rcases List.mem_cons.mp inside with rfl | below
    · exact List.Subset.refl _
    · exact List.subset_cons_of_subset _ (ih below)

end Expression

end StyleNumber
