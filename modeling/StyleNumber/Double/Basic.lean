import StyleNumber.Double.Magnitude

/-! # Doubles

The numbers of the binary64 format: not-a-number, two infinities, and finite
numbers given by a sign and a magnitude. Zero has both signs, and equality of
doubles tells them apart.

The order sees only the place of a number on the line of signed quanta
(`Double.rank?`), where the two zeros share a place and the infinities stand
beyond every finite number. Not-a-number has no place, so it neither precedes nor
follows anything.
-/

namespace StyleNumber

/-- A number of the binary64 format. -/
inductive Double where
  /-- The result of an operation without a meaningful answer. -/
  | nan
  /-- Positive or negative infinity. -/
  | infinite (negative : Bool)
  /-- A signed magnitude; a zero keeps its sign. -/
  | finite (negative : Bool) (magnitude : Magnitude)
deriving DecidableEq

/-- A count with the sign of the number it belongs to. -/
def signed (negative : Bool) (count : Nat) : Int :=
  if negative then -count else count

/-- The sign of a place does not change how far it is from zero. -/
theorem natAbs_signed (negative : Bool) (count : Nat) : (signed negative count).natAbs = count := by
  cases negative <;> simp [signed]

namespace Double

/-- Whether a double is neither infinite nor not-a-number. -/
def isFinite : Double → Bool
  | nan | infinite _ => false
  | finite _ _ => true

/-- The place of a double on the line of signed quanta; not-a-number has none. -/
def rank? : Double → Option Int
  | nan => none
  | infinite negative => some (signed negative overflowQuanta)
  | finite negative magnitude => some (signed negative magnitude.quanta)

instance : LT Double where
  lt left right :=
    match left.rank?, right.rank? with
    | some low, some high => low < high
    | _, _ => False

instance : LE Double where
  le left right :=
    match left.rank?, right.rank? with
    | some low, some high => low ≤ high
    | _, _ => False

instance (left right : Double) : Decidable (left < right) :=
  match left, right with
  | nan, _ => isFalse id
  | infinite _, nan => isFalse id
  | finite _ _, nan => isFalse id
  | infinite _, infinite _ | infinite _, finite _ _
  | finite _ _, infinite _ | finite _ _, finite _ _ =>
    inferInstanceAs (Decidable (_ < (_ : Int)))

instance (left right : Double) : Decidable (left ≤ right) :=
  match left, right with
  | nan, _ => isFalse id
  | infinite _, nan => isFalse id
  | finite _ _, nan => isFalse id
  | infinite _, infinite _ | infinite _, finite _ _
  | finite _ _, infinite _ | finite _ _, finite _ _ =>
    inferInstanceAs (Decidable (_ ≤ (_ : Int)))

/-- The double of the other sign. -/
protected def neg : Double → Double
  | nan => nan
  | infinite negative => infinite (!negative)
  | finite negative magnitude => finite (!negative) magnitude

instance : Neg Double := ⟨Double.neg⟩

/-- The double without its sign. -/
protected def abs : Double → Double
  | nan => nan
  | infinite _ => infinite false
  | finite _ magnitude => finite false magnitude

/-- Not-a-number precedes nothing. -/
theorem not_nan_lt (other : Double) : ¬nan < other := id

/-- Nothing precedes not-a-number. -/
theorem not_lt_nan (other : Double) : ¬other < nan := by
  cases other <;> exact id

/-- Of two doubles with a place in the order, the lower place comes first. -/
theorem lt_iff {left right : Double} {low high : Int} (leftRank : left.rank? = some low)
    (rightRank : right.rank? = some high) : left < right ↔ low < high := by
  change (match left.rank?, right.rank? with
    | some low, some high => low < high
    | _, _ => False) ↔ _
  rw [leftRank, rightRank]

/-- Of two doubles with a place in the order, the one at no higher place comes first. -/
theorem le_iff {left right : Double} {low high : Int} (leftRank : left.rank? = some low)
    (rightRank : right.rank? = some high) : left ≤ right ↔ low ≤ high := by
  change (match left.rank?, right.rank? with
    | some low, some high => low ≤ high
    | _, _ => False) ↔ _
  rw [leftRank, rightRank]

end Double

end StyleNumber
