import StyleNumber.Factor

/-! # The units that convert

Units of one category convert into each other, units of different categories never
do. Each category is a type of its own, with the factors between its units: the
factor from a source to a target says how many targets make up one source.
-/

namespace StyleNumber

/-- The kinds of quantity whose units convert. -/
inductive Category where
  | length
  | angle
  | time
  | frequency
  | resolution
deriving DecidableEq

/-- Units of length. -/
inductive LengthUnit where
  | inch
  | centimeter
  | pica
  | millimeter
  | quarterMillimeter
  | point
  | pixel
deriving DecidableEq

/-- Units of angle. -/
inductive AngleUnit where
  | degree
  | gradian
  | radian
  | turn
deriving DecidableEq

/-- Units of time. -/
inductive TimeUnit where
  | second
  | millisecond
deriving DecidableEq

/-- Units of frequency. -/
inductive FrequencyUnit where
  | hertz
  | kilohertz
deriving DecidableEq

/-- Units of resolution. -/
inductive ResolutionUnit where
  | dotsPerInch
  | dotsPerCentimeter
  | dotsPerPixel
deriving DecidableEq

namespace LengthUnit

/-- The symbol written for the unit. -/
def symbol : LengthUnit → String
  | inch => "in"
  | centimeter => "cm"
  | pica => "pc"
  | millimeter => "mm"
  | quarterMillimeter => "q"
  | point => "pt"
  | pixel => "px"

/-- Chooses by the unit, in the order of their declaration. -/
def choose (unit : LengthUnit)
    (inInches inCentimeters inPicas inMillimeters inQuarters inPoints inPixels : Factor) : Factor :=
  match unit with
  | inch => inInches
  | centimeter => inCentimeters
  | pica => inPicas
  | millimeter => inMillimeters
  | quarterMillimeter => inQuarters
  | point => inPoints
  | pixel => inPixels

/-- How many targets make up one source. -/
def factor (source target : LengthUnit) : Factor :=
  match source with
  | inch => target.choose 1 2.54 6 25.4 101.6 72 96
  | centimeter => target.choose (1 / 2.54) 1 (6 / 2.54) 10 40 (72 / 2.54) (96 / 2.54)
  | pica => target.choose (1 / 6) (2.54 / 6) 1 (25.4 / 6) (101.6 / 6) 12 16
  | millimeter => target.choose (1 / 25.4) (1 / 10) (6 / 25.4) 1 4 (72 / 25.4) (96 / 25.4)
  | quarterMillimeter =>
    target.choose (1 / 101.6) (1 / 40) (6 / 101.6) (1 / 4) 1 (72 / 101.6) (96 / 101.6)
  | point => target.choose (1 / 72) (2.54 / 72) (1 / 12) (25.4 / 72) (101.6 / 72) 1 (4 / 3)
  | pixel => target.choose (1 / 96) (2.54 / 96) (1 / 16) (25.4 / 96) (101.6 / 96) (3 / 4) 1

end LengthUnit

namespace AngleUnit

def symbol : AngleUnit → String
  | degree => "deg"
  | gradian => "grad"
  | radian => "rad"
  | turn => "turn"

def choose (unit : AngleUnit) (inDegrees inGradians inRadians inTurns : Factor) : Factor :=
  match unit with
  | degree => inDegrees
  | gradian => inGradians
  | radian => inRadians
  | turn => inTurns

def factor (source target : AngleUnit) : Factor :=
  match source with
  | degree => target.choose 1 (10 / 9) (.pi / 180) (1 / 360)
  | gradian => target.choose (9 / 10) 1 (.pi / 200) (1 / 400)
  | radian => target.choose (180 / .pi) (200 / .pi) 1 (1 / (2 * .pi))
  | turn => target.choose 360 400 (2 * .pi) 1

end AngleUnit

namespace TimeUnit

def symbol : TimeUnit → String
  | second => "s"
  | millisecond => "ms"

def factor : TimeUnit → TimeUnit → Factor
  | second, second => 1
  | second, millisecond => 1000
  | millisecond, second => 1 / 1000
  | millisecond, millisecond => 1

end TimeUnit

namespace FrequencyUnit

def symbol : FrequencyUnit → String
  | hertz => "Hz"
  | kilohertz => "kHz"

def factor : FrequencyUnit → FrequencyUnit → Factor
  | hertz, hertz => 1
  | hertz, kilohertz => 1 / 1000
  | kilohertz, hertz => 1000
  | kilohertz, kilohertz => 1

end FrequencyUnit

namespace ResolutionUnit

def symbol : ResolutionUnit → String
  | dotsPerInch => "dpi"
  | dotsPerCentimeter => "dpcm"
  | dotsPerPixel => "dppx"

def factor : ResolutionUnit → ResolutionUnit → Factor
  | dotsPerInch, dotsPerInch => 1
  | dotsPerInch, dotsPerCentimeter => 1 / 2.54
  | dotsPerInch, dotsPerPixel => 1 / 96
  | dotsPerCentimeter, dotsPerInch => 2.54
  | dotsPerCentimeter, dotsPerCentimeter => 1
  | dotsPerCentimeter, dotsPerPixel => 2.54 / 96
  | dotsPerPixel, dotsPerInch => 96
  | dotsPerPixel, dotsPerCentimeter => 96 / 2.54
  | dotsPerPixel, dotsPerPixel => 1

end ResolutionUnit

/-- A unit that converts into the others of its category. -/
inductive TableUnit where
  | length (unit : LengthUnit)
  | angle (unit : AngleUnit)
  | time (unit : TimeUnit)
  | frequency (unit : FrequencyUnit)
  | resolution (unit : ResolutionUnit)
deriving DecidableEq

namespace TableUnit

/-- The symbol written for the unit. -/
def symbol : TableUnit → String
  | length unit => unit.symbol
  | angle unit => unit.symbol
  | time unit => unit.symbol
  | frequency unit => unit.symbol
  | resolution unit => unit.symbol

/-- The category of the unit. -/
def category : TableUnit → Category
  | length _ => .length
  | angle _ => .angle
  | time _ => .time
  | frequency _ => .frequency
  | resolution _ => .resolution

/-- How many targets make up one source; none across categories. -/
def factor? : TableUnit → TableUnit → Option Factor
  | length source, length target => some (source.factor target)
  | angle source, angle target => some (source.factor target)
  | time source, time target => some (source.factor target)
  | frequency source, frequency target => some (source.factor target)
  | resolution source, resolution target => some (source.factor target)
  | _, _ => none

/-- Every unit that converts. -/
def all : List TableUnit :=
  [length .inch, length .centimeter, length .pica, length .millimeter, length .quarterMillimeter,
    length .point, length .pixel, angle .degree, angle .gradian, angle .radian, angle .turn,
    time .second, time .millisecond, frequency .hertz, frequency .kilohertz,
    resolution .dotsPerInch, resolution .dotsPerCentimeter, resolution .dotsPerPixel]

/-- The unit that a symbol stands for; the case of its letters counts. -/
def ofSymbol? (symbol : String) : Option TableUnit :=
  all.find? (·.symbol = symbol)

/-- Every unit of the table is in the list of all units. -/
theorem mem_all (unit : TableUnit) : unit ∈ all := by
  cases unit with
  | length unit => cases unit <;> decide
  | angle unit => cases unit <;> decide
  | time unit => cases unit <;> decide
  | frequency unit => cases unit <;> decide
  | resolution unit => cases unit <;> decide

/-- Reading the symbol of a unit gives the unit back. -/
theorem ofSymbol?_symbol (unit : TableUnit) : ofSymbol? unit.symbol = some unit := by
  cases unit with
  | length unit => cases unit <;> decide
  | angle unit => cases unit <;> decide
  | time unit => cases unit <;> decide
  | frequency unit => cases unit <;> decide
  | resolution unit => cases unit <;> decide

/-- A symbol stands for a unit exactly when it is written for that unit. -/
theorem ofSymbol?_eq_some_iff {symbol : String} {unit : TableUnit} :
    ofSymbol? symbol = some unit ↔ unit.symbol = symbol := by
  constructor
  · intro found
    simpa using List.find?_some found
  · rintro rfl
    exact ofSymbol?_symbol unit

/-- Two units have a factor exactly when they share a category. -/
theorem isSome_factor? (source target : TableUnit) :
    (source.factor? target).isSome ↔ source.category = target.category := by
  cases source <;> cases target <;> simp [factor?, category]

end TableUnit

end StyleNumber
