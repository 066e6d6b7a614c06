import StyleNumber.Decimal

/-! # Colors

A color has four channels of eight bits. A solid color is written as six
hexadecimal digits, any other one with its channels as numbers and its opacity as a
fraction of one.
-/

namespace StyleNumber

/-- A color with an opacity. -/
structure Color where
  red : UInt8
  green : UInt8
  blue : UInt8
  alpha : UInt8
deriving DecidableEq

namespace Color

/-- A color with full opacity. -/
def solid (red green blue : UInt8) : Color :=
  ⟨red, green, blue, 255⟩

/-- The two hexadecimal digits of a channel. -/
def channelDigits (channel : UInt8) : List Char :=
  [Nat.digitChar (channel.toNat / 16), Nat.digitChar (channel.toNat % 16)]

/-- The opacity between zero and one. -/
def opacity (color : Color) : Double :=
  .ofRatio false (color.alpha.toNat * quantaPerOne) 1 / 255

/-- The color as written in a stylesheet. -/
def text (color : Color) : String :=
  if color.alpha = 255 then
    String.ofList
      ('#' :: (channelDigits color.red ++ channelDigits color.green ++ channelDigits color.blue))
  else
    "rgba(" ++ toString color.red.toNat ++ ", " ++ toString color.green.toNat ++ ", " ++
      toString color.blue.toNat ++ ", " ++ color.opacity.text ++ ")"

end Color

end StyleNumber
