import StyledCode.Color.Basic
import StyledCode.Text.Numeral

/-!
# Written colours

* `Color.bytes` : the red, green and blue channels in eight bits
* `Color.toHex` : a colour in hexadecimal, with its opacity unless it is opaque
-/

namespace StyledCode.Color

open Text

/-- A channel in eight bits, a half going away from zero; what is not a number counts as 0. -/
def channelByte (x : Float32) : UInt8 := (clampChannel x * 255).round.toUInt8

/-- The red, green and blue channels in eight bits. -/
def bytes (c : Color) : UInt8 × UInt8 × UInt8 :=
  (channelByte c.red, channelByte c.green, channelByte c.blue)

/-- A colour in hexadecimal; the opacity is written when it is below 1. -/
def toHex (c : Color) : String :=
  let channels := "#" ++ hexByte (channelByte c.red) ++ hexByte (channelByte c.green) ++ hexByte (channelByte c.blue)
  if c.alpha < 1 then channels ++ hexByte (channelByte c.alpha) else channels

end StyledCode.Color
