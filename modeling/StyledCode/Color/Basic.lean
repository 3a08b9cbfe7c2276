/-!
# Colours

A colour has a red, a green and a blue channel and an opacity, nominally between 0 and 1.

* `Color.onto` : a translucent colour painted over a background
* `Color.near` : agreement of two colours up to the rounding to eight bits
-/

namespace StyledCode

/-- A colour with its opacity. -/
structure Color where
  red : Float32
  green : Float32
  blue : Float32
  alpha : Float32
  deriving DecidableEq, Repr

namespace Color

/-- An opaque colour. -/
def rgb (red green blue : Float32) : Color := ⟨red, green, blue, 1⟩

def white : Color := rgb 1 1 1
def black : Color := rgb 0 0 0

/-- The colour that stands for one that cannot be understood. -/
def gray : Color := rgb 0.5 0.5 0.5

/-- The same colour with another opacity. -/
def withAlpha (c : Color) (alpha : Float32) : Color := { c with alpha }

/-- A channel moved to the nearest value between 0 and 1; what is not a number stays as it is. -/
def clampChannel (x : Float32) : Float32 :=
  if x < 0 then 0 else if 1 < x then 1 else x

/-- The opaque colour that appears when a colour is painted over a background. -/
def onto (c background : Color) : Color :=
  let a := clampChannel c.alpha
  let blend (front back : Float32) : Float32 := front * a + back * (1 - a)
  rgb (blend c.red background.red) (blend c.green background.green) (blend c.blue background.blue)

/-- Whether two channels agree up to half a step of eight bits. -/
def nearChannel (x y : Float32) : Bool := (x - y).abs ≤ 0.5 / 255

/-- Whether two colours agree in every channel up to half a step of eight bits. -/
def near (c d : Color) : Bool :=
  nearChannel c.red d.red && nearChannel c.green d.green && nearChannel c.blue d.blue &&
    nearChannel c.alpha d.alpha

end Color

end StyledCode
