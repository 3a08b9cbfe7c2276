import StyledCode.Color.Basic
import StyledCode.Text.Blank
import StyledCode.Text.Numeral

/-!
# Colours in stylesheets

A stylesheet writes a colour as `#` with three, six or eight hexadecimal digits, or as one of six names.  Reading
never fails: what cannot be understood is gray.

* `Color.ofName?` : the named colours
* `Color.ofCss` : the colour a value stands for
-/

namespace StyledCode.Color

open Text

/-- The named colours, in lower case only. -/
def ofName? : String → Option Color
  | "white" => some white
  | "black" => some black
  | "red" => some (rgb 1 0 0)
  | "green" => some (rgb 0 0.5 0)
  | "blue" => some (rgb 0 0 1)
  | "navy" => some (rgb 0 0 0.5)
  | _ => none

/-- The number written by the hexadecimal digits before the first other character. -/
def leadingHex (digits : List Char) : Nat :=
  (digits.map hexDigit?).takeWhile Option.isSome |>.foldl (fun n d? => n * 16 + d?.getD 0) 0

/-- One channel from its digits, as a share of the greatest value they can write. -/
def channel (digits : List Char) (greatest : Float32) : Float32 :=
  Float32.ofNat (leadingHex digits) / greatest

/-- The colour written after `#`: its length decides how many digits a channel has. -/
def ofHexDigits (digits : List Char) : Color :=
  match digits with
  | [r, g, b] => rgb (channel [r] 15) (channel [g] 15) (channel [b] 15)
  | [r, r', g, g', b, b'] => rgb (channel [r, r'] 255) (channel [g, g'] 255) (channel [b, b'] 255)
  | [r, r', g, g', b, b', a, a'] =>
    ⟨channel [r, r'] 255, channel [g, g'] 255, channel [b, b'] 255, channel [a, a'] 255⟩
  | _ => gray

/-- The colour a value of a stylesheet stands for; white space around it does not count. -/
def ofCss (value : String) : Color :=
  match trim value.toList with
  | '#' :: digits => ofHexDigits digits
  | name => (ofName? (String.ofList name)).getD gray

end StyledCode.Color
