import StyledCode.Text.Numeral
import StyledCode.Toml.Basic

/-!
# Numbers

* `digits?` : digits that may be separated by underscores
* `nearest` : the number nearest to a decimal fraction with an exponent
* `based?`, `decimal?` : an integer in another base, and a decimal integer or fraction
* `number?` : a number
-/

namespace StyledCode.Toml

open Text

/-- Digits of a base behind those already found in reverse, and what follows them.  An underscore may stand between
two digits. -/
def moreDigits? (base : Nat) (done : List Char) : List Char → Option (List Char × List Char)
  | [] => some (done.reverse, [])
  | ['_'] => none
  | '_' :: c :: rest => if (digit? base c).isSome then moreDigits? base (c :: done) rest else none
  | c :: rest =>
    if (digit? base c).isSome then moreDigits? base (c :: done) rest else some (done.reverse, c :: rest)

/-- At least one digit of a base, and what follows. -/
def digits? (base : Nat) : List Char → Option (List Char × List Char)
  | [] => none
  | c :: rest => if (digit? base c).isSome then moreDigits? base [c] rest else none

/-- Digits of which the first is zero only if it is the only one, and what follows. -/
def wholeDigits? : List Char → Option (List Char × List Char)
  | '0' :: rest => some (['0'], rest)
  | text => digits? 10 text

/-- A sign, and what follows; the sign is negative if the flag is set. -/
def sign : List Char → Bool × List Char
  | '+' :: rest => (false, rest)
  | '-' :: rest => (true, rest)
  | text => (false, text)

/-- The greatest magnitude of an integer of 64 bits. -/
def greatestMagnitude : Nat := 0x8000000000000000

/-- An integer of 64 bits with its sign. -/
def Value.ofInteger? (negative : Bool) (magnitude : Nat) : Option Value :=
  if negative then
    if magnitude ≤ greatestMagnitude then some (.integer (Int64.ofInt (-(magnitude : Int)))) else none
  else if magnitude < greatestMagnitude then some (.integer (Int64.ofNat magnitude)) else none

/-- The value of a row of decimal digits. -/
def decimalValue (digits : List Char) : Nat :=
  digits.foldl (fun value c => value * 10 + (decimalDigit? c).getD 0) 0

/-- More digits than those of any number in the middle between two neighbours, so that later ones only tell whether
the middle is exceeded. -/
def decisiveDigits : Nat := 800

/-- Digits without the zeros in front and without those behind the decisive ones, and how many were taken away
behind.  If one of these is not zero, a one stands for them all. -/
def significantDigits (digits : List Char) : List Char × Nat :=
  let digits := digits.dropWhile (· == '0')
  let rest := digits.drop decisiveDigits
  if rest.all (· == '0') then (digits.take decisiveDigits, rest.length)
  else (digits.take decisiveDigits ++ ['1'], rest.length - 1)

/-- The number nearest to the value of some digits times a power of ten.  The size is bounded before the power is
formed: beyond the bounds the number is zero or infinite. -/
def nearest (digits : List Char) (exponent : Int) : Float :=
  let (kept, dropped) := significantDigits digits
  let size := exponent + dropped + kept.length
  if kept.isEmpty ∨ size < -400 then 0
  else if 400 < size then 1 / 0
  else
    let exponent := exponent + dropped
    Float.ofScientific (decimalValue kept) (exponent < 0) exponent.natAbs

/-- The number of a decimal fraction with an exponent.  A positive one must not be beyond all numbers. -/
def Value.ofFraction? (negative : Bool) (whole fraction : List Char) (exponent : Int) : Option Value :=
  let x := nearest (whole ++ fraction) (exponent - fraction.length)
  if negative then some (.number (-x)) else if x.isInf then none else some (.number x)

/-- The value of an exponent from which on its further digits are not read. -/
def exponentBound : Nat := 0x10000

/-- The value of the digits of an exponent; once it reaches the bound, later digits do not count. -/
def exponentValue (digits : List Char) : Nat :=
  digits.foldl (fun value c => if value < exponentBound then value * 10 + (decimalDigit? c).getD 0 else value) 0

/-- An exponent, and what follows; without an exponent it is 0. -/
def exponent? : List Char → Option (Int × List Char)
  | c :: rest =>
    if c = 'e' ∨ c = 'E' then do
      let (negative, rest) := sign rest
      let (digits, rest) ← digits? 10 rest
      let magnitude : Int := exponentValue digits
      return (if negative then -magnitude else magnitude, rest)
    else some (0, c :: rest)
  | [] => some (0, [])

/-- An integer in a base of its own, behind the mark of the base, and what follows it. -/
def based? (base : Nat) (text : List Char) : Option (Value × List Char) := do
  let (digits, rest) ← digits? base text
  return (← Value.ofInteger? false (← ofDigits? base greatestMagnitude digits), rest)

/-- A decimal integer or fraction behind its sign, and what follows it. -/
def decimal? (negative : Bool) (text : List Char) : Option (Value × List Char) := do
  let (whole, rest) ← wholeDigits? text
  match rest with
  | '.' :: rest =>
    let (fraction, rest) ← digits? 10 rest
    let (exponent, rest) ← exponent? rest
    return (← Value.ofFraction? negative whole fraction exponent, rest)
  | c :: _ =>
    if c = 'e' ∨ c = 'E' then
      let (exponent, rest) ← exponent? rest
      return (← Value.ofFraction? negative whole [] exponent, rest)
    else return (← Value.ofInteger? negative (← ofDigits? 10 greatestMagnitude whole), rest)
  | [] => return (← Value.ofInteger? negative (← ofDigits? 10 greatestMagnitude whole), rest)

/-- A number, and what follows it. -/
def number? : List Char → Option (Value × List Char)
  | '0' :: 'x' :: rest => based? 16 rest
  | '0' :: 'o' :: rest => based? 8 rest
  | '0' :: 'b' :: rest => based? 2 rest
  | text =>
    match sign text with
    | (negative, 'i' :: 'n' :: 'f' :: rest) => some (.number (if negative then -1 / 0 else 1 / 0), rest)
    | (_, 'n' :: 'a' :: 'n' :: rest) => some (.number (0 / 0), rest)
    | (negative, rest) => decimal? negative rest

end StyledCode.Toml
