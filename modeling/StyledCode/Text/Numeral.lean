/-!
# Numerals

* `hexDigit?`, `decimalDigit?` : the value of a digit
* `ofDigits?` : the number that a numeral stands for in a base, up to a limit
* `padded` : a number in decimal, filled with zeros on the left
* `hexByte` : a byte as two hexadecimal digits
* `thousandths` : a number with three decimal places, a half going to the even neighbour
-/

namespace StyledCode.Text

/-- The value of a decimal digit. -/
def decimalDigit? (c : Char) : Option Nat :=
  if '0' ≤ c ∧ c ≤ '9' then some (c.toNat - 48) else none

/-- The value of a hexadecimal digit in either case. -/
def hexDigit? (c : Char) : Option Nat :=
  if '0' ≤ c ∧ c ≤ '9' then some (c.toNat - 48)
  else if 'a' ≤ c ∧ c ≤ 'f' then some (c.toNat - 87)
  else if 'A' ≤ c ∧ c ≤ 'F' then some (c.toNat - 55)
  else none

/-- The value of a digit in a base of at most sixteen. -/
def digit? (base : Nat) (c : Char) : Option Nat :=
  (hexDigit? c).filter (· < base)

/-- The number that digits behind those already read stand for, unless it is above a limit.  Reading more digits
never makes a number smaller, so it ends where the limit is passed. -/
def readDigits? (base limit value : Nat) : List Char → Option Nat
  | [] => some value
  | c :: digits =>
    match digit? base c with
    | none => none
    | some d =>
      let value := value * base + d
      if limit < value then none else readDigits? base limit value digits

/-- The number that a non-empty row of digits stands for, unless it is above a limit. -/
def ofDigits? (base limit : Nat) (digits : List Char) : Option Nat :=
  if digits.isEmpty then none else readDigits? base limit 0 digits

/-- A number in decimal, filled with zeros on the left up to a width. -/
def padded (width n : Nat) : String :=
  let digits := n.repr
  String.ofList (List.replicate (width - digits.length) '0') ++ digits

/-- A byte as two hexadecimal digits. -/
def hexByte (b : UInt8) : String :=
  let digit (n : Nat) : Char := "0123456789abcdef".toList.getD n '0'
  String.ofList [digit (b.toNat / 16), digit (b.toNat % 16)]

/-- The quotient of two numbers rounded to the nearest whole number, a half going to the even neighbour. -/
def roundDiv (num den : Nat) : Nat :=
  let q := num / den
  let twice := 2 * (num % den)
  if twice < den then q else if den < twice then q + 1 else q + q % 2

/-- The mantissa `m` and the exponent `e` of a finite number whose magnitude is `m * 2 ^ e / 2 ^ 149`. -/
def binaryParts (x : Float32) : Nat × Nat :=
  let bits := x.toBits.toNat
  let exponent := bits / 0x800000 % 0x100
  let fraction := bits % 0x800000
  if exponent = 0 then (fraction, 0) else (fraction + 0x800000, exponent - 1)

/-- A number with three decimal places, rounded from its exact value with a half going to the even neighbour. -/
def thousandths (x : Float32) : String :=
  if x.isNaN then "NaN"
  else
    let sign := if x.toBits.toNat < 0x80000000 then "" else "-"
    if x.isInf then sign ++ "inf"
    else
      let (m, e) := binaryParts x
      let n := roundDiv ((m <<< e) * 1000) (1 <<< 149)
      sign ++ (n / 1000).repr ++ "." ++ padded 3 (n % 1000)

end StyledCode.Text
