import StyledCode.Text.Numeral

/-!
# Dates and times

Only their form matters here.

* `date?`, `time?` : what follows a date, and what follows a time
* `moment?` : what follows a date, a time, or a date with a time and perhaps an offset
-/

namespace StyledCode.Toml

/-- The number in a field of so many digits, if it lies within bounds, and what follows. -/
def field? (count least greatest : Nat) (text : List Char) : Option (Nat × List Char) := do
  let digits := text.take count
  if digits.length = count then
    let n ← Text.ofDigits? 10 greatest digits
    if least ≤ n then some (n, text.drop count) else none
  else none

/-- What follows a character. -/
def after? (c : Char) : List Char → Option (List Char)
  | [] => none
  | d :: rest => if c = d then some rest else none

/-- The number of days in a month of a year. -/
def daysIn (year month : Nat) : Nat :=
  if month = 2 then if year % 4 = 0 ∧ (year % 100 ≠ 0 ∨ year % 400 = 0) then 29 else 28
  else if month ∈ [4, 6, 9, 11] then 30
  else 31

/-- What follows a date. -/
def date? (text : List Char) : Option (List Char) := do
  let (year, rest) ← field? 4 0 9999 text
  let (month, rest) ← field? 2 1 12 (← after? '-' rest)
  let (_, rest) ← field? 2 1 (daysIn year month) (← after? '-' rest)
  return rest

/-- What follows a fraction of a second, if there is one. -/
def skipFraction : List Char → List Char
  | '.' :: c :: rest =>
    if c.isDigit then rest.dropWhile Char.isDigit else '.' :: c :: rest
  | text => text

/-- What follows a time; a minute may have a leap second. -/
def time? (text : List Char) : Option (List Char) := do
  let (_, rest) ← field? 2 0 23 text
  let (_, rest) ← field? 2 0 59 (← after? ':' rest)
  let (_, rest) ← field? 2 0 60 (← after? ':' rest)
  return skipFraction rest

/-- What follows hours and minutes. -/
def shift? (text : List Char) : Option (List Char) := do
  let (_, rest) ← field? 2 0 23 text
  let (_, rest) ← field? 2 0 59 (← after? ':' rest)
  return rest

/-- What follows an offset, if there is one. -/
def skipOffset : List Char → List Char
  | c :: rest =>
    if c = 'Z' ∨ c = 'z' then rest
    else if c = '+' ∨ c = '-' then (shift? rest).getD (c :: rest)
    else c :: rest
  | [] => []

/-- What follows the time behind a date, if there is one. -/
def skipTime : List Char → List Char
  | c :: rest =>
    if c = 'T' ∨ c = 't' ∨ c = ' ' then ((time? rest).map skipOffset).getD (c :: rest) else c :: rest
  | [] => []

/-- What follows a date, a time, or a date with a time and perhaps an offset. -/
def moment? (text : List Char) : Option (List Char) :=
  (date? text).map skipTime <|> time? text

end StyledCode.Toml
