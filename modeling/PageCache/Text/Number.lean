/-!
# Natural numbers in settings

A natural number as a person writes it into a setting: ASCII digits, leading zeros and one plus sign
allowed, nothing else.
-/

namespace PageCache

/-- The number that a row of digits writes. -/
def digitsValue (base : Nat) (value : Char → Nat) (ds : List Char) : Nat :=
  ds.foldl (fun n c => base * n + value c) 0

/-- The value of a decimal digit. -/
def decimalDigit (c : Char) : Nat := c.toNat - '0'.toNat

/-- The natural number below `bound` that a text writes. -/
def natural? (bound : Nat) (text : String) : Option Nat :=
  let digits := match text.toList with
    | '+' :: ds => ds
    | ds => ds
  if digits.isEmpty || !digits.all Char.isDigit then none
  else
    let n := digitsValue 10 decimalDigit digits
    if n < bound then some n else none

end PageCache
