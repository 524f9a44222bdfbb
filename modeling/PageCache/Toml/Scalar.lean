import PageCache.Config.Value
import PageCache.Text.Hex
import PageCache.Text.Number

/-!
# Plain values of TOML documents

Truth values, numbers and times are single words. A number is whole if it has neither a point nor an
exponent; single underscores may stand between its digits. A time is kept as its text, written in
the one usual form.
-/

namespace PageCache.Toml

/-- The digits of a row in which single underscores may stand between digits. -/
def digitsOf? (isDigit : Char → Bool) : List Char → Option (List Char)
  | [] => none
  | [c] => if isDigit c then some [c] else none
  | c :: '_' :: rest => if isDigit c then (digitsOf? isDigit rest).map (c :: ·) else none
  | c :: rest => if isDigit c then (digitsOf? isDigit rest).map (c :: ·) else none

/-- A sign, true for minus, and what follows it. -/
def sign (word : List Char) : Bool × List Char :=
  match word with
  | '-' :: rest => (true, rest)
  | '+' :: rest => (false, rest)
  | rest => (false, rest)

/-- The digits of a decimal whole number: no needless zero at the start. -/
def decimalDigits? (word : List Char) : Option (List Char) := do
  let ds ← digitsOf? Char.isDigit word
  if ds.head? = some '0' && ds.length ≠ 1 then none else some ds

/-- The digits of a number in another base, after the sign of the base. -/
def inBase? (base : Nat) (word : List Char) : Option Nat := do
  let isDigit (c : Char) : Bool :=
    match Hex.anyCaseValue? c with
    | some v => v < base
    | none => false
  let ds ← digitsOf? isDigit word
  return digitsValue base (fun c => (Hex.anyCaseValue? c).getD 0) ds

/-- A whole number of sixty-four bits. -/
def integer? (word : List Char) : Option Int :=
  match word with
  | '0' :: 'x' :: rest => bounded false (inBase? 16 rest)
  | '0' :: 'o' :: rest => bounded false (inBase? 8 rest)
  | '0' :: 'b' :: rest => bounded false (inBase? 2 rest)
  | word =>
    let (negative, rest) := sign word
    bounded negative ((decimalDigits? rest).map (digitsValue 10 decimalDigit))
where
  /-- the number with its sign, if it fits -/
  bounded (negative : Bool) (n : Option Nat) : Option Int :=
    match n with
    | none => none
    | some n =>
      if negative then if n ≤ 9223372036854775808 then some (-(n : Int)) else none
      else if n < 9223372036854775808 then some n else none

/-- An exponent: a sign and digits. -/
def exponent? (word : List Char) : Option Int := do
  let (negative, rest) := sign word
  let n : Int := digitsValue 10 decimalDigit (← digitsOf? Char.isDigit rest)
  return if negative then -n else n

/-- A number with a point or an exponent; one beyond all finite values is refused. -/
def float? (word : List Char) : Option Binary := do
  let (negative, rest) := sign word
  if rest = ['i', 'n', 'f'] then return .infinite negative
  if rest = ['n', 'a', 'n'] then return .nan
  let isMark (c : Char) : Bool := c = 'e' || c = 'E'
  let (body, tail) := (rest.takeWhile fun c => !isMark c, rest.dropWhile fun c => !isMark c)
  let e ← match tail with
    | [] => some none
    | _ :: digits => (exponent? digits).map some
  let (whole, part) := (body.takeWhile (· ≠ '.'), body.dropWhile (· ≠ '.'))
  let ds ← decimalDigits? whole
  let fs ← match part with
    | [] => some []
    | _ :: digits => digitsOf? Char.isDigit digits
  if part.isEmpty && e.isNone then none
  let value := digitsValue 10 decimalDigit (ds ++ fs)
  match Decimal.toBinary ⟨negative, value, e.getD 0 - fs.length⟩ with
  | .infinite _ => none
  | x => some x

/-! ## Times -/

/-- The number that two digits write, if it lies between two bounds. -/
def twoDigits? (low high : Nat) (a b : Char) : Option Nat :=
  if a.isDigit && b.isDigit then
    let n := 10 * decimalDigit a + decimalDigit b
    if low ≤ n && n ≤ high then some n else none
  else none

/-- The number of days of a month. -/
def daysIn (year month : Nat) : Nat :=
  if month = 2 then
    if (year % 4 = 0 && year % 100 ≠ 0) || year % 400 = 0 then 29 else 28
  else if month = 4 || month = 6 || month = 9 || month = 11 then 30
  else 31

/-- A date at the start of a word, and what follows it. -/
def date? (word : List Char) : Option (List Char × List Char) :=
  match word with
  | a :: b :: c :: d :: '-' :: e :: f :: '-' :: g :: h :: rest => do
    let year := 100 * (← twoDigits? 0 99 a b) + (← twoDigits? 0 99 c d)
    let month ← twoDigits? 1 12 e f
    let _ ← twoDigits? 1 (daysIn year month) g h
    return ([a, b, c, d, '-', e, f, '-', g, h], rest)
  | _ => none

/-- The fraction of a second at the start of a word: at most nine digits count, and zeros at their
end do not, but one digit is left. -/
def fraction (rest : List Char) : Option (List Char × List Char) :=
  match rest with
  | '.' :: rest =>
    let ds := rest.takeWhile Char.isDigit
    let kept := ((ds.take 9).reverse.dropWhile (· = '0')).reverse
    if ds.isEmpty then none
    else some ('.' :: if kept.isEmpty then ['0'] else kept, rest.dropWhile Char.isDigit)
  | rest => some ([], rest)

/-- A time of day at the start of a word, and what follows it. Seconds may be left out, and with them
their fraction. -/
def time? (word : List Char) : Option (List Char × List Char) :=
  match word with
  | a :: b :: ':' :: c :: d :: rest => do
    let _ ← twoDigits? 0 23 a b
    let _ ← twoDigits? 0 59 c d
    match rest with
    | ':' :: e :: f :: rest =>
      let _ ← twoDigits? 0 60 e f
      let (part, rest) ← fraction rest
      return ([a, b, ':', c, d, ':', e, f] ++ part, rest)
    | rest => return ([a, b, ':', c, d], rest)
  | _ => none

/-- An offset from universal time, the whole of what is left. -/
def offset? (word : List Char) : Option (List Char) :=
  match word with
  | [] => some []
  | ['Z'] => some ['Z']
  | ['z'] => some ['Z']
  | [s, a, b, ':', c, d] => do
    let hours ← twoDigits? 0 23 a b
    let minutes ← twoDigits? 0 59 c d
    if s = '+' || (s = '-' && hours = 0 && minutes = 0) then return ['+', a, b, ':', c, d]
    else if s = '-' then return word
    else none
  | _ => none

/-- The text of a date, a time of day, or both. -/
def moment? (word : List Char) : Option String :=
  match date? word with
  | some (date, []) => some (String.ofList date)
  | some (date, mark :: rest) =>
    if mark = 'T' || mark = 't' || mark = ' ' then do
      let (time, rest) ← time? rest
      return String.ofList (date ++ 'T' :: time ++ (← offset? rest))
    else none
  | none =>
    match time? word with
    | some (time, []) => some (String.ofList time)
    | _ => none

/-- The value that a word is. -/
def scalar? (word : List Char) : Option ConfigValue :=
  if word = "true".toList then some (.bool true)
  else if word = "false".toList then some (.bool false)
  else
    ((integer? word).map .int).orElse fun _ =>
      ((float? word).map .float).orElse fun _ => (moment? word).map .time

/-- Whether a character may stand in a word. -/
def isWordChar (c : Char) : Bool :=
  c.isAlphanum || c = '_' || c = '+' || c = '-' || c = '.' || c = ':'

/-- The word at the start of a text, and the rest. A date and a time of day with one blank between
them are one word. -/
def word (cs : List Char) : List Char × List Char :=
  let first := cs.takeWhile isWordChar
  match cs.dropWhile isWordChar with
  | ' ' :: a :: b :: ':' :: rest =>
    if (date? first).any (fun d => d.2.isEmpty) && a.isDigit && b.isDigit then
      (first ++ ' ' :: a :: b :: ':' :: rest.takeWhile isWordChar, rest.dropWhile isWordChar)
    else (first, ' ' :: a :: b :: ':' :: rest)
  | rest => (first, rest)

end PageCache.Toml
