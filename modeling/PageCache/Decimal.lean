/-!
# Decimal numbers and their nearest binary ones

A number written in decimals is a whole mantissa times a power of ten. Where a number is kept in
binary, what is kept is the nearest value with fifty-three significant bits, ties to even, or one
close by; its text is the shortest decimal to which the value is the nearest one, written without an
exponent. All of it is exact arithmetic on whole numbers.
-/

namespace PageCache

/-- A decimal literal: `± mantissa * 10 ^ exponent`. -/
structure Decimal where
  /-- whether a minus sign stands before it -/
  negative : Bool
  /-- the digits, read without the point -/
  mantissa : Nat
  /-- the power of ten -/
  exponent : Int
deriving DecidableEq, Inhabited

/-- A number kept in sixty-four bits. -/
inductive Binary where
  /-- `± significand * 2 ^ exponent` -/
  | finite (negative : Bool) (significand : Nat) (exponent : Int)
  /-- beyond all finite ones -/
  | infinite (negative : Bool)
  /-- no number at all -/
  | nan
deriving DecidableEq, Inhabited

/-- The least significand with fifty-three bits, `2 ^ 52`. -/
def least : Nat := 4503599627370496

/-- A quotient rounded to the nearest whole number, a tie to the even one. -/
def roundEven (num den : Nat) : Nat :=
  let q := num / den
  let r := num % den
  if 2 * r < den then q
  else if 2 * r > den then q + 1
  else if q % 2 = 0 then q else q + 1

namespace Binary

/-- Whether the number is other than zero. -/
def isNonzero : Binary → Bool
  | finite _ s _ => s ≠ 0
  | _ => true

/-- The value nearest to a fraction: fifty-three significant bits, the last of which never stands for
less than `2 ^ -1074`; from `2 ^ 1024` on it is infinite. -/
def nearest (negative : Bool) (num den : Nat) : Binary :=
  if num = 0 then .finite negative 0 0
  else
    let estimate : Int := (num.log2 : Int) - den.log2 - 52
    let scaled (q : Int) : Nat × Nat :=
      if 0 ≤ q then (num, den * Nat.pow 2 q.toNat) else (num * Nat.pow 2 (-q).toNat, den)
    let small (q : Int) : Bool := let (n, m) := scaled q; n < least * m
    let q := max (-1074) (if small estimate then estimate - 1 else estimate)
    let (n, m) := scaled q
    let s := roundEven n m
    let (s, q) := if s = 2 * least then (least, q + 1) else (s, q)
    if q > 971 then .infinite negative else .finite negative s q

/-- The value nearest to a fraction times a power of two. -/
def scaled (negative : Bool) (num den : Nat) (q : Int) : Binary :=
  if 0 ≤ q then nearest negative (num * Nat.pow 2 q.toNat) den
  else nearest negative num (den * Nat.pow 2 (-q).toNat)

/-- The product, rounded. Only of finite values is there one. -/
def times : Binary → Binary → Binary
  | finite n₁ s₁ q₁, finite n₂ s₂ q₂ => scaled (n₁ != n₂) (s₁ * s₂) 1 (q₁ + q₂)
  | _, _ => nan

/-- The quotient, rounded. Only of finite values is there one. -/
def dividedBy : Binary → Binary → Binary
  | finite n₁ s₁ q₁, finite n₂ s₂ q₂ =>
    if s₂ = 0 then nan else scaled (n₁ != n₂) s₁ s₂ (q₁ - q₂)
  | _, _ => nan

end Binary

namespace Decimal

/-- The fraction a literal stands for, without its sign. -/
def fraction (d : Decimal) : Nat × Nat :=
  if 0 ≤ d.exponent then (d.mantissa * Nat.pow 10 d.exponent.toNat, 1)
  else (d.mantissa, Nat.pow 10 (-d.exponent).toNat)

/-- The nearest value. -/
def toBinary (d : Decimal) : Binary :=
  let digits : Int := (toString d.mantissa).length
  if d.mantissa = 0 || digits + d.exponent < -400 then .finite d.negative 0 0
  else if digits + d.exponent > 400 then .infinite d.negative
  else .nearest d.negative d.fraction.1 d.fraction.2

/-- The nearest value to a power of ten. -/
def powerOfTen (n : Nat) : Binary := toBinary ⟨false, 1, n⟩

/-- The value divided by a power of ten, at most three hundred and eight of its tens at once, each
quotient rounded. -/
def shrink (x : Binary) (n : Nat) : Binary :=
  if n ≤ 308 then x.dividedBy (powerOfTen n)
  else if !x.isNonzero then x
  else shrink (x.dividedBy (powerOfTen 308)) (n - 308)
termination_by n
decreasing_by omega

/-- A value close by, that is found with little effort: the mantissa and the power of ten are rounded
each by itself, and once more their product or quotient. -/
def toBinaryRoughly (d : Decimal) : Binary :=
  let x := toBinary ⟨d.negative, d.mantissa, 0⟩
  if d.exponent < 0 then shrink x (-d.exponent).toNat
  else if d.mantissa = 0 then x
  else if d.exponent > 308 then .infinite d.negative
  else x.times (powerOfTen d.exponent.toNat)

end Decimal

namespace Binary

/-- The nearest whole number without its sign, a half away from zero. -/
def roundAway (significand : Nat) (exponent : Int) : Nat :=
  if 0 ≤ exponent then significand * Nat.pow 2 exponent.toNat
  else
    let unit := Nat.pow 2 (-exponent).toNat
    (2 * significand + unit) / (2 * unit)

/-- The nearest number from `0` to `top`; no number at all counts as `0`. -/
def clamp (top : Nat) : Binary → Nat
  | finite false s q => min (roundAway s q) top
  | infinite false => top
  | _ => 0

/-- The shortest decimal, as digits and a power of ten, that lies between the neighbours of a value:
of the grids of `1, 2, …` significant digits the first that has a point there, and of its points the
one nearest to the value, the upper one of two equally near. -/
def shortest (s : Nat) (q : Int) : Nat × Int :=
  -- the value and the ends of its interval, over one denominator of quarters of the last bit
  let (bit, den) := if 0 ≤ q then (Nat.pow 2 q.toNat, 4) else (1, 4 * Nat.pow 2 (-q).toNat)
  let value := 4 * s * bit
  let low := (if s = least && q > -1074 then 4 * s - 1 else 4 * s - 2) * bit
  let high := (4 * s + 2) * bit
  -- the point of the grid of multiples of `10 ^ e` that lies inside
  let pointOf (e : Int) : Option (Nat × Int) :=
    let (up, down) := if 0 ≤ e then (Nat.pow 10 e.toNat, 1) else (1, Nat.pow 10 (-e).toNat)
    let isInside (n : Nat) : Bool :=
      let p := n * up * den
      if s % 2 = 0 then low * down ≤ p && p ≤ high * down else low * down < p && p < high * down
    let n := (2 * value * down + den * up) / (2 * den * up)
    if n ≠ 0 && isInside n then some (n, e)
    else if isInside (n + 1) then some (n + 1, e)
    else none
  -- from a grid too wide for the value downward
  let widest : Int := ((value / den).log2 * 1233 / 4096 : Nat) + 1
  ((List.range 700).findSome? fun i => pointOf (widest - (i : Nat))).getD (s, 0)

/-- The text without an exponent. -/
def text : Binary → String
  | nan => "NaN"
  | infinite negative => if negative then "-inf" else "inf"
  | finite negative s q =>
    let sign := if negative then "-" else ""
    if s = 0 then sign ++ "0"
    else
      let (n, e) := shortest s q
      let digits := toString n
      if 0 ≤ e then sign ++ digits ++ String.ofList (List.replicate e.toNat '0')
      else
        let k := (-e).toNat
        let padded := List.replicate (k + 1 - digits.length) '0' ++ digits.toList
        let whole := padded.take (padded.length - k)
        let part := (padded.drop (padded.length - k)).reverse.dropWhile (· = '0')
        sign ++ String.ofList whole ++
          (if part.isEmpty then "" else "." ++ String.ofList part.reverse)

end Binary

end PageCache
