/-!
# Hexadecimal text

Two lower-case digits a byte, the high half first. Reading accepts what writing produces, and
nothing else: an odd digit or a capital one is refused.
-/

namespace PageCache.Hex

/-- The lower-case digit of a half byte. -/
def digit (n : Nat) : Char :=
  if n < 10 then Char.ofNat (48 + n) else Char.ofNat (87 + n)

/-- The value of a lower-case digit. -/
def value? (c : Char) : Option Nat :=
  if '0' ≤ c ∧ c ≤ '9' then some (c.toNat - 48)
  else if 'a' ≤ c ∧ c ≤ 'f' then some (c.toNat - 87)
  else none

/-- The value of a digit of either case. -/
def anyCaseValue? (c : Char) : Option Nat := value? c.toLower

/-- Two digits for each byte. -/
def encode (bytes : List UInt8) : String :=
  String.ofList (bytes.flatMap fun b => [digit (b.toNat / 16), digit (b.toNat % 16)])

/-- The bytes whose digits these are. -/
def decode : List Char → Option (List UInt8)
  | [] => some []
  | [_] => none
  | h :: l :: rest => do
    let hi ← value? h
    let lo ← value? l
    let tail ← decode rest
    return UInt8.ofNat (16 * hi + lo) :: tail

/-- The digits of a number, without leading zeros. -/
def ofNat (n : Nat) : String := String.ofList (Nat.toDigits 16 n)

end PageCache.Hex
