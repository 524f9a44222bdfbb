/-!
# Text from bytes that may be ill-formed

UTF-8 read without ever failing. What is well-formed gives its characters; of the rest, each longest
run of bytes that could begin a character, or else each single byte, gives one replacement
character.
-/

namespace PageCache.Utf8

/-- A character that has begun: how many bytes are owed, the least and the greatest value the next
one may have, and the bits so far. -/
structure Begun where
  /-- the bytes owed, at least one -/
  owed : Nat
  /-- the least next byte -/
  low : Nat
  /-- the greatest next byte -/
  high : Nat
  /-- the bits so far -/
  bits : Nat
deriving DecidableEq, Inhabited

/-- The character that stands for ill-formed bytes. -/
def replacement : Char := '\ufffd'

/-- What a byte gives that no begun character takes: characters, and perhaps a new beginning. -/
def start (b : Nat) : List Char × Option Begun :=
  if b < 0x80 then ([Char.ofNat b], none)
  else if b < 0xc2 then ([replacement], none)
  else if b < 0xe0 then ([], some ⟨1, 0x80, 0xbf, b - 0xc0⟩)
  else if b = 0xe0 then ([], some ⟨2, 0xa0, 0xbf, 0⟩)
  else if b = 0xed then ([], some ⟨2, 0x80, 0x9f, 0xd⟩)
  else if b < 0xf0 then ([], some ⟨2, 0x80, 0xbf, b - 0xe0⟩)
  else if b = 0xf0 then ([], some ⟨3, 0x90, 0xbf, 0⟩)
  else if b < 0xf4 then ([], some ⟨3, 0x80, 0xbf, b - 0xf0⟩)
  else if b = 0xf4 then ([], some ⟨3, 0x80, 0x8f, 4⟩)
  else ([replacement], none)

/-- What the next byte gives. -/
def next (state : Option Begun) (b : Nat) : List Char × Option Begun :=
  match state with
  | none => start b
  | some s =>
    if s.low ≤ b && b ≤ s.high then
      let bits := s.bits * 64 + (b - 0x80)
      if s.owed = 1 then ([Char.ofNat bits], none)
      else ([], some ⟨s.owed - 1, 0x80, 0xbf, bits⟩)
    else
      let (cs, state) := start b
      (replacement :: cs, state)

/-- The characters of some bytes. -/
def characters (state : Option Begun) : List UInt8 → List Char
  | [] => if state.isSome then [replacement] else []
  | b :: rest =>
    let (cs, state) := next state b.toNat
    cs ++ characters state rest

/-- The text of some bytes. -/
def textOf (bytes : ByteArray) : String := String.ofList (characters none bytes.toList)

end PageCache.Utf8
