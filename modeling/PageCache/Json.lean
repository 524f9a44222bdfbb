import PageCache.Decimal
import PageCache.Text.Hex

/-!
# JSON values and their text

A JSON value keeps what its text says: a number stays the decimal it was written as, an object the
list of its fields, repeated ones included. Values are written either without any blank or, for
people, one field a line.
-/

namespace PageCache

/-- A number as it is written: whether it is whole (no point, no exponent), and its decimal. -/
structure JsonNumber where
  /-- neither a point nor an exponent occurs -/
  whole : Bool
  /-- the number; digits that do not fit sixty-four bits are left out, and count in the exponent -/
  decimal : Decimal
deriving DecidableEq, Inhabited

/-- A JSON value. -/
inductive Json where
  | null
  | bool (b : Bool)
  | num (n : JsonNumber)
  | str (s : String)
  | arr (items : List Json)
  | obj (fields : List (String × Json))
deriving Inhabited

namespace JsonNumber

/-- The number of a natural. -/
def ofNat (n : Nat) : JsonNumber := ⟨true, ⟨false, n, 0⟩⟩

/-- The number of an integer. -/
def ofInt (n : Int) : JsonNumber := ⟨true, ⟨n < 0, n.natAbs, 0⟩⟩

/-- Whether the mantissa alone is the number, its sign apart. -/
def isExact (n : JsonNumber) : Bool := n.whole && n.decimal.exponent = 0

/-- The natural number that a literal is, if it is whole, has no sign and is below `bound`. -/
def nat? (bound : Nat) (n : JsonNumber) : Option Nat :=
  if n.isExact && !n.decimal.negative && n.decimal.mantissa < bound then some n.decimal.mantissa
  else none

/-- The integer of sixty-four bits that a literal is; `-0` is none. -/
def int? (n : JsonNumber) : Option Int :=
  if !n.isExact then none
  else if n.decimal.negative then
    if 0 < n.decimal.mantissa && n.decimal.mantissa ≤ 9223372036854775808 then
      some (-(n.decimal.mantissa : Int))
    else none
  else if n.decimal.mantissa < 9223372036854775808 then some n.decimal.mantissa
  else none

end JsonNumber

namespace Json

/-- A natural number. -/
def ofNat (n : Nat) : Json := .num (.ofNat n)

/-- An integer. -/
def ofInt (n : Int) : Json := .num (.ofInt n)

/-- The written form of a character in a string: short escapes where there are some, four digits for
the other control characters below the blank, all else as itself. -/
def escape (c : Char) : List Char :=
  match c with
  | '"' => ['\\', '"']
  | '\\' => ['\\', '\\']
  | '\n' => ['\\', 'n']
  | '\r' => ['\\', 'r']
  | '\t' => ['\\', 't']
  | '\x08' => ['\\', 'b']
  | '\x0c' => ['\\', 'f']
  | c =>
    if c.toNat < 0x20 then
      ['\\', 'u', '0', '0', Hex.digit (c.toNat / 16), Hex.digit (c.toNat % 16)]
    else [c]

/-- A string between quotes. -/
def writeString (s : String) : List Char := '"' :: s.toList.flatMap escape ++ ['"']

/-- A number. Only whole ones are ever written. -/
def writeNumber (n : JsonNumber) : List Char :=
  (if n.decimal.negative then ['-'] else []) ++ (Nat.repr n.decimal.mantissa).toList

/-- Parts with a separator between them. -/
def sepBy (sep : List Char) : List (List Char) → List Char
  | [] => []
  | [a] => a
  | a :: rest => a ++ sep ++ sepBy sep rest

mutual

/-- A value without blanks. -/
def write : Json → List Char
  | .null => ['n', 'u', 'l', 'l']
  | .bool true => ['t', 'r', 'u', 'e']
  | .bool false => ['f', 'a', 'l', 's', 'e']
  | .num n => writeNumber n
  | .str s => writeString s
  | .arr items => '[' :: sepBy [','] (writeItems items) ++ [']']
  | .obj fields => '{' :: sepBy [','] (writeFields fields) ++ ['}']

/-- The texts of some values. -/
def writeItems : List Json → List (List Char)
  | [] => []
  | v :: rest => write v :: writeItems rest

/-- The texts of some fields. -/
def writeFields : List (String × Json) → List (List Char)
  | [] => []
  | (name, v) :: rest => (writeString name ++ ':' :: write v) :: writeFields rest

end

/-- The value as a text without blanks. -/
def compact (v : Json) : String := String.ofList (write v)

/-- Lines of parts between brackets, each part on a line of its own and further in. -/
def block (depth : Nat) (opening closing : Char) (parts : List (List Char)) : List Char :=
  let margin (n : Nat) : List Char := '\n' :: List.replicate (2 * n) ' '
  if parts.isEmpty then [opening, closing]
  else
    opening :: sepBy [','] (parts.map (margin (depth + 1) ++ ·)) ++ margin depth ++ [closing]

mutual

/-- A value at a depth, one field or item a line. -/
def writePretty (depth : Nat) : Json → List Char
  | .arr items => block depth '[' ']' (prettyItems (depth + 1) items)
  | .obj fields => block depth '{' '}' (prettyFields (depth + 1) fields)
  | .null => write .null
  | .bool b => write (.bool b)
  | .num n => write (.num n)
  | .str s => write (.str s)

/-- The texts of some values at a depth. -/
def prettyItems (depth : Nat) : List Json → List (List Char)
  | [] => []
  | v :: rest => writePretty depth v :: prettyItems depth rest

/-- The texts of some fields at a depth. -/
def prettyFields (depth : Nat) : List (String × Json) → List (List Char)
  | [] => []
  | (name, v) :: rest =>
    (writeString name ++ ':' :: ' ' :: writePretty depth v) :: prettyFields depth rest

end

/-- The value as a text of several lines. -/
def pretty (v : Json) : String := String.ofList (writePretty 0 v)

end Json

end PageCache
