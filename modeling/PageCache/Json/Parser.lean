import PageCache.Json
import PageCache.Text.Number

/-!
# Reading JSON

A recursive descent over the bytes, each taken as the character of its number: all marks of the
grammar are single bytes, and only the text of a string has to be put together from several. Each
reader takes what is ahead of it and gives what it read with what is left, or nothing if that is not
JSON.

* **value** — brackets nest up to a depth; a string is a text: well-formed UTF-8, no bare control
  characters, an escaped surrogate only in a pair;
* **passed over** — what nobody asks for is read only as far as finding its end takes: brackets nest
  to any depth, and the bytes and escapes of a string may be those of no text.
-/

namespace PageCache.Json

/-- The text without the blanks at its start. -/
def skipBlank : List Char → List Char
  | c :: rest => if c = ' ' || c = '\n' || c = '\t' || c = '\r' then skipBlank rest else c :: rest
  | [] => []

/-- The unit that four digits escape. -/
def unit? (a b c d : Char) : Option Nat := do
  return ((← Hex.anyCaseValue? a) * 16 + (← Hex.anyCaseValue? b)) * 256 + (← Hex.anyCaseValue? c) * 16 + (← Hex.anyCaseValue? d)

/-- What a one-letter escape stands for. -/
def short? : Char → Option Char
  | '"' => some '"'
  | '\\' => some '\\'
  | '/' => some '/'
  | 'b' => some '\x08'
  | 'f' => some '\x0c'
  | 'n' => some '\n'
  | 'r' => some '\r'
  | 't' => some '\t'
  | _ => none

/-- Bytes, each as the character of its number. -/
def octets (bytes : ByteArray) : List Char := bytes.toList.map fun b => Char.ofNat b.toNat

/-- The bytes that write a character, each as the character of its number. -/
def octetsOf (c : Char) : List Char := octets (String.singleton c).toUTF8

/-- The text that some bytes write. -/
def textOf? (cs : List Char) : Option String :=
  String.fromUTF8? ⟨(cs.map fun c => c.toNat.toUInt8).toArray⟩

/-- The bytes up to the closing quote, escapes resolved. -/
def readOctets : List Char → Option (List Char × List Char)
  | [] => none
  | '"' :: rest => some ([], rest)
  | '\\' :: 'u' :: a :: b :: c :: d :: rest =>
    match unit? a b c d with
    | none => none
    | some high =>
      if high < 0xd800 || 0xe000 ≤ high then
        (readOctets rest).map fun (s, r) => (octetsOf (Char.ofNat high) ++ s, r)
      else
        match rest with
        | '\\' :: 'u' :: a :: b :: c :: d :: rest =>
          match unit? a b c d with
          | none => none
          | some low =>
            if high < 0xdc00 && 0xdc00 ≤ low && low < 0xe000 then
              (readOctets rest).map fun (s, r) =>
                (octetsOf (Char.ofNat (0x10000 + (high - 0xd800) * 1024 + (low - 0xdc00))) ++ s, r)
            else none
        | _ => none
  | '\\' :: c :: rest =>
    match short? c with
    | some x => (readOctets rest).map fun (s, r) => (x :: s, r)
    | none => none
  | c :: rest =>
    if c.toNat < 0x20 then none
    else (readOctets rest).map fun (s, r) => (c :: s, r)

/-- The text up to the closing quote. -/
def readText (cs : List Char) : Option (String × List Char) := do
  let (s, rest) ← readOctets cs
  return (← textOf? s, rest)

/-- What follows the closing quote. -/
def skipText : List Char → Option (List Char)
  | [] => none
  | '"' :: rest => some rest
  | '\\' :: 'u' :: a :: b :: c :: d :: rest =>
    match unit? a b c d with
    | some _ => skipText rest
    | none => none
  | '\\' :: c :: rest =>
    match short? c with
    | some _ => skipText rest
    | none => none
  | c :: rest => if c.toNat < 0x20 then none else skipText rest

/-- The digits at the start of a text, and the rest. -/
def digits (cs : List Char) : List Char × List Char :=
  (cs.takeWhile Char.isDigit, cs.dropWhile Char.isDigit)

/-- The exponent of a number, if one follows: no digits after its mark is an error. -/
def readExponent (cs : List Char) : Option (Option Int × List Char) :=
  match cs with
  | c :: rest =>
    if c = 'e' || c = 'E' then
      let (negative, rest) := match rest with
        | '-' :: r => (true, r)
        | '+' :: r => (false, r)
        | r => (false, r)
      match digits rest with
      | ([], _) => none
      | (ds, r) =>
        let n : Int := digitsValue 10 decimalDigit ds
        some (some (if negative then -n else n), r)
    else some (none, cs)
  | [] => some (none, [])

/-- The digits of a number added to those before, as long as it fits sixty-four bits, and how many are
left out. -/
def keepDigits (n : Nat) : List Char → Nat × Nat
  | [] => (n, 0)
  | c :: cs =>
    let next := 10 * n + decimalDigit c
    if next < 18446744073709551616 then keepDigits next cs else (n, cs.length + 1)

/-- A number: an integer part without needless zeros, then a fraction and an exponent if they are
there. -/
def readNumber (cs : List Char) : Option (JsonNumber × List Char) := do
  let (negative, cs) := match cs with
    | '-' :: r => (true, r)
    | r => (false, r)
  let (ds, rest) := digits cs
  if ds.isEmpty || (ds.head? = some '0' && ds.length ≠ 1) then none
  let (part, rest) ← match rest with
    | '.' :: r =>
      match digits r with
      | ([], _) => none
      | (fs, r) => some (some fs, r)
    | r => some (none, r)
  let (exponent, rest) ← readExponent rest
  let fs := part.getD []
  let (n, above) := keepDigits 0 ds
  let (n, below) := keepDigits n fs
  let shift : Int := above - (fs.length - below : Nat)
  return (⟨part.isNone && exponent.isNone, ⟨negative, n, exponent.getD 0 + shift⟩⟩, rest)

/-- The items up to the closing bracket, at least one. The fuel bounds their number. -/
def readItems (value : List Char → Option (Json × List Char)) (fuel : Nat) (cs : List Char) :
    Option (List Json × List Char) :=
  match fuel with
  | 0 => none
  | fuel + 1 =>
    match value cs with
    | none => none
    | some (v, rest) =>
      match skipBlank rest with
      | ']' :: rest => some ([v], rest)
      | ',' :: rest => (readItems value fuel rest).map fun (vs, r) => (v :: vs, r)
      | _ => none

/-- The fields up to the closing brace, at least one. How a value is read may depend on its name;
the fuel bounds their number. -/
def readFields (text : List Char → Option (String × List Char))
    (value : String → List Char → Option (Json × List Char)) (fuel : Nat) (cs : List Char) :
    Option (List (String × Json) × List Char) :=
  match fuel with
  | 0 => none
  | fuel + 1 =>
    match skipBlank cs with
    | '"' :: rest =>
      match text rest with
      | none => none
      | some (name, rest) =>
        match skipBlank rest with
        | ':' :: rest =>
          match value name rest with
          | none => none
          | some (v, rest) =>
            match skipBlank rest with
            | '}' :: rest => some ([(name, v)], rest)
            | ',' :: rest =>
              (readFields text value fuel rest).map fun (fs, r) => ((name, v) :: fs, r)
            | _ => none
        | _ => none
    | _ => none

/-- A list behind its opening bracket. -/
def readList (value : List Char → Option (Json × List Char)) (cs : List Char) :
    Option (Json × List Char) :=
  match skipBlank cs with
  | ']' :: rest => some (.arr [], rest)
  | rest => (readItems value rest.length rest).map fun (vs, r) => (.arr vs, r)

/-- An object behind its opening brace. -/
def readObject (text : List Char → Option (String × List Char))
    (value : String → List Char → Option (Json × List Char)) (cs : List Char) :
    Option (Json × List Char) :=
  match skipBlank cs with
  | '}' :: rest => some (.obj [], rest)
  | rest => (readFields text value rest.length rest).map fun (fs, r) => (.obj fs, r)

/-- A value that is neither a list nor an object. -/
def readPlain (text : List Char → Option (String × List Char)) (cs : List Char) :
    Option (Json × List Char) :=
  match cs with
  | 'n' :: 'u' :: 'l' :: 'l' :: rest => some (.null, rest)
  | 't' :: 'r' :: 'u' :: 'e' :: rest => some (.bool true, rest)
  | 'f' :: 'a' :: 'l' :: 's' :: 'e' :: rest => some (.bool false, rest)
  | '"' :: rest => (text rest).map fun (s, r) => (.str s, r)
  | rest => (readNumber rest).map fun (n, r) => (.num n, r)

/-- A value with its strings read by `text`, brackets nested up to a depth. -/
def readValueBy (text : List Char → Option (String × List Char)) (depth : Nat) (cs : List Char) :
    Option (Json × List Char) :=
  match depth, skipBlank cs with
  | 0, '[' :: _ => none
  | 0, '{' :: _ => none
  | depth + 1, '[' :: rest => readList (readValueBy text depth) rest
  | depth + 1, '{' :: rest => readObject text (fun _ => readValueBy text depth) rest
  | _, rest => readPlain text rest

/-- How deep the brackets of a value may nest. -/
def depthLimit : Nat := 127

/-- A value. -/
def readValue (cs : List Char) : Option (Json × List Char) := readValueBy readText depthLimit cs

/-- What follows a value that is passed over. -/
def skipValue (cs : List Char) : Option (List Char) :=
  (readValueBy (fun cs => (skipText cs).map fun r => ("", r)) cs.length cs).map (·.2)

/-- A value of which nobody asks for fields of other names than the given ones: these are there with
the value `null`. -/
def readKnown (names : List String) (cs : List Char) : Option (Json × List Char) :=
  match skipBlank cs with
  | '{' :: rest => readObject readText field rest
  | rest => readValue rest
where
  /-- the value of a field -/
  field (name : String) (cs : List Char) : Option (Json × List Char) :=
    if name ∈ names then readValueBy readText (depthLimit - 1) cs
    else (skipValue cs).map fun r => (.null, r)

/-- What a reader makes of all bytes, blanks at the end allowed. -/
def whole (read : List Char → Option (Json × List Char)) (bytes : ByteArray) : Option Json :=
  match read (octets bytes) with
  | some (v, rest) => if (skipBlank rest).isEmpty then some v else none
  | none => none

/-- The value that some bytes write. -/
def ofBytes (bytes : ByteArray) : Option Json := whole readValue bytes

/-- The value that a text writes. -/
def parse (text : String) : Option Json := ofBytes text.toUTF8

/-- The record that some bytes write: as the value they write, but fields of other names are passed
over. -/
def recordOfBytes (names : List String) (bytes : ByteArray) : Option Json :=
  whole (readKnown names) bytes

/-- The value's text as the bytes of a file. -/
def toBytes (v : Json) : ByteArray := v.compact.toUTF8

/-! ## Records

A record is read from an object, its fields in any order and each at most once, unknown ones passed
over; or from a list, its fields by position. -/

/-- The value of a field: nothing if it is absent, an error if it is there twice. -/
def field? (name : String) (fields : List (String × Json)) : Option (Option Json) :=
  match fields.filter (·.1 = name) with
  | [] => some none
  | [f] => some (some f.2)
  | _ => none

/-- The values of a record's fields, in the order of their names. A list may be shorter than the
record, but not longer. -/
def record? (names : List String) : Json → Option (List (Option Json))
  | .obj fields => names.mapM fun name => field? name fields
  | .arr items =>
    if items.length ≤ names.length then
      some (items.map some ++ List.replicate (names.length - items.length) none)
    else none
  | _ => none

/-- A natural number below `2 ^ 64`. -/
def nat? : Json → Option Nat
  | .num n => n.nat? 18446744073709551616
  | _ => none

/-- A natural number or nothing. -/
def optionalNat? : Json → Option (Option Nat)
  | .null => some none
  | v => v.nat?.map some

/-- An integer of sixty-four bits. -/
def int? : Json → Option Int
  | .num n => n.int?
  | _ => none

/-- A string. -/
def str? : Json → Option String
  | .str s => some s
  | _ => none

end PageCache.Json
