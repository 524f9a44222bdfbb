import PageCache.Text.Hex
import PageCache.Text.Number

/-!
# Strings of TOML documents

A string stands between quotes or between apostrophes; with three of them it may run over several
lines. Between quotes a backslash begins an escape, between apostrophes all is taken as it is. Each
reader takes the text after the opening mark and gives the string with the text after the closing
one, or nothing if the string is ill-formed.
-/

namespace PageCache.Toml

/-- A blank within a line. -/
def isBlank (c : Char) : Bool := c = ' ' || c = '\t'

/-- Whether a character may stand in a line: all but control characters, the tab apart. -/
def isPrintable (c : Char) : Bool := c = '\t' || (0x20 ≤ c.toNat && c.toNat ≠ 0x7f)

/-- What a one-letter escape stands for. -/
def short? : Char → Option Char
  | '"' => some '"'
  | '\\' => some '\\'
  | 'b' => some '\x08'
  | 'e' => some '\x1b'
  | 'f' => some '\x0c'
  | 'n' => some '\n'
  | 'r' => some '\r'
  | 't' => some '\t'
  | _ => none

/-- The character whose code point some hexadecimal digits write. -/
def codePoint? (digits : List Char) : Option Char := do
  let values ← digits.mapM Hex.anyCaseValue?
  let n := values.foldl (fun n d => 16 * n + d) 0
  if n < 0xd800 || (0xe000 ≤ n && n < 0x110000) then some (Char.ofNat n) else none

/-- A reader's result with a character before it. -/
def prepend (c : Char) (r : Option (List Char × List Char)) : Option (List Char × List Char) :=
  r.map fun (s, rest) => (c :: s, rest)

/-- A string between quotes, on one line. -/
def readBasic : List Char → Option (List Char × List Char)
  | [] => none
  | '"' :: rest => some ([], rest)
  | '\\' :: 'x' :: a :: b :: rest =>
    match codePoint? [a, b] with
    | some c => prepend c (readBasic rest)
    | none => none
  | '\\' :: 'u' :: a :: b :: c :: d :: rest =>
    match codePoint? [a, b, c, d] with
    | some x => prepend x (readBasic rest)
    | none => none
  | '\\' :: 'U' :: a :: b :: c :: d :: e :: f :: g :: h :: rest =>
    match codePoint? [a, b, c, d, e, f, g, h] with
    | some x => prepend x (readBasic rest)
    | none => none
  | '\\' :: c :: rest =>
    match short? c with
    | some x => prepend x (readBasic rest)
    | none => none
  | c :: rest => if isPrintable c then prepend c (readBasic rest) else none

/-- A string between apostrophes, on one line. -/
def readLiteral : List Char → Option (List Char × List Char)
  | [] => none
  | '\'' :: rest => some ([], rest)
  | c :: rest => if isPrintable c then prepend c (readLiteral rest) else none

/-- Whether nothing but blanks is left of a line. -/
def atLineEnd (cs : List Char) : Bool :=
  match cs.dropWhile isBlank with
  | '\n' :: _ => true
  | '\r' :: '\n' :: _ => true
  | _ => false

/-- The end of a string of several lines, whose closing marks have just been read: up to two more of
them belong to the string. -/
def closing (mark : Char) : List Char → List Char × List Char
  | a :: b :: rest =>
    if a = mark then if b = mark then ([mark, mark], rest) else ([mark], b :: rest)
    else ([], a :: b :: rest)
  | [a] => if a = mark then ([mark], []) else ([], [a])
  | [] => ([], [])

/-- A string between three quotes. A backslash at the end of a line takes away the blanks and line
ends that follow, which is what `skipping` says. -/
def readLongBasic (skipping : Bool) : List Char → Option (List Char × List Char)
  | [] => none
  | '"' :: '"' :: '"' :: rest => some (closing '"' rest)
  | '\r' :: '\n' :: rest =>
    if skipping then readLongBasic true rest
    else prepend '\r' (prepend '\n' (readLongBasic false rest))
  | '\\' :: 'x' :: a :: b :: rest =>
    match codePoint? [a, b] with
    | some c => prepend c (readLongBasic false rest)
    | none => none
  | '\\' :: 'u' :: a :: b :: c :: d :: rest =>
    match codePoint? [a, b, c, d] with
    | some x => prepend x (readLongBasic false rest)
    | none => none
  | '\\' :: 'U' :: a :: b :: c :: d :: e :: f :: g :: h :: rest =>
    match codePoint? [a, b, c, d, e, f, g, h] with
    | some x => prepend x (readLongBasic false rest)
    | none => none
  | '\\' :: c :: rest =>
    match short? c with
    | some x => prepend x (readLongBasic false rest)
    | none => if atLineEnd (c :: rest) then readLongBasic true (c :: rest) else none
  | c :: rest =>
    if skipping && (isBlank c || c = '\n') then readLongBasic true rest
    else if isPrintable c || c = '\n' then prepend c (readLongBasic false rest)
    else none

/-- A string between three apostrophes. -/
def readLongLiteral : List Char → Option (List Char × List Char)
  | [] => none
  | '\'' :: '\'' :: '\'' :: rest => some (closing '\'' rest)
  | '\r' :: '\n' :: rest => prepend '\r' (prepend '\n' (readLongLiteral rest))
  | c :: rest => if isPrintable c || c = '\n' then prepend c (readLongLiteral rest) else none

/-- The text without the line end at its start. -/
def dropLineEnd : List Char → List Char
  | '\n' :: rest => rest
  | '\r' :: '\n' :: rest => rest
  | cs => cs

/-- A string of any form, nothing if the text does not start with one. -/
def readString : List Char → Option (String × List Char)
  | '"' :: '"' :: '"' :: rest => finish (readLongBasic false (dropLineEnd rest))
  | '\'' :: '\'' :: '\'' :: rest => finish (readLongLiteral (dropLineEnd rest))
  | '"' :: rest => finish (readBasic rest)
  | '\'' :: rest => finish (readLiteral rest)
  | _ => none
where
  /-- the characters as a string -/
  finish (r : Option (List Char × List Char)) : Option (String × List Char) :=
    r.map fun (s, rest) => (String.ofList s, rest)

end PageCache.Toml
