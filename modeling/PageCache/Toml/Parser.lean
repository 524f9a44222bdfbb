import PageCache.Toml.Scalar
import PageCache.Toml.Statement
import PageCache.Toml.Text
import PageCache.Toml.TimeTable

/-!
# Reading TOML

A recursive descent over the characters, statement by statement. Each reader takes the text ahead of
it and gives what it read with the text that is left, or nothing if the text is ill-formed there.
-/

namespace PageCache.Toml

/-- The text without the blanks at its start. -/
def skipBlank (cs : List Char) : List Char := cs.dropWhile isBlank

/-- The text after a comment, if one starts it: the end of its line. -/
def skipComment (cs : List Char) : Option (List Char) :=
  match cs with
  | '#' :: rest =>
    let inLine (c : Char) : Bool := isPrintable c
    match rest.dropWhile inLine with
    | [] => some []
    | '\n' :: rest => some ('\n' :: rest)
    | '\r' :: '\n' :: rest => some ('\n' :: rest)
    | _ => none
  | cs => some cs

/-- The text after the end of a line, before which only blanks and a comment may stand. -/
def endLine (cs : List Char) : Option (List Char) := do
  match ← skipComment (skipBlank cs) with
  | [] => some []
  | '\n' :: rest => some rest
  | '\r' :: '\n' :: rest => some rest
  | _ => none

/-- The text after blanks, line ends and comments; `remark` says that it begins within a comment. -/
def skipGapFrom (remark : Bool) : List Char → Option (List Char)
  | [] => some []
  | '\n' :: rest => skipGapFrom false rest
  | '\r' :: '\n' :: rest => skipGapFrom false rest
  | c :: rest =>
    if remark then if isPrintable c then skipGapFrom true rest else none
    else if isBlank c then skipGapFrom false rest
    else if c = '#' then skipGapFrom true rest
    else some (c :: rest)

/-- The text after blanks, line ends and comments. -/
def skipGap (cs : List Char) : Option (List Char) := skipGapFrom false cs

/-- One part of a key: a plain name, or a string on one line. -/
def readName (cs : List Char) : Option (String × List Char) :=
  match cs with
  | '"' :: rest => (readBasic rest).map fun (s, r) => (String.ofList s, r)
  | '\'' :: rest => (readLiteral rest).map fun (s, r) => (String.ofList s, r)
  | cs => SettingStep.readName cs

/-- The parts of a dotted key, at least one, blanks allowed around them. The fuel bounds their
number. -/
def readNames (fuel : Nat) (cs : List Char) : Option (List String × List Char) :=
  match fuel with
  | 0 => none
  | fuel + 1 => do
    let (name, rest) ← readName (skipBlank cs)
    match skipBlank rest with
    | '.' :: rest =>
      let (names, rest) ← readNames fuel rest
      return (name :: names, rest)
    | rest => return ([name], rest)

/-- How many parts a key may have, and how deep the brackets of a value may nest. -/
def depthLimit : Nat := 80

/-- A dotted key. -/
def readKey (cs : List Char) : Option (List String × List Char) := readNames depthLimit cs

/-- A reader of values: what it takes is ahead of it. -/
abbrev ValueReader := List Char → Option (ConfigValue × List Char)

/-- The items up to the closing bracket; a comma may stand after the last one. The fuel bounds their
number. -/
def readItems (value : ValueReader) (fuel : Nat) (cs : List Char) :
    Option (List ConfigValue × List Char) :=
  match fuel with
  | 0 => none
  | fuel + 1 =>
    match skipGap cs with
    | none => none
    | some (']' :: rest) => some ([], rest)
    | some cs =>
      match value cs with
      | none => none
      | some (v, rest) =>
        match skipGap rest with
        | some (',' :: rest) => (readItems value fuel rest).map fun (vs, r) => (v :: vs, r)
        | some (']' :: rest) => some ([v], rest)
        | _ => none

/-- A key, an equals sign and a value, between which comments and line ends may stand. -/
def readField (value : ValueReader) (cs : List Char) :
    Option ((List String × ConfigValue) × List Char) := do
  let (key, rest) ← readKey cs
  match ← skipGap rest with
  | '=' :: rest =>
    let (v, rest) ← value (← skipGap rest)
    return ((key, v), rest)
  | _ => none

/-- The fields up to the closing brace, added to those read so far. Comments and line ends may stand
anywhere but within a key, and a comma after the last field. The fuel bounds their number. -/
def readFields (value : ValueReader) (fuel : Nat) (fields : Fields) (cs : List Char) :
    Option (Fields × List Char) :=
  match fuel with
  | 0 => none
  | fuel + 1 =>
    match skipGap cs with
    | none => none
    | some ('}' :: rest) => some (fields, rest)
    | some cs =>
      match readField value cs with
      | none => none
      | some ((key, v), rest) =>
        match assign fields v key, skipGap rest with
        | some fields, some (',' :: rest) => readFields value fuel fields rest
        | some fields, some ('}' :: rest) => some (fields, rest)
        | _, _ => none

/-- A value, with brackets nested up to a depth. -/
def readValueWithin (depth : Nat) (cs : List Char) : Option (ConfigValue × List Char) :=
  match depth, cs with
  | 0, '[' :: _ => none
  | 0, '{' :: _ => none
  | depth + 1, '[' :: rest =>
    (readItems (readValueWithin depth) (rest.length + 1) rest).map fun (vs, r) => (.list vs, r)
  | depth + 1, '{' :: rest =>
    (readFields (readValueWithin depth) (rest.length + 1) [] rest).map fun (fs, r) =>
      (.table (fieldValues fs), r)
  | _, cs =>
    match readString cs with
    | some (s, r) => some (.text s, r)
    | none =>
      let (w, r) := word cs
      (scalar? w).map fun v => (v, r)

/-- A value. -/
def readValue (cs : List Char) : Option (ConfigValue × List Char) := readValueWithin depthLimit cs

/-- A key in brackets, as the path to a table and its name. -/
def readHeader (cs : List Char) : Option ((List String × String) × List Char) :=
  match readKey cs with
  | some (key, ']' :: rest) => some ((key.dropLast, key.getLast?.getD ""), rest)
  | _ => none

/-- A statement without the end of its line. -/
def readStatement (cs : List Char) : Option (Statement × List Char) :=
  match cs with
  | '[' :: '[' :: rest =>
    match readHeader rest with
    | some ((path, name), ']' :: rest) => some (.row path name, rest)
    | _ => none
  | '[' :: rest => (readHeader rest).map fun ((path, name), r) => (.header path name, r)
  | cs =>
    match readKey cs with
    | some (key, '=' :: rest) =>
      (readValue (skipBlank rest)).map fun (v, r) => (.assign key v, r)
    | _ => none

/-- The statements of a text. The fuel bounds their number. -/
def readStatements (fuel : Nat) (cs : List Char) : Option (List Statement) :=
  match fuel with
  | 0 => none
  | fuel + 1 => do
    match ← skipGap cs with
    | [] => return []
    | cs =>
      let (s, rest) ← readStatement cs
      return s :: (← readStatements fuel (← endLine rest))

/-- The settings that a text holds. The mark of an encoding may stand before them. -/
def parse (text : String) : Option ConfigValue.Fields := do
  let cs := match text.toList with
    | '\ufeff' :: rest => rest
    | cs => cs
  let fields ← Document.settings? (← readStatements (cs.length + 1) cs)
  match ← withTimes (.table fields) with
  | .table fields => some fields
  | _ => none

end PageCache.Toml
