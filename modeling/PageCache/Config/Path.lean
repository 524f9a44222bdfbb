import PageCache.Text.Number

/-!
# Paths to settings

A setting is named by the way to it from the top: plain names with points between them, and positions
in lists, which stand in brackets behind a name. A position is counted from the start of the list,
or, below zero, from its end.
-/

namespace PageCache

/-- One step of a path. -/
inductive SettingStep where
  /-- to the value of a name -/
  | name (name : String)
  /-- to the value at a position -/
  | position (index : Int)
deriving DecidableEq, Inhabited

namespace SettingStep

/-- Whether a character may stand in a plain name. -/
def isNameChar (c : Char) : Bool := c.isAlphanum || c = '_' || c = '-'

/-- A plain name at the start of a text, and the rest. -/
def readName (cs : List Char) : Option (String × List Char) :=
  match cs.takeWhile isNameChar with
  | [] => none
  | s => some (String.ofList s, cs.dropWhile isNameChar)

/-- A position with its closing bracket, blanks allowed around the number, which has to fit into
sixty-four bits. -/
def readPosition (cs : List Char) : Option (Int × List Char) :=
  let isBlank (c : Char) : Bool := c = ' ' || c = '\t'
  let cs := cs.dropWhile isBlank
  let (negative, cs) := match cs with
    | '-' :: rest => (true, rest)
    | rest => (false, rest)
  let digits := cs.takeWhile Char.isDigit
  let n : Int := digitsValue 10 decimalDigit digits
  match digits, (cs.dropWhile Char.isDigit).dropWhile isBlank with
  | _ :: _, ']' :: rest =>
    if negative then if n ≤ 9223372036854775808 then some (-n, rest) else none
    else if n < 9223372036854775808 then some (n, rest) else none
  | _, _ => none

/-- The steps behind the first name. The fuel bounds their number. -/
def readRest (fuel : Nat) (cs : List Char) : Option (List SettingStep) :=
  match fuel, cs with
  | _, [] => some []
  | fuel + 1, '.' :: rest => do
    let (s, rest) ← readName rest
    return .name s :: (← readRest fuel rest)
  | fuel + 1, '[' :: rest => do
    let (n, rest) ← readPosition rest
    return .position n :: (← readRest fuel rest)
  | _, _ => none

end SettingStep

/-- The path that a text writes, or a single step to the whole text as a name if it writes none. -/
def settingPath (text : String) : List SettingStep :=
  match SettingStep.readName text.toList with
  | none => [.name text]
  | some (s, rest) =>
    match SettingStep.readRest rest.length rest with
    | none => [.name text]
    | some steps => .name s :: steps

end PageCache
