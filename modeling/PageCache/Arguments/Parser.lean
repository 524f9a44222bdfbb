import PageCache.Arguments

/-!
# Reading arguments

Arguments are read from left to right on two levels: up to the command, and behind it. On each level

* a word behind two dashes is an option, its value behind an equals sign or in the next argument;
  a value that starts with a dash can only stand behind an equals sign;
* two dashes alone end the options: all that follows are operands;
* an option may be given once, its value is checked when the next thing is read on its level, or at
  the end of the level.

What stands behind the command is read and checked as a whole before the last option in front of it
is. An option given behind the command wins over the same option before it, and either wins over the
environment.
-/

namespace PageCache

/-- What has been read on one level. -/
structure Reading where
  /-- the options given so far, with their values -/
  given : List (OptionName × String)
  /-- an option whose value has not been checked, or not even been read -/
  pending : Option (OptionName × Option String)
  /-- the operand -/
  operand : Option String
deriving DecidableEq, Inhabited

namespace Reading

/-- Nothing has been read. -/
def start : Reading := ⟨[], none, none⟩

/-- Check the value of an option. -/
def check (o : OptionName) (value : String) : Except ArgumentError Unit :=
  match o with
  | .configFile | .cacheDir => if value.isEmpty then .error .noValue else .ok ()
  | .logJson => if (truthWord? value).isNone then .error .noTruthValue else .ok ()
  | _ => .ok ()

/-- Take an option with its value: it must not be there already. -/
def give (r : Reading) (o : OptionName) (value : String) : Except ArgumentError Reading := do
  if r.given.any fun g => g.1 = o then throw .givenTwice
  check o value
  return { r with given := r.given ++ [(o, value)] }

/-- Settle the option that is pending. -/
def settle (r : Reading) : Except ArgumentError Reading :=
  match r.pending with
  | none => .ok r
  | some (_, none) => .error .noValue
  | some (o, some value) => { r with pending := none }.give o value

/-- Read an option that takes no value. -/
def flag (r : Reading) (o : OptionName) : Except ArgumentError Reading := do
  let r ← r.settle
  match o with
  | .help => throw .helpAsked
  | .version => throw .versionAsked
  | o => r.give o ""

/-- Read the word of an option, with the value behind its equals sign if there is one. -/
def option (r : Reading) (level : Option CommandName) (w : String) (value : Option String) :
    Except ArgumentError Reading :=
  match OptionName.ofWord? level w with
  | none => .error .unknownArgument
  | some o =>
    match o.takesValue, value with
    | false, some _ => .error .unwantedValue
    | false, none => r.flag o
    | true, some value => do (← r.settle).give o value
    | true, none => do return { (← r.settle) with pending := some (o, none) }

/-- Read an operand. `ended` says that the options have been ended. -/
def operandOf (r : Reading) (level : Option CommandName) (ended : Bool) (a : String) :
    Except ArgumentError Reading :=
  match level with
  | none =>
    if ended && (a = "help" || (CommandName.ofWord? a).isSome) then .error .unknownArgument
    else .error .unknownCommand
  | some c =>
    if c.hasOperand && r.operand.isNone then do return { (← r.settle) with operand := some a }
    else .error .unknownArgument

/-- The word of an option and the value behind its equals sign, of an argument without its dashes. -/
def splitOption (cs : List Char) : String × Option String :=
  (String.ofList (cs.takeWhile (· ≠ '=')),
    match cs.dropWhile (· ≠ '=') with
    | [] => none
    | _ :: value => some (String.ofList value))

/-- What an argument is while the options have not been ended. -/
inductive Shape where
  /-- two dashes alone -/
  | ending
  /-- an option, with the value behind its equals sign -/
  | option (w : String) (value : Option String)
  /-- letters behind one dash, of which only the first is looked at -/
  | letter (c : Char)
  /-- anything else -/
  | plain
deriving DecidableEq

/-- The shape of an argument. -/
def Shape.of (a : String) : Shape :=
  match a.toList with
  | ['-', '-'] => .ending
  | '-' :: '-' :: cs => let (w, value) := splitOption cs; .option w value
  | '-' :: c :: _ => .letter c
  | _ => .plain

/-- Read the arguments of a level up to its end or the command. An option before the command is left
pending. -/
def scan (level : Option CommandName) (ended : Bool) (r : Reading) :
    List String → Except ArgumentError (Reading × Option (CommandName × List String))
  | [] => do return (← r.settle, none)
  | a :: rest =>
    if ended then do (← r.operandOf level true a).scan level true rest
    else
      match Shape.of a with
      | .ending => r.scan level true rest
      | .option w value => do (← r.option level w value).scan level false rest
      | .letter c =>
        match OptionName.ofLetter? level c with
        | some o => do (← r.flag o).scan level false rest
        | none => .error .unknownArgument
      | .plain =>
        match r.pending with
        | some (o, none) => { r with pending := some (o, some a) }.scan level false rest
        | _ =>
          if level = none && a = "help" then .error (helpOn rest)
          else
            match if level = none then CommandName.ofWord? a else none with
            | some c => .ok (r, some (c, rest))
            | none => do (← r.operandOf level false a).scan level false rest
where
  /-- the answer where help on some commands is asked for -/
  helpOn (words : List String) : ArgumentError :=
    match words with
    | [] => .helpAsked
    | [w] => if w = "help" || (CommandName.ofWord? w).isSome then .helpAsked else .unknownCommand
    | _ => .unknownCommand

/-- The value of an option. -/
def value? (r : Reading) (o : OptionName) : Option String := r.given.lookup o

/-- Check what the environment says of the file of settings, which counts where the level says
nothing. -/
def checkEnvironment (r : Reading) (environment : Option String) : Except ArgumentError Unit :=
  match r.value? .configFile, environment with
  | none, some value => check .configFile value
  | _, _ => .ok ()

/-- The command that a level says. -/
def command (r : Reading) (c : CommandName) : Except ArgumentError Command :=
  match c, r.operand with
  | .keys, _ => .ok (.keys ((r.value? .start).getD ""))
  | .inspect, some key => .ok (.inspect ⟨key⟩ (r.value? .body).isSome)
  | .purge, some key => .ok (.purge ⟨key⟩)
  | .purgeTag, some tag => .ok (.purgeTag tag)
  | _, none => .error .noOperand

end Reading

namespace Arguments

/-- The arguments of a run, without the name of the program. `environment` is the file of settings
that the environment names. -/
def parse (environment : Option String) (words : List String) :
    Except ArgumentError Arguments := do
  let (before, rest) ← Reading.start.scan none false words
  match rest with
  | none =>
    before.checkEnvironment environment
    if before.given.isEmpty && environment.isNone then throw .nothingAsked
    throw .noCommand
  | some (c, rest) =>
    let (behind, _) ← Reading.start.scan (some c) false rest
    behind.checkEnvironment environment
    let command ← behind.command c
    let before ← before.settle
    before.checkEnvironment environment
    let value (o : OptionName) : Option String := behind.value? o <|> before.value? o
    return {
      configFile := value .configFile <|> environment
      overrides := {
        directory := value .cacheDir
        level := value .logLevel
        json := (value .logJson).bind truthWord? }
      command }

end Arguments

end PageCache
