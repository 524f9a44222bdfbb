import PageCache.Key
import PageCache.Settings

/-!
# Arguments of the maintenance program

What the program can be asked to do, and what can be set for one run. The options of `Overrides` and
the file of settings may stand before the command or behind it; the other options belong to one
command.
-/

namespace PageCache

/-- What the program is asked to do. -/
inductive Command where
  /-- list the keys that start with a text -/
  | keys (start : String)
  /-- show the entry of a key, with its body if asked -/
  | inspect (key : Key) (body : Bool)
  /-- delete the entry of a key -/
  | purge (key : Key)
  /-- delete the entries of a tag -/
  | purgeTag (tag : Tag)
deriving DecidableEq, Inhabited

/-- The arguments of a run. -/
structure Arguments where
  /-- the name of a file of settings -/
  configFile : Option String
  /-- what is set for this run -/
  overrides : Overrides
  /-- what to do -/
  command : Command
deriving DecidableEq, Inhabited

/-- Why some arguments ask for nothing that can be done. -/
inductive ArgumentError where
  /-- help is asked for -/
  | helpAsked
  /-- the version is asked for -/
  | versionAsked
  /-- there are no arguments -/
  | nothingAsked
  /-- there is no command -/
  | noCommand
  /-- a word is no command -/
  | unknownCommand
  /-- an argument has no meaning where it stands -/
  | unknownArgument
  /-- an option is given twice -/
  | givenTwice
  /-- an option has no value, or an empty one where that means nothing -/
  | noValue
  /-- an option that takes no value is given one -/
  | unwantedValue
  /-- a value is no truth value -/
  | noTruthValue
  /-- the command lacks its operand -/
  | noOperand
deriving DecidableEq, Inhabited

/-- The name of a command. -/
inductive CommandName where
  | keys | inspect | purge | purgeTag
deriving DecidableEq, Inhabited

namespace CommandName

/-- The word by which a command is asked for. -/
def word : CommandName → String
  | keys => "keys"
  | inspect => "show"
  | purge => "purge"
  | purgeTag => "purge-tag"

/-- All commands. -/
def all : List CommandName := [keys, inspect, purge, purgeTag]

/-- The command that a word asks for. -/
def ofWord? (w : String) : Option CommandName := all.find? fun c => c.word = w

/-- Whether a command works on one operand. -/
def hasOperand : CommandName → Bool
  | keys => false
  | inspect | purge | purgeTag => true

end CommandName

/-- An option. -/
inductive OptionName where
  | configFile | cacheDir | logLevel | logJson | start | body | help | version
deriving DecidableEq, Inhabited

namespace OptionName

/-- The word of an option, which stands behind two dashes. -/
def word : OptionName → String
  | configFile => "config-file"
  | cacheDir => "cache-dir"
  | logLevel => "log-level"
  | logJson => "log-json"
  | start => "prefix"
  | body => "body"
  | help => "help"
  | version => "version"

/-- The letter of an option, which stands behind one dash. -/
def letter? : OptionName → Option Char
  | help => some 'h'
  | version => some 'V'
  | _ => none

/-- All options. -/
def all : List OptionName :=
  [configFile, cacheDir, logLevel, logJson, start, body, help, version]

/-- Whether an option may stand behind a command, or, where there is none, before it. -/
def allowed (level : Option CommandName) : OptionName → Bool
  | configFile | cacheDir | logLevel | logJson | help => true
  | start => level = some .keys
  | body => level = some .inspect
  | version => level = none

/-- Whether an option takes a value. -/
def takesValue : OptionName → Bool
  | configFile | cacheDir | logLevel | logJson | start => true
  | body | help | version => false

/-- The option of a word. -/
def ofWord? (level : Option CommandName) (w : String) : Option OptionName :=
  all.find? fun o => o.allowed level && o.word = w

/-- The option of a letter. -/
def ofLetter? (level : Option CommandName) (c : Char) : Option OptionName :=
  all.find? fun o => o.allowed level && o.letter? = some c

end OptionName

/-- The truth value that a word in any case stands for. -/
def truthWord? (w : String) : Option Bool :=
  let w := w.map Char.toLower
  if w ∈ ["y", "yes", "t", "true", "on", "1"] then some true
  else if w ∈ ["n", "no", "f", "false", "off", "0"] then some false
  else none

end PageCache
