import PageCache.Config
import PageCache.Text.Number

/-!
# Settings

What a program that works on a cache is told: the configuration of the cache, and how to log. Where
the values come from is not settled here; `Settings.ofDraft` is the last step for all of them, and
refuses a draft with a value that no cache can work with.
-/

namespace PageCache

/-- How much is logged: all that is at least as severe. -/
inductive LogLevel where
  | off | error | warn | info | debug | trace
deriving DecidableEq, Inhabited

namespace LogLevel

/-- The word for a level. -/
def name : LogLevel → String
  | off => "off"
  | error => "error"
  | warn => "warn"
  | info => "info"
  | debug => "debug"
  | trace => "trace"

/-- All levels, from the one that logs nothing to the one that logs all. -/
def all : List LogLevel := [off, error, warn, info, debug, trace]

/-- The level that a text names: its place among all, or its word in any case; an empty text stands
for errors only. -/
def ofText? (text : String) : Option LogLevel :=
  match (natural? 18446744073709551616 text).bind (all[·]?) with
  | some level => some level
  | none =>
    if text.isEmpty then some error
    else all.find? fun level => level.name = text.map Char.toLower

end LogLevel

/-- How a log line is written. -/
inductive LogFormat where
  | json | compact
deriving DecidableEq, Inhabited

/-- The word for a format. -/
def LogFormat.name : LogFormat → String
  | .json => "json"
  | .compact => "compact"

/-- Why there are no settings. -/
inductive LoadError where
  /-- a source cannot be read, or a value in it is not of its kind -/
  | unreadable
  /-- a value is of its kind, but no cache can work with it -/
  | invalid (key : String) (reason : String)
deriving DecidableEq, Inhabited

/-- The text of an error of the settings. -/
def LoadError.message : LoadError → String
  | .unreadable => "failed to build configuration"
  | .invalid key reason => "invalid configuration for `" ++ key ++ "`: " ++ reason

/-- Settings as they were put together, before anything is checked. -/
structure Draft where
  /-- the configuration of the cache -/
  cache : CacheConfig
  /-- the text of the log level, if one is set -/
  level : Option String
  /-- whether to log JSON, if that is set -/
  json : Option Bool
deriving DecidableEq, Inhabited

/-- The draft where nothing is set. -/
def Draft.default : Draft := ⟨CacheConfig.default, none, none⟩

/-- What is set for one run only, over all other sources. -/
structure Overrides where
  /-- the folder of the cache -/
  directory : Option String
  /-- the text of the log level -/
  level : Option String
  /-- whether to log JSON -/
  json : Option Bool
deriving DecidableEq, Inhabited

/-- The draft with the overrides in place. -/
def Draft.override (d : Draft) (o : Overrides) : Draft where
  cache := { d.cache with directory := o.directory.getD d.cache.directory }
  level := o.level <|> d.level
  json := o.json <|> d.json

/-- Checked settings. -/
structure Settings where
  /-- the configuration of the cache -/
  cache : CacheConfig
  /-- how much is logged -/
  level : LogLevel
  /-- how it is written -/
  format : LogFormat
deriving DecidableEq, Inhabited

namespace Settings

/-- What is said of a log level that is none. -/
def levelReason : String :=
  "failed to parse: error parsing level filter: expected one of \"off\", \"error\", \"warn\", " ++
    "\"info\", \"debug\", \"trace\", or a number 0-5"

/-- The level of a draft: information where none is set. -/
def levelOf (d : Draft) : Except LoadError LogLevel :=
  match d.level with
  | none => .ok .info
  | some text =>
    match LogLevel.ofText? text with
    | some level => .ok level
    | none => .error (.invalid "logging.level" levelReason)

/-- The settings of a draft, checked in order: a render has some time, the folder has a name, the
level is one. -/
def ofDraft (d : Draft) : Except LoadError Settings :=
  if d.cache.renderTimeoutMs = 0 then
    .error (.invalid "cache.render_timeout_ms" "must be greater than zero")
  else if d.cache.directory.isEmpty then
    .error (.invalid "cache.directory" "must not be empty")
  else
    (levelOf d).map fun level =>
      { cache := d.cache, level, format := if d.json.getD false then .json else .compact }

end Settings

end PageCache
