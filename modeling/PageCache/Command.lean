import PageCache.Arguments.Parser
import PageCache.Entry.Json
import PageCache.Failure
import PageCache.Settings.Sources
import PageCache.Store.Disk
import PageCache.TagIndex
import PageCache.Time.Calendar

/-!
# The maintenance program

A run of the program on a disk cache, from its arguments to what it prints and the code it ends
with. Everything it does with files is a `FileProgram`, so a run is a value like any other:

* **arguments** — if they ask for nothing that can be done, the run ends with code 2;
* **failure** — if the settings cannot be loaded or the store does not answer, it prints nothing and
  ends with code 1;
* **success** — it prints what was asked for and ends with code 0.

The keys of a tag have no order of their own, so the one in which they are removed is a `KeyOrder` that
a run is given.
-/

namespace PageCache

/-- How a run ends. -/
structure RunResult where
  /-- the code it ends with -/
  exitCode : Nat
  /-- what it prints -/
  printed : String
  /-- why it failed, for the log -/
  complaint : Option String
deriving DecidableEq, Inhabited

/-- An order in which the keys of a set are visited. -/
structure KeyOrder where
  /-- the keys of a set in this order -/
  toList : SortedSet Key → List Key
  /-- they are the keys of the set, each once -/
  perm : ∀ ks, (toList ks).Perm ks.toList

namespace KeyOrder

/-- The order of the keys' texts. -/
def sorted : KeyOrder := ⟨SortedSet.toList, fun _ => .refl _⟩

theorem nodup (order : KeyOrder) (ks : SortedSet Key) : (order.toList ks).Nodup :=
  (order.perm ks).nodup_iff.mpr ks.nodup_toList

theorem mem_iff (order : KeyOrder) {ks : SortedSet Key} {k : Key} :
    k ∈ order.toList ks ↔ k ∈ ks :=
  (order.perm ks).mem_iff.trans SortedSet.mem_toList

end KeyOrder

namespace Command

open DiskStore (andThen)

/-- A line of print. -/
def line (s : String) : String := s ++ "\n"

/-- What is told about an entry: its record, its age and freshness now, and its body if asked
for. -/
def report (policy : Policy) (now : Instant) (e : Entry) (body : Bool) : Json :=
  .obj ([
    ("key", .str e.key.text),
    ("generation", .ofNat e.generation),
    ("created_at", .str e.created.text),
    ("age_seconds", .ofNat (e.age now).secs),
    ("revalidate", e.revalidate.toJson),
    ("freshness", .str (policy.classify (some e) now).name),
    ("tags", .arr (e.tags.toList.map .str)),
    ("body_bytes", .ofNat e.body.size)] ++
    if body then [("body", .str (Utf8.textOf e.body))] else [])

/-- The index of the entries of some keys, added to an index. -/
def indexKeys (s : DiskStore) : List Key → TagIndex → FileProgram (Except StoreError TagIndex)
  | [], x => .done (.ok x)
  | k :: rest, x =>
    andThen (s.get k) fun
      | some e => indexKeys s rest (x.addEntry k e.tags)
      | none => indexKeys s rest x

/-- Delete some keys; says how many of them had an entry, added to a number. -/
def deleteKeys (s : DiskStore) : List Key → Nat → FileProgram (Except StoreError Nat)
  | [], n => .done (.ok n)
  | k :: rest, n =>
    andThen (s.delete k) fun removed => deleteKeys s rest (if removed then n + 1 else n)

/-- Carry out a command; gives what it prints. -/
def run (order : KeyOrder) (policy : Policy) (now : Instant) (s : DiskStore) :
    Command → FileProgram (Except StoreError String)
  | keys start =>
    andThen (s.list start) fun ks => .done (.ok (String.join (ks.map fun k => line k.text)))
  | inspect k body =>
    andThen (s.get k) fun
      | none => .done (.ok (line (k.text ++ ": not cached")))
      | some e => .done (.ok (line (report policy now e body).pretty))
  | purge k =>
    andThen (s.delete k) fun removed =>
      .done (.ok (line (k.text ++ (if removed then ": purged" else ": not cached"))))
  | purgeTag t =>
    andThen (s.list "") fun ks =>
      andThen (indexKeys s ks ∅) fun x =>
        andThen (deleteKeys s (order.toList (x.keysForTag t)) 0) fun n =>
          .done (.ok (line (t ++ ": purged " ++ toString n ++ " entries")))

end Command

namespace Arguments

/-- The variable of the environment that names a file of settings. -/
def configVariable : String := "RENDER_CACHE_CONFIG_FILE"

/-- Do what the arguments ask for; gives what is printed. -/
def carryOut (a : Arguments) (order : KeyOrder) (environment : Environment) (now : Instant) :
    FileProgram (Except Failure String) := do
  match ← Settings.load a.configFile environment a.overrides with
  | .error e => return .error (.settings e)
  | .ok settings =>
    match ← DiskStore.openAt (Path.ofText settings.cache.directory) with
    | .error e => return .error (.store e)
    | .ok s => return (← a.command.run order settings.cache.policy now s).mapError .store

end Arguments

/-- The name of the program with its version. -/
def versionText : String := "render-cache 0.1.0"

/-- How a run ends whose arguments ask for nothing that can be done. Asking for help or the version
is no error. -/
def ArgumentError.result : ArgumentError → RunResult
  | .versionAsked => ⟨0, Command.line versionText, none⟩
  | .helpAsked => ⟨0, "", none⟩
  | _ => ⟨2, "", none⟩

/-- A run of the program with some arguments, in an environment and at a time. Where it removes several
keys it takes them in some order. -/
def runProgramIn (order : KeyOrder) (words : List String) (environment : Environment)
    (now : Instant) : FileProgram RunResult := do
  match Arguments.parse (environment.get? Arguments.configVariable) words with
  | .error e => return e.result
  | .ok a =>
    match ← a.carryOut order environment now with
    | .error e => return ⟨1, "", some e.message⟩
    | .ok printed => return ⟨0, printed, none⟩

/-- A run that takes keys in the order of their texts. -/
def runProgram : List String → Environment → Instant → FileProgram RunResult :=
  runProgramIn .sorted

end PageCache
