import PageCache.Lookup
import PageCache.Settings

/-!
# Failures of a program

What can end a program that works on a cache: its settings, its log or its store.
-/

namespace PageCache

/-- Why a program ended early. -/
inductive Failure where
  /-- the store did not answer -/
  | store (e : StoreError)
  /-- there are no settings -/
  | settings (e : LoadError)
  /-- logging could not be started -/
  | telemetry (message : String)
deriving DecidableEq, Inhabited

namespace Failure

/-- The text of a failure: that of its cause where it has one. -/
def message : Failure → String
  | store e => e.message
  | settings e => e.message
  | telemetry m => "telemetry initialization failed: " ++ m

/-- The failure of a second start of the log, which a process can only start once. -/
def startedTwice : Failure :=
  telemetry ("failed to install tracing subscriber: " ++
    "a global default trace dispatcher has already been set")

end Failure

end PageCache
