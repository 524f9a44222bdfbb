import PageCache.Scheduler
import PageCache.Text.Quoted

/-!
# Scripted renders

A simulated renderer plays outcomes from a script. Every play has a number, counted from 1, and the
texts of an outcome may name it and the route that is rendered.
-/

namespace PageCache.Simulation

/-- What one render is to do. -/
structure Outcome where
  /-- the bytes of the body, taken as they are -/
  bytes : Option ByteArray
  /-- the pattern of the body -/
  body : Option String
  /-- the tags of the output -/
  tags : List Tag
  /-- how the output ages -/
  revalidate : Revalidate
  /-- how long the render takes, in milliseconds -/
  delayMs : Nat
  /-- the pattern of the failure it reports -/
  fail : Option String
  /-- the pattern of the message it breaks down with -/
  breakDown : Option String

instance : Inhabited Outcome := ⟨⟨none, none, [], .never, 0, none, none⟩⟩

/-- What a flight renders from. -/
inductive Source where
  /-- the renderer, for a route and its parameters -/
  | route (route : String) (params : SortedMap String String)
  /-- a loader of the caller's own, which plays one outcome -/
  | loader (name : String) (outcome : Outcome)

/-- The name a source is logged under. -/
def Source.name : Source → String
  | route r _ => r
  | loader n _ => n

/-- The log line of the `n`-th play. -/
def Source.logLine (n : Nat) : Source → String
  | route r params =>
    let pairs := params.toList.map fun p => p.1 ++ "=" ++ p.2
    "#" ++ toString n ++ " " ++ r ++ " [" ++ ",".intercalate pairs ++ "]"
  | loader name _ => "#" ++ toString n ++ " " ++ name ++ " []"

/-- A pattern with the number and then the route filled in. -/
def fill (n : Nat) (route pattern : String) : String :=
  (pattern.replace "\x7bn\x7d" (toString n)).replace "\x7broute\x7d" route

namespace Outcome

/-- The text of a task's break-down. -/
def breakDownMessage (m : String) : String := "task # panicked with message " ++ Quoted.quote m

/-- The body of the `n`-th play. -/
def bodyOf (o : Outcome) (n : Nat) (route : String) : ByteArray :=
  match o.bytes with
  | some b => b
  | none => (fill n route (o.body.getD "\x7broute\x7d #\x7bn\x7d")).toUTF8

/-- How the `n`-th play ends, if it is given the time. -/
def ending (o : Outcome) (n : Nat) (route : String) : RenderEnd :=
  match o.breakDown, o.fail with
  | some m, _ => .brokeDown (breakDownMessage (fill n route m))
  | none, some m => .failed (.failed (fill n route m))
  | none, none => .output ⟨o.bodyOf n route, .ofList o.tags, o.revalidate⟩

end Outcome

end PageCache.Simulation
