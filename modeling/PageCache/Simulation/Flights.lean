import PageCache.FlightTable
import PageCache.Lookup
import PageCache.Metrics
import PageCache.Simulation.Script

/-!
# Flights on their own

A simulation of single flight without a scheduler: callers ask for a key with some work of their
own, and the work of the caller that leads is what everyone gets. Work begins when the simulation
settles and takes its time from then on.
-/

namespace PageCache.Simulation

/-- Work that a caller brings along. -/
structure Work where
  /-- how long it takes, in milliseconds -/
  delayMs : Nat
  /-- what it gives -/
  result : Except LookupError Entry

/-- A flight that somebody leads. -/
structure Flying where
  /-- its number -/
  id : FlightId
  /-- its key -/
  key : Key
  /-- the work of its leader -/
  work : Work
  /-- when it ends, once it has begun -/
  due : Option Nat

/-- The state of such a simulation. -/
structure Field where
  /-- the flights under way, by key -/
  table : FlightTable
  /-- the flights under way, the one started first in front -/
  flying : List Flying
  /-- the results of the flights that are over -/
  results : List (FlightId × Except LookupError Entry)
  /-- the flights that somebody waits for, by the number of the wait -/
  waits : SortedMap Nat FlightId
  /-- the number of flights started -/
  invoked : Nat
  /-- the number of flights whose work has run its time -/
  finished : Nat
  /-- the number of callers that joined a flight -/
  joined : Nat
  /-- the virtual time -/
  ms : Nat

namespace Field

/-- A field at the start of its time. -/
def new : Field := ⟨.empty, [], [], ∅, 0, 0, 0, 0⟩

/-- Ask for a key, and wait for its flight under a number if one is given. -/
def request (x : Field) (k : Key) (work : Work) (wait : Option Nat) : Ticket × Field :=
  let (ticket, table) := x.table.board k x.invoked
  let x := { x with table }
  let x :=
    if ticket.leader then
      { x with flying := x.flying ++ [⟨ticket.flight, k, work, none⟩], invoked := x.invoked + 1 }
    else { x with joined := x.joined + 1 }
  match wait with
  | some n => (ticket, { x with waits := x.waits.insert n ticket.flight })
  | none => (ticket, x)

/-- Begin the work of all flights that have not begun. -/
def launch (x : Field) : Field :=
  { x with flying := x.flying.map fun f =>
      { f with due := some (f.due.getD (x.ms + f.work.delayMs)) } }

/-- End a flight. -/
def land (x : Field) (f : Flying) : Field :=
  { x with
    table := x.table.clear f.key f.id
    flying := x.flying.filter (·.id ≠ f.id)
    results := (f.id, f.work.result) :: x.results
    finished := x.finished + 1 }

/-- Begin all work, and end the flights whose time has come. -/
def settle (x : Field) : Field :=
  let x := x.launch
  (x.flying.filter fun f => f.due.any (· ≤ x.ms)).foldl land x

/-- The time at which the next flight ends. -/
def nextDue (x : Field) : Option Nat := (x.flying.filterMap (·.due)).min?

/-- Let time pass to a moment, from one end to the next; at most so many of them. -/
def passUntil (x : Field) (moment : Nat) : Nat → Field
  | 0 => x
  | fuel + 1 =>
    match x.nextDue with
    | some due => if due ≤ moment then ({ x with ms := due }.settle).passUntil moment fuel else x
    | none => x

/-- Let so many milliseconds pass. -/
def advance (x : Field) (n : Nat) : Field :=
  let x := x.settle
  let moment := x.ms + n
  { x.passUntil moment x.flying.length with ms := moment }

/-- The result of a flight that is over. -/
def result? (x : Field) (f : FlightId) : Option (Except LookupError Entry) :=
  (x.results.find? (·.1 = f)).map (·.2)

/-- Let time pass, from one end to the next, until a flight is over; at most so many of them. -/
def passFor (x : Field) (f : FlightId) : Nat → Field
  | 0 => x
  | fuel + 1 =>
    match x.result? f, x.nextDue with
    | none, some due => ({ x with ms := due }.settle).passFor f fuel
    | _, _ => x

/-- Wait for a flight. -/
def await (x : Field) (f : FlightId) : Field :=
  let x := x.settle
  x.passFor f x.flying.length

/-- Take the results of the waits whose flights are over. -/
def takeDone (x : Field) : List (Nat × Except LookupError Entry) × Field :=
  let done := x.waits.toList.filterMap fun (wait, f) => (x.result? f).map fun r => (wait, r)
  (done, { x with waits := done.foldl (fun m d => m.erase d.1) x.waits })

end Field

/-- One step. -/
inductive FieldStep where
  | run (k : Key) (work : Work) (wait : Option Nat)
  | wait (n : Nat)
  | drop (n : Nat)
  | advance (ms : Nat)
  | settle

/-- What a step gives. -/
inductive FieldReply where
  | none
  | ticket (t : Ticket)
  | flag (b : Bool)
  | result (r : Except LookupError Entry)
  | refused (message : String)

/-- What can be seen after a step. -/
structure FieldReport where
  /-- what the step gave -/
  reply : FieldReply
  /-- the waits that came to an end -/
  done : List (Nat × Except LookupError Entry)
  /-- the keys with a flight under way -/
  inFlight : List Key
  /-- the number of flights started -/
  invoked : Nat
  /-- the number of flights whose work has run its time -/
  finished : Nat
  /-- the virtual time -/
  ms : Nat
  /-- how many callers joined a flight since the last report -/
  joined : Nat

namespace Field

/-- The reply of a step, and the field after it. -/
def perform (x : Field) : FieldStep → FieldReply × Field
  | .run k work wait =>
    if wait.any x.waits.contains then (.refused "id: already waiting", x)
    else let (t, x) := x.request k work wait; (.ticket t, x)
  | .wait n =>
    match x.waits.get? n with
    | none => (.refused "id: not waiting", x)
    | some f =>
      let x := x.await f
      match x.result? f with
      | some r => (.result r, { x with waits := x.waits.erase n })
      | none => (.none, x)
  | .drop n => (.flag (x.waits.contains n), { x with waits := x.waits.erase n })
  | .advance n => (.none, x.advance n)
  | .settle => (.none, x.settle)

/-- One step and its report. After the step everything that needs no time is run, unless the step is
to stand alone. -/
def step (x : Field) (s : FieldStep) (settling : Bool) : FieldReport × Field :=
  let before := x.joined
  let (reply, x) := x.perform s
  let x := if settling then x.settle else x
  let (done, x) := x.takeDone
  ({ reply, done, inFlight := x.table.records.keys, invoked := x.invoked, finished := x.finished,
     ms := x.ms, joined := x.joined - before }, x)

end Field

end PageCache.Simulation
