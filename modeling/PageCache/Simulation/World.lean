import PageCache.Config
import PageCache.Simulation.Script
import PageCache.Store.Backend

/-!
# The simulated world

A scheduler with its store, a scripted renderer, a clock that is set by hand, and virtual time. The
world can make store calls fail, and can let a foreign writer act on the store right before or after
a call; both are its own doing and no part of the scheduler.
-/

namespace PageCache.Simulation

/-- The kinds of store calls. -/
inductive StoreOp where
  | get | put | delete | list
deriving DecidableEq, Inhabited

/-- Calls of one kind fail, for some keys or for all. -/
structure Fault where
  /-- the calls that fail -/
  op : StoreOp
  /-- the message of their error -/
  message : String
  /-- the keys they fail for; all if none are given -/
  keys : Option (List Key)

/-- A foreign change of the store at the next call for a key. -/
structure Hook where
  /-- the kind of call it waits for -/
  op : StoreOp
  /-- the key it waits for -/
  key : Key
  /-- the entry it writes; if none is given it deletes the key -/
  entry : Option Entry
  /-- the generation it observed -/
  observed : Option Generation
  /-- whether the tags of a written entry are linked -/
  index : Bool

/-- A render at work. -/
structure Running where
  /-- its flight -/
  flight : TaskId
  /-- the virtual time of its end -/
  due : Nat
  /-- how it ends -/
  ending : RenderEnd

/-- The state of a simulation. -/
structure World where
  /-- the store -/
  store : Backend
  /-- the scheduler -/
  scheduler : Scheduler Source
  /-- what the scheduler's clock shows -/
  clock : Instant
  /-- the virtual time in milliseconds -/
  ms : Nat
  /-- how long a render may take, in milliseconds -/
  timeoutMs : Nat
  /-- the outcomes that are still to be played for each route -/
  scripts : SortedMap String (List Outcome)
  /-- the outcome played when a script is used up -/
  default : Outcome
  /-- how many plays there have been -/
  plays : Nat
  /-- the log of the plays, the last one first -/
  log : List String
  /-- the renders at work, the one started first in front -/
  running : List Running
  /-- the store calls that fail, one fault a kind -/
  faults : List Fault
  /-- the foreign changes to come, the oldest first -/
  hooks : List Hook
  /-- the calls that somebody waits for, by the number of the wait -/
  waits : SortedMap Nat TaskId
  /-- whether counting the next eviction breaks down -/
  recorderBroken : Bool
  /-- whether the store can be asked for its size -/
  sized : Bool

namespace World

/-- A world at the start of its time. -/
def new (store : Backend) (sized : Bool) (config : CacheConfig) (clock : Instant)
    (default : Outcome) : World where
  store
  sized
  scheduler := .new config.policy config.renderTimeout
  clock
  ms := 0
  timeoutMs := config.renderTimeoutMs
  scripts := ∅
  default
  plays := 0
  log := []
  running := []
  faults := []
  hooks := []
  waits := ∅
  recorderBroken := false

/-- The error with which a call fails, if there is a fault for it. -/
def fault? (w : World) (op : StoreOp) (key : Option Key) : Option StoreError :=
  match w.faults.find? (·.op = op) with
  | none => none
  | some f =>
    match f.keys, key with
    | none, _ => some (.unavailable f.message)
    | some ks, some k => if k ∈ ks then some (.unavailable f.message) else none
    | some _, none => none

/-- The world with the store that a write has made; says whether counting what the write pushed out
broke down. -/
def wrote (w : World) (store : Backend) : Bool × World :=
  if w.recorderBroken && w.store.evictions < store.evictions then
    (true, { w with store, recorderBroken := false })
  else (false, { w with store })

/-- Carry out a foreign change; says whether it broke down, which it does before it links any tag. -/
def change (w : World) (h : Hook) : Bool × World :=
  match h.entry with
  | none => (false, { w with store := (Store.delete w.store h.key).2 })
  | some e =>
    let (answer, store) := Store.put w.store e h.observed
    let (broke, w) := w.wrote store
    let linked := match answer with
      | .ok .stored => h.index && !broke
      | _ => false
    let index := w.scheduler.index
    (broke, { w with
      scheduler := { w.scheduler with
        index := if linked then index.replaceTags e.key e.tags else index } })

/-- Carry out the oldest foreign change that waits for a call; says whether it broke down, and the
call with it. -/
def fire (w : World) (op : StoreOp) (key : Key) : Bool × World :=
  match w.hooks.find? (fun h => h.op = op && h.key = key) with
  | none => (false, w)
  | some h =>
    let before := w.hooks.takeWhile fun h => !(h.op = op && h.key = key)
    let w := { w with hooks := before ++ w.hooks.drop (before.length + 1) }
    w.change h

/-- One move of the scheduler, if it is open. -/
def act (w : World) (m : Move Source) : World :=
  match w.scheduler.step w.store m with
  | some (scheduler, store) => { w with scheduler, store }
  | none => w

/-! ## Store calls from outside the scheduler

There is no answer if the recorder breaks down. -/

/-- Read a key. -/
def get (w : World) (k : Key) : Option (Except StoreError (Option Entry)) × World :=
  match w.fault? .get (some k) with
  | some e => (some (.error e), w)
  | none =>
    let (answer, store) := Store.get w.store k
    let (broke, w) := { w with store }.fire .get k
    (if broke then none else some answer, w)

/-- Write an entry. -/
def put (w : World) (e : Entry) (observed : Option Generation) :
    Option (Except StoreError PutOutcome) × World :=
  match w.fault? .put (some e.key) with
  | some err => (some (.error err), w)
  | none =>
    let (broke, w) := w.fire .put e.key
    if broke then (none, w)
    else
      let (answer, store) := Store.put w.store e observed
      let (broke, w) := w.wrote store
      (if broke then none else some answer, w)

/-- Delete a key. -/
def delete (w : World) (k : Key) : Option (Except StoreError Bool) × World :=
  match w.fault? .delete (some k) with
  | some e => (some (.error e), w)
  | none =>
    let (answer, store) := Store.delete w.store k
    let (broke, w) := { w with store }.fire .delete k
    (if broke then none else some answer, w)

/-- List the keys that start with a text. -/
def list (w : World) (start : String) : Except StoreError (List Key) × World :=
  match w.fault? .list none with
  | some e => (.error e, w)
  | none =>
    let (answer, store) := Store.list w.store start
    (answer, { w with store })

/-! ## Tasks -/

/-- Let a task break down, as the recorder does. -/
def breakDown (w : World) (id : TaskId) : World :=
  { w with scheduler := w.scheduler.breakDown id (Outcome.breakDownMessage "recorder broke") }

/-- Carry out the foreign change that waits for a task's call; if it breaks down, so does the task. -/
def fireFor (w : World) (id : TaskId) (op : StoreOp) (key : Key) : World :=
  let (broke, w) := w.fire op key
  if broke then w.breakDown id else w

/-- Let a task make its store call. -/
def makeCall (w : World) (id : TaskId) (c : StoreCall) : World :=
  match c with
  | .get k =>
    match w.fault? .get (some k) with
    | some e => w.act (.storeCall id c (some e))
    | none => (w.act (.storeCall id c none)).fireFor id .get k
  | .put e _ =>
    match w.fault? .put (some e.key) with
    | some err => w.act (.storeCall id c (some err))
    | none =>
      let (broke, w) := w.fire .put e.key
      if broke then w.breakDown id
      else
        let after := w.act (.storeCall id c none)
        if (w.wrote after.store).1 then { after with recorderBroken := false }.breakDown id
        else after
  | .delete k =>
    match w.fault? .delete (some k) with
    | some e => w.act (.storeCall id c (some e))
    | none => (w.act (.storeCall id c none)).fireFor id .delete k
  | .list => w.act (.storeCall id c (w.fault? .list none))

/-- The outcome that the next play of a source has. -/
def nextOutcome (w : World) (source : Source) : Outcome × World :=
  match source with
  | .loader _ o => (o, w)
  | .route r _ =>
    match w.scripts.get? r with
    | some (o :: rest) => (o, { w with scripts := w.scripts.insert r rest })
    | _ => (w.default, w)

/-- Start the render of a flight. One that takes no time ends at once; another ends at its own time
or at its time limit, whichever comes first, its own time winning a tie. -/
def startRender (w : World) (id : TaskId) (source : Source) : World :=
  let (o, w) := w.nextOutcome source
  let n := w.plays + 1
  let w := { w with plays := n, log := source.logLine n :: w.log }
  let ending := o.ending n source.name
  if o.delayMs = 0 then w.act (.render id ending w.clock)
  else if w.timeoutMs = 0 then w.act (.render id .timedOut w.clock)
  else if o.delayMs ≤ w.timeoutMs then
    { w with running := w.running ++ [⟨id, w.ms + o.delayMs, ending⟩] }
  else { w with running := w.running ++ [⟨id, w.ms + w.timeoutMs, .timedOut⟩] }

/-- Let a task make one move, if it can make one without time passing. -/
def attend (w : World) (id : TaskId) : Option World :=
  match w.scheduler.tasks[id]? with
  | none => none
  | some t =>
    match t.storeCalls with
    | c :: _ => some (w.makeCall id c)
    | [] =>
      match w.scheduler.step w.store (.proceed id w.clock) with
      | none => none
      | some (scheduler, store) =>
        let w := { w with scheduler, store }
        match scheduler.tasks[id]? with
        | some (.flight _ _ source .rendering) => some (w.startRender id source)
        | _ => some w

/-- Let a task make at most so many moves. -/
def runFor (w : World) (id : TaskId) : Nat → World
  | 0 => w
  | fuel + 1 =>
    match w.attend id with
    | some w => w.runFor id fuel
    | none => w

/-- Run a task up to where it has to wait. A task that walks over keys, those it has or those that
the store has, makes two moves for each, and any other a few. -/
def run (w : World) (id : TaskId) : World :=
  let due := match w.scheduler.tasks[id]? with
    | some t => t.storeCalls.length
    | none => 0
  w.runFor id (2 * (due + w.store.sizeBound) + 8)

/-- Run all work that needs no time: the flights in the order in which they were started, then the
calls that wait for them. -/
def settle (w : World) : World :=
  let all (w : World) : World := (List.range w.scheduler.tasks.length).foldl run w
  all (all w)

/-! ## Virtual time -/

/-- The time of the next end of a render. -/
def nextDue (w : World) : Option Nat := (w.running.map (·.due)).min?

/-- Let time pass to a moment at which renders end: end them, the one started first before the
others, and run what they set free. -/
def passTo (w : World) (moment : Nat) : World :=
  let ended := w.running.filter (·.due = moment)
  let w := { w with ms := moment, running := w.running.filter (·.due ≠ moment) }
  (ended.foldl (fun w r => w.act (.render r.flight r.ending w.clock)) w).settle

/-- Let time pass to a moment, from one end of a render to the next; at most so many of them. -/
def passUntil (w : World) (moment : Nat) : Nat → World
  | 0 => w
  | fuel + 1 =>
    match w.nextDue with
    | some due => if due ≤ moment then (w.passTo due).passUntil moment fuel else w
    | none => w

/-- Let so many milliseconds pass. -/
def advance (w : World) (n : Nat) : World :=
  let w := w.settle
  let moment := w.ms + n
  { w.passUntil moment w.running.length with ms := moment }

/-- The result of a call, once it is over. -/
def result? (w : World) (id : TaskId) : Option (Except LookupError Served) :=
  match w.scheduler.tasks[id]? with
  | some (.call _ _ (.finished r)) => some r
  | _ => none

/-- Let time pass, from one end of a render to the next, until a call is over; at most so many of
them. -/
def passFor (w : World) (id : TaskId) : Nat → World
  | 0 => w
  | fuel + 1 =>
    match w.result? id, w.nextDue with
    | none, some due => (w.passTo due).passFor id fuel
    | _, _ => w

/-- Wait for a call: run what needs no time, then let time pass. -/
def await (w : World) (id : TaskId) : World :=
  let w := w.settle
  w.passFor id w.running.length

end World

end PageCache.Simulation
