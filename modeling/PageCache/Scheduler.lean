import PageCache.Metrics
import PageCache.Policy
import PageCache.Scheduler.Task

/-!
# The scheduler

One scheduler serves lookups from a store, regenerates entries behind or before the answer, and
invalidates by key and by tag. It is a state machine: `Scheduler.step` makes one move of one task,
and a run is any sequence of moves, so whatever holds after every sequence holds for every way in
which concurrent callers can interleave.

* **serving** — a fresh entry is served, a stale one is served with a flight behind it, and only an
  expired or missing one makes the caller wait;
* **regenerating** — all renders of a key go through its one flight, and an entry is committed only
  over the generation for which its flight was started;
* **failing** — a store that fails changes nothing, and what a move may meet (a failing store, the
  end of a render, the clock) is part of the move.
-/

namespace PageCache

/-- How a render ends. -/
inductive RenderEnd where
  /-- it gives an output -/
  | output (o : RenderOutput)
  /-- it reports a failure -/
  | failed (e : RenderError)
  /-- it is not done in time -/
  | timedOut
  /-- it breaks down -/
  | brokeDown (message : String)

/-- The state of a scheduler, the store apart. -/
structure Scheduler (ρ : Type) where
  /-- how entries age -/
  policy : Policy
  /-- how long a render may take -/
  renderTimeout : Duration
  /-- tags and keys -/
  index : TagIndex
  /-- the flights under way -/
  flights : FlightTable
  /-- what has been counted -/
  metrics : Metrics
  /-- all tasks so far, by number -/
  tasks : List (Task ρ)

/-- A move of a scheduler: something new is asked of it, or one of its tasks goes on. -/
inductive Move (ρ : Type) where
  /-- look a key up -/
  | lookup (key : Key) (source : ρ)
  /-- invalidate a key -/
  | invalidateKey (key : Key)
  /-- invalidate a tag -/
  | invalidateTag (tag : Tag)
  /-- ask for the live keys of a tag -/
  | survey (tag : Tag)
  /-- compact the tag index -/
  | compact
  /-- rebuild the tag index -/
  | rebuild
  /-- a task makes its store call, for the key it visits, and the store may fail without effect -/
  | storeCall (task : TaskId) (call : StoreCall) (fault : Option StoreError)
  /-- a task goes on without the store -/
  | proceed (task : TaskId) (now : Instant)
  /-- the render of a flight ends -/
  | render (flight : TaskId) (ending : RenderEnd) (now : Instant)
  /-- the caller of a lookup gives up -/
  | abandon (task : TaskId)

namespace Scheduler

variable {ρ : Type}

/-- A scheduler that has done nothing yet. -/
def new (policy : Policy) (renderTimeout : Duration) : Scheduler ρ where
  policy
  renderTimeout
  index := ∅
  flights := .empty
  metrics := .zero
  tasks := []

/-- Add a task. -/
def spawn (s : Scheduler ρ) (t : Task ρ) : Scheduler ρ := { s with tasks := s.tasks ++ [t] }

/-- Put a task into another phase. -/
def setTask (s : Scheduler ρ) (id : TaskId) (t : Task ρ) : Scheduler ρ :=
  { s with tasks := s.tasks.set id t }

/-- Count one more of a metric. -/
def bump (s : Scheduler ρ) (m : Metric) : Scheduler ρ := { s with metrics := s.metrics.bump m }

/-- The result of a flight, once it is over. -/
def flightResult? (s : Scheduler ρ) (f : FlightId) : Option (Except LookupError Entry) :=
  s.tasks[f]?.bind Task.flightResult?

/-- Join the flight of a key, or start one for what was observed of the key. -/
def dispatch (s : Scheduler ρ) (k : Key) (observed : Option Generation) (source : ρ) :
    FlightId × Scheduler ρ :=
  match s.flights.board k s.tasks.length with
  | (⟨f, true⟩, flights) => (f, { s with flights }.spawn (.flight k observed source .checking))
  | (⟨f, false⟩, flights) => (f, { s with flights }.bump .joined)

/-! ## Calls -/

/-- What a call becomes by what it read, at the time `now`. -/
def decide (s : Scheduler ρ) (k : Key) (source : ρ) (found : Option Entry) (now : Instant) :
    Call × Scheduler ρ :=
  match found with
  | none =>
    let (f, s) := s.dispatch k none source
    (.waiting none f, s)
  | some e =>
    let freshness := s.policy.classify (some e) now
    if !freshness.needsRegeneration then
      (.finished (.ok (.ofEntry e .hit)), s.bump (.lookup .hit))
    else
      let (f, s) := s.dispatch k (some e.generation) source
      if freshness.blocks then (.waiting (some e) f, s)
      else
        (.finished (.ok { Served.ofEntry e .stale with revalidating := true }),
          s.bump (.lookup .stale))

/-- What a waiting call gives its caller when its flight is over. -/
def receive (found : Option Entry) (result : Except LookupError Entry) :
    Except LookupError Served × LookupOutcome :=
  match found, result with
  | none, .ok fresh => (.ok (.ofEntry fresh .miss), .miss)
  | none, .error err => (.error err, .error)
  | some _, .ok fresh => (.ok (.ofEntry fresh .expired), .expired)
  | some e, .error err => (.ok { Served.ofEntry e .expired with degraded := some err }, .degraded)

/-! ## Flights -/

/-- What a flight becomes by what it read: superseded if the key has a fresh entry of another
generation than the observed one, else it renders. -/
def recheck (s : Scheduler ρ) (observed : Option Generation) (found : Option Entry)
    (now : Instant) : Flight × Scheduler ρ :=
  match found with
  | some e =>
    if some e.generation ≠ observed ∧ s.policy.classify (some e) now = .fresh then
      (.ending (.ok e), s.bump (.regeneration .superseded))
    else (.rendering, s)
  | none => (.rendering, s)

/-- The entry that a flight commits: the first generation of an absent key, else the one after the
observed generation.

A machine counts in sixty-four bits and has none after `2 ^ 64 - 1`. Built with checks the flight
breaks down there. Built without, it goes on with `0`, which is not beyond what was observed, so that
every store refuses the write and the flight ends as after any conflict. Here the generation is
`2 ^ 64`, which a store in memory takes and one in a folder has no room for. -/
def entryOf (k : Key) (observed : Option Generation) (o : RenderOutput) (now : Instant) : Entry where
  key := k
  body := o.body
  created := now
  revalidate := o.revalidate
  tags := o.tags
  generation := match observed with
    | some g => g + 1
    | none => 1

/-- What a flight becomes when its render ends. -/
def rendered (s : Scheduler ρ) (k : Key) (observed : Option Generation) (ending : RenderEnd)
    (now : Instant) : Flight × Scheduler ρ :=
  match ending with
  | .output o => (.committing (entryOf k observed o now), s.bump .renderTime)
  | .failed e => (.ending (.error (.render e)), s.bump (.regeneration .failed))
  | .timedOut =>
    (.ending (.error (.render (.timeout s.renderTimeout))), s.bump (.regeneration .failed))
  | .brokeDown m => (.ending (.error (.render (.aborted m))), s)

/-- What a flight becomes by the store's answer to its write. -/
def written (s : Scheduler ρ) (e : Entry) (answer : Except StoreError PutOutcome) :
    Flight × Scheduler ρ :=
  match answer with
  | .ok .stored => (.committed e, s)
  | .ok (.conflict _) => (.ending (.ok e), s.bump (.regeneration .conflict))
  | .error err => (.ending (.error (.store err)), s)

/-! ## One move -/

/-- Take the store's answer to a reading. -/
def answerGet (s : Scheduler ρ) (id : TaskId) (t : Task ρ) (k : Key)
    (answer : Except StoreError (Option Entry)) : Option (Scheduler ρ) :=
  match t with
  | .call key source .reading =>
    match answer with
    | .ok found => some (s.setTask id (.call key source (.read found)))
    | .error e =>
      some ((s.bump (.lookup .error)).setTask id
        (.call key source (.finished (.error (.store e)))))
  | .flight key observed source .checking =>
    match answer with
    | .ok found => some (s.setTask id (.flight key observed source (.checked found)))
    | .error e =>
      some (s.setTask id (.flight key observed source (.ending (.error (.store e)))))
  | .survey p => (p.visit k answer).map fun p => s.setTask id (.survey p)
  | .compaction c => (c.visit k answer).map fun c => s.setTask id (.compaction c)
  | .rebuild r => (r.visit answer).map fun r => s.setTask id (.rebuild r)
  | _ => none

/-- Take the store's answer to a deletion. -/
def answerDelete (s : Scheduler ρ) (id : TaskId) (t : Task ρ) (k : Key)
    (answer : Except StoreError Bool) : Option (Scheduler ρ) :=
  match t with
  | .removal key (.deleting unlinked) =>
    some (s.setTask id (.removal key (.answered unlinked answer)))
  | .purge p => (p.visit k answer).map fun p => s.setTask id (.purge p)
  | _ => none

/-- Take the store's answer to a write. -/
def answerPut (s : Scheduler ρ) (id : TaskId) (t : Task ρ)
    (answer : Except StoreError PutOutcome) : Option (Scheduler ρ) :=
  match t with
  | .flight key observed source (.committing e) =>
    let (phase, s) := s.written e answer
    some (s.setTask id (.flight key observed source phase))
  | _ => none

/-- Take the store's answer to a listing. -/
def answerList (s : Scheduler ρ) (id : TaskId) (t : Task ρ)
    (answer : Except StoreError (List Key)) : Option (Scheduler ρ) :=
  match t with
  | .rebuild r => (r.listed answer).map fun r => s.setTask id (.rebuild r)
  | _ => none

/-- Go on without the store. -/
def resume (s : Scheduler ρ) (id : TaskId) (t : Task ρ) (now : Instant) : Option (Scheduler ρ) :=
  match t with
  | .call key source (.read found) =>
    let (phase, s) := s.decide key source found now
    some (s.setTask id (.call key source phase))
  | .call key source (.waiting found f) =>
    (s.flightResult? f).map fun result =>
      let (result, outcome) := receive found result
      (s.bump (.lookup outcome)).setTask id (.call key source (.finished result))
  | .flight key observed source (.checked found) =>
    let (phase, s) := s.recheck observed found now
    some (s.setTask id (.flight key observed source phase))
  | .flight key observed source (.committed e) =>
    let s := { s with index := s.index.replaceTags key e.tags }
    some ((s.bump (.regeneration .committed)).setTask id
      (.flight key observed source (.ending (.ok e))))
  | .flight key observed source (.ending result) =>
    let s := { s with flights := s.flights.clear key id }
    some (s.setTask id (.flight key observed source (.finished result)))
  | .removal key (.answered unlinked answer) =>
    let index := match answer with
      | .ok _ => s.index
      | .error _ => s.index.linkTags unlinked.toList key
    some ({ s with index }.setTask id (.removal key (.finished answer)))
  | .purge p =>
    (p.proceed s.index).map fun (p, index, purged) =>
      { s with index, metrics := s.metrics.add .purged purged }.setTask id (.purge p)
  | .survey p => p.proceed.map fun p => s.setTask id (.survey p)
  | .compaction c =>
    (c.proceed s.index).map fun (c, index) => { s with index }.setTask id (.compaction c)
  | .rebuild r => r.proceed.map fun (r, index) => { s with index }.setTask id (.rebuild r)
  | _ => none

/-- An answer of the store, or the fault that kept it from answering. -/
def ask {σ α : Type} (fault : Option StoreError) (store : σ)
    (answer : σ → Except StoreError α × σ) : Except StoreError α × σ :=
  match fault with
  | some e => (.error e, store)
  | none => answer store

/-- **One move.** The scheduler and the store after it; nothing if the move is not open. -/
def step {σ : Type} [Store σ] (s : Scheduler ρ) (store : σ) :
    Move ρ → Option (Scheduler ρ × σ)
  | .lookup key source => some (s.spawn (.call key source .reading), store)
  | .invalidateKey key =>
    let (unlinked, index) := s.index.forget key
    some ({ s with index }.spawn (.removal key (.deleting unlinked)), store)
  | .invalidateTag tag =>
    let (p, index) := Purge.start s.index tag
    some ({ s with index }.spawn (.purge p), store)
  | .survey tag => some (s.spawn (.survey (.start s.index tag)), store)
  | .compact => some (s.spawn (.compaction (.start s.index)), store)
  | .rebuild => some (s.spawn (.rebuild .listing), store)
  | .storeCall id call fault => do
    let t ← s.tasks[id]?
    if call ∉ t.storeCalls then none
    match call with
    | .get k =>
      let (answer, store) := ask fault store (Store.get · k)
      return (← s.answerGet id t k answer, store)
    | .put e observed =>
      let (answer, store) := ask fault store (Store.put · e observed)
      return (← s.answerPut id t answer, store)
    | .delete k =>
      let (answer, store) := ask fault store (Store.delete · k)
      return (← s.answerDelete id t k answer, store)
    | .list =>
      let (answer, store) := ask fault store (Store.list · "")
      return (← s.answerList id t answer, store)
  | .proceed id now => do
    let t ← s.tasks[id]?
    return (← s.resume id t now, store)
  | .render id ending now =>
    match s.tasks[id]? with
    | some (.flight key observed source .rendering) =>
      let (phase, s) := s.rendered key observed ending now
      some (s.setTask id (.flight key observed source phase), store)
    | _ => none
  | .abandon id =>
    match s.tasks[id]? with
    | some (.call key source phase) =>
      match phase with
      | .finished _ | .abandoned => none
      | _ => some (s.setTask id (.call key source .abandoned), store)
    | _ => none

/-- The scheduler after a task has broken down inside a store call: a flight ends with the message, a
call breaks down with its caller. -/
def breakDown (s : Scheduler ρ) (id : TaskId) (message : String) : Scheduler ρ :=
  match s.tasks[id]? with
  | some (.flight key observed source _) =>
    s.setTask id (.flight key observed source (.ending (.error (.render (.aborted message)))))
  | some (.call key source _) => s.setTask id (.call key source .abandoned)
  | _ => s

end Scheduler

end PageCache
