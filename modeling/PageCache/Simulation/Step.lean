import PageCache.Simulation.World

/-!
# Steps of a simulation

A simulation is a list of steps: calls of the store, the tag index and the scheduler, changes of the
world, and time. Each step has a reply, and after it a report of all that can be seen from outside:
the keys stored, the flights under way, the calls that came to an end, the plays and the counts.
-/

namespace PageCache.Simulation

/-- What can be asked of the folder of a disk store. -/
inductive FolderStep where
  /-- the names in it -/
  | files
  /-- the bytes of a file -/
  | readBytes
  /-- write a file -/
  | writeBytes (bytes : ByteArray)
  /-- remove a file -/
  | remove
  /-- make a folder and those above it -/
  | makeFolder
  /-- remove a folder and what is in it -/
  | removeFolder
  /-- open a disk store -/
  | openStore

/-- How a place in the folder is named. -/
inductive FolderName where
  /-- by its name; the empty one is the folder itself -/
  | name (s : String)
  /-- by the digest of a key and what follows it -/
  | ofKey (key : Key) (suffix : String)

/-- One step. -/
inductive Step where
  | put (e : Entry) (observed : Option Generation)
  | get (k : Key)
  | delete (k : Key)
  | list (start : String)
  | len
  | folder (step : FolderStep) (name : FolderName)
  | associate (t : Tag) (k : Key)
  | replaceTags (k : Key) (ts : List Tag)
  | keysForTag (t : Tag)
  | tagsForKey (k : Key)
  | forgetKey (k : Key)
  | purgeTag (t : Tag)
  | compact
  | rebuild
  | lookup (k : Key) (source : Source) (wait : Option Nat)
  | await (wait : Nat)
  | drop (wait : Nat)
  | advance (ms : Nat)
  | settle
  | now (t : Instant)
  | script (route : String) (outcomes : List Outcome)
  | invalidateTag (t : Tag)
  | invalidateKey (k : Key)
  | peek (k : Key)
  | liveKeys (t : Tag)
  | classify (e : Option Entry)
  | revalidating (k : Key)
  | fail (f : Fault)
  | heal
  | hook (h : Hook)
  | breakRecorder

/-- What a step gives. -/
inductive Reply where
  | none
  | flag (b : Bool)
  | count (n : Nat)
  | word (s : String)
  | entry (e : Option Entry)
  | outcome (o : PutOutcome)
  | keys (ks : List Key)
  | tags (ts : List Tag)
  | names (ns : List String)
  | bytes (b : ByteArray)
  | size (n : Nat)
  | opened (root : String) (keys : Except StoreError (List Key))
  | served (r : Except LookupError Served)
  | storeError (e : StoreError)
  | ioError (e : IoError)
  | brokeDown
  | refused (message : String)

/-- What can be seen after a step. -/
structure Report where
  /-- what the step gave -/
  reply : Reply
  /-- the calls that came to an end, by the number of their wait -/
  done : List (Nat × Except LookupError Served)
  /-- the keys stored -/
  keys : Except StoreError (List Key)
  /-- the keys with a flight under way -/
  inFlight : List Key
  /-- the number of tags and of keys with a link -/
  links : Nat × Nat
  /-- the plays since the last report -/
  plays : List String
  /-- the virtual time -/
  ms : Nat
  /-- the counts since the last report that are not zero -/
  counts : List (Metric × Nat)

/-- A reply, or the error of the store. -/
def Reply.ofExcept {α : Type} (r : Except StoreError α) (f : α → Reply) : Reply :=
  match r with
  | .ok a => f a
  | .error e => .storeError e

/-- A reply, or the error of the store, or that there is no answer. -/
def Reply.ofAnswer {α : Type} (r : Option (Except StoreError α)) (f : α → Reply) : Reply :=
  match r with
  | some r => .ofExcept r f
  | Option.none => .brokeDown

namespace World

/-- Begin a task and run it up to where it has to wait; gives its number. -/
def launch (w : World) (m : Move Source) : TaskId × World :=
  let id := w.scheduler.tasks.length
  (id, (w.act m).run id)

/-- What a task that is not a call has come to. -/
def taskReply (w : World) (id : TaskId) : Reply :=
  match w.scheduler.tasks[id]? with
  | some (.removal _ (.finished r)) => .ofExcept r .flag
  | some (.purge (.finished r)) => .ofExcept r .count
  | some (.survey (.finished r)) => .ofExcept r fun ks => .keys ks.toList
  | some (.compaction (.finished r)) => .ofExcept r .count
  | some (.rebuild (.finished r)) => .ofExcept r .count
  | _ => .none

/-- Launch a task that never waits, and give what it has come to. -/
def complete (w : World) (m : Move Source) : Reply × World :=
  let (id, w) := w.launch m
  (w.taskReply id, w)

/-- Change the tag index. -/
def withIndex (w : World) (f : TagIndex → TagIndex) : World :=
  { w with scheduler := { w.scheduler with index := f w.scheduler.index } }

/-- A reply, or the error of an operation on files. -/
def ioReply {α : Type} (r : Except IoError α) (f : α → Reply) : Reply :=
  match r with
  | .ok a => f a
  | .error e => .ioError e

/-- A step on the folder of the disk store. -/
def folderStep (w : World) (step : FolderStep) (name : FolderName) : Reply × World :=
  match w.store with
  | .memory _ => (.refused "no directory", w)
  | .disk d files serial =>
    let file := match name with
      | .name s => s
      | .ofKey k suffix => k.digest ++ suffix
    let p := d.root.join (.ofText file)
    let walked (r : Except IoError Unit × FileTree) : Reply × World :=
      (ioReply r.1 fun _ => .word "ok", { w with store := .disk d r.2 serial })
    let changed (r : Except IoError FileTree) : Reply × World :=
      match r with
      | .ok files => (.word "ok", { w with store := .disk d files serial })
      | .error e => (.ioError e, w)
    match step with
    | .files => (ioReply (files.list p) .names, w)
    | .readBytes => (ioReply (files.read p) .bytes, w)
    | .writeBytes bytes => changed (files.write p bytes)
    | .remove => changed (files.remove p)
    | .makeFolder => walked (files.createAll p)
    | .removeFolder => walked (files.removeAll p)
    | .openStore =>
      let (r, files) := (DiskStore.openAt p).run files
      let w := { w with store := .disk d files serial }
      match r with
      | .error e => (.storeError e, w)
      | .ok s => (.opened p.text ((s.list "").run files).1, w)

/-- The reply of a step, and the world after it. -/
def perform (w : World) : Step → Reply × World
  | .put e observed => let (r, w) := w.put e observed; (.ofAnswer r .outcome, w)
  | .get k | .peek k => let (r, w) := w.get k; (.ofAnswer r .entry, w)
  | .delete k => let (r, w) := w.delete k; (.ofAnswer r .flag, w)
  | .list start => let (r, w) := w.list start; (.ofExcept r .keys, w)
  | .len =>
    match w.store with
    | .memory m => (if w.sized then .size m.size else .none, w)
    | .disk .. => (.none, w)
  | .folder step name => w.folderStep step name
  | .associate t k => (.none, w.withIndex (·.link t k))
  | .replaceTags k ts => (.none, w.withIndex (·.replaceTags k (.ofList ts)))
  | .keysForTag t => (.keys (w.scheduler.index.keysForTag t).toList, w)
  | .tagsForKey k => (.tags (w.scheduler.index.tagsForKey k).toList, w)
  | .forgetKey k =>
    let (ts, index) := w.scheduler.index.forget k
    (.tags ts.toList, w.withIndex fun _ => index)
  | .purgeTag t | .invalidateTag t => w.complete (.invalidateTag t)
  | .compact => w.complete .compact
  | .rebuild => w.complete .rebuild
  | .invalidateKey k => w.complete (.invalidateKey k)
  | .liveKeys t => w.complete (.survey t)
  | .lookup k source none =>
    let (id, w) := w.launch (.lookup k source)
    let w := if (w.result? id).isSome then w else w.await id
    match w.result? id with
    | some r => (.served r, w)
    | none => (.brokeDown, w)
  | .lookup k source (some wait) =>
    if w.waits.contains wait then (.refused "id: already waiting", w)
    else
      let (id, w) := w.launch (.lookup k source)
      (.word "started", { w with waits := w.waits.insert wait id })
  | .await wait =>
    match w.waits.get? wait with
    | none => (.refused "id: not waiting", w)
    | some id =>
      let w := w.await id
      match w.result? id with
      | some r => (.served r, { w with waits := w.waits.erase wait })
      | none => (.none, w)
  | .drop wait =>
    match w.waits.get? wait with
    | none => (.flag false, w)
    | some id => (.flag true, { w.act (.abandon id) with waits := w.waits.erase wait })
  | .advance n => (.none, w.advance n)
  | .settle => (.none, w.settle)
  | .now t => (.none, { w with clock := t })
  | .script route os =>
    let old := (w.scripts.get? route).getD []
    (.none, { w with scripts := w.scripts.insert route (old ++ os) })
  | .classify e => (.word (w.scheduler.policy.classify e w.clock).name, w)
  | .revalidating k => (.flag (w.scheduler.flights.isInFlight k), w)
  | .fail f => (.none, { w with faults := f :: w.faults.filter (·.op ≠ f.op) })
  | .heal => (.none, { w with faults := [] })
  | .hook h => (.none, { w with hooks := w.hooks ++ [h] })
  | .breakRecorder => (.none, { w with recorderBroken := true })

/-- The count of a metric; evictions are counted by the store. -/
def count (w : World) (m : Metric) : Nat :=
  match m with
  | .evicted => w.store.evictions
  | m => w.scheduler.metrics.count m

/-- Take the results of the waits whose calls are over. -/
def takeDone (w : World) : List (Nat × Except LookupError Served) × World :=
  let done := w.waits.toList.filterMap fun (wait, id) => (w.result? id).map fun r => (wait, r)
  (done, { w with waits := done.foldl (fun m d => m.erase d.1) w.waits })

/-- One step and its report. After the step everything that needs no time is run, unless the step is
to stand alone. -/
def step (w : World) (s : Step) (settling : Bool) : Report × World :=
  let before := w.count
  let (reply, w) := w.perform s
  let w := if settling then w.settle else w
  let (done, w) := w.takeDone
  let counts := Metric.all.filterMap fun m =>
    if w.count m = before m then none else some (m, w.count m - before m)
  let report : Report := {
    reply, done
    keys := (Store.list w.store "").1
    inFlight := w.scheduler.flights.records.keys
    links := (w.scheduler.index.tagCount, w.scheduler.index.keyCount)
    plays := w.log.reverse
    ms := w.ms
    counts }
  (report, { w with log := [] })

end World

end PageCache.Simulation
