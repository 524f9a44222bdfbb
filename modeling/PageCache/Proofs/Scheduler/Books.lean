import Mathlib.Algebra.GroupWithZero.Nat
import Mathlib.Tactic.Common
import PageCache.Proofs.Scheduler.Progress

/-!
# The books of a scheduler

Counters are moved at many places: in the call that serves, in the flight that renders, by the store's
answers, by purges, and not at all where a task breaks down. Here what one event counts is put beside
what it is:

* `Event.mark` — what an event is to the accounts, told by the task it is about and by what it meets:
  the clock, the answer of the store, the end of the render;
* `Task.stage` — how a task stands to the accounts: a call that has returned, a flight that is under
  way, has rendered, has written, or has landed, a purge that has deleted so many entries;
* `Books` — how mark, stages and counters go together in one event, and `Occurs.entered` that every
  event keeps books this way.

A mark does not say what is counted, and a counter not what has happened, so that they go together is
a fact about the scheduler. What it adds up to over a run is read off `Books` alone.
-/

namespace PageCache

/-- The outcome that a call's result stands for. -/
def LookupOutcome.of : Except LookupError Served → LookupOutcome
  | .error _ => .error
  | .ok s =>
    match s.status with
    | .hit => .hit
    | .stale => .stale
    | .miss => .miss
    | .expired => if s.isDegraded then .degraded else .expired

/-! ## Marks -/

/-- What an event is to the accounts. -/
inductive Mark where
  /-- a call needs a regeneration: it joins a flight or starts one -/
  | dispatched
  /-- a flight finds that somebody else has stored a fresh entry -/
  | superseded
  /-- a render fails or takes too long -/
  | failed
  /-- a render gives an output -/
  | rendered
  /-- the store takes the write of a flight -/
  | stored
  /-- the store refuses the write of a flight -/
  | refused
  /-- the write of a flight fails or breaks down -/
  | writeFailed
  /-- the write of a flight breaks down after the store took it -/
  | writeBroke
  /-- a flight goes on after its write -/
  | committed
  /-- a flight cannot read the store, or breaks down before it has rendered -/
  | lost
  /-- a purge has deleted an entry -/
  | deleted
deriving DecidableEq

/-- How a task stands to the accounts. -/
inductive Stage where
  /-- nothing is to be said of it -/
  | quiet
  /-- a call has returned -/
  | returned (o : LookupOutcome)
  /-- a flight has not rendered yet -/
  | flying
  /-- a flight has an output to write -/
  | rendered
  /-- a flight has written its entry -/
  | written
  /-- a flight has its result -/
  | landed
  /-- a purge has deleted so many entries -/
  | purging (n : Nat)
  /-- a purge has ended well, having deleted so many entries -/
  | purged (n : Nat)
  /-- a purge has failed -/
  | unpurged
deriving DecidableEq

namespace Mark

/-- The stage at which a flight gets its result in this way; nothing if it does not. -/
def lands : Mark → Option Stage
  | superseded | failed | lost => some .flying
  | refused | writeFailed => some .rendered
  | committed | writeBroke => some .written
  | dispatched | rendered | stored | deleted => none

/-- What a flight that gets its result in this way counts as: a failing store and a breakdown count
as nothing. -/
def result? : Mark → Option RegenerationResult
  | superseded => some .superseded
  | failed => some .failed
  | refused => some .conflict
  | committed => some .committed
  | writeFailed | writeBroke | lost => none
  | dispatched | rendered | stored | deleted => none

/-- What counts as a result is one of the ways to come to it. -/
theorem lands_of_result? {μ : Mark} {res : RegenerationResult} (h : μ.result? = some res) :
    μ.lands.isSome = true := by
  cases μ with
  | dispatched => cases h
  | rendered => cases h
  | stored => cases h
  | deleted => cases h
  | _ => rfl

end Mark

namespace Stage

/-- Whether a flight stands so. -/
def isFlight : Stage → Bool
  | flying | rendered | written | landed => true
  | _ => false

/-- Whether a task that is over can stand so. -/
def isSettled : Stage → Bool
  | quiet | returned _ | landed | purged _ | unpurged => true
  | _ => false

/-- What a purge has reported. -/
def reported : Stage → Nat
  | purged n => n
  | _ => 0

/-- How many entries a purge has deleted that has not failed. -/
def deletions : Stage → Nat
  | purging n | purged n => n
  | _ => 0

end Stage

/-- How a flight stands. -/
def Flight.stage : Flight → Stage
  | checking | checked _ | rendering => .flying
  | committing _ => .rendered
  | committed _ => .written
  | ending _ | finished _ => .landed

/-- How a purge stands. -/
def Purge.stage : Purge → Stage
  | deleting _ _ n => .purging n
  | answered _ _ n _ (.ok true) => .purging (n + 1)
  | answered _ _ n _ _ => .purging n
  | finished (.ok n) => .purged n
  | finished (.error _) => .unpurged

/-- How a task stands. -/
def Task.stage {ρ : Type} : Task ρ → Stage
  | call _ _ (.finished result) => .returned (.of result)
  | call .. => .quiet
  | flight _ _ _ phase => phase.stage
  | purge p => p.stage
  | _ => .quiet

/-- What the end of a render is. -/
def RenderEnd.mark : RenderEnd → Mark
  | output _ => .rendered
  | failed _ | timedOut => .failed
  | brokeDown _ => .lost

namespace Scheduler

variable {ρ σ : Type} [Store σ]

/-- What an event about a flight is. A flight that has its result meets nothing any more that could
break down. -/
def flightMark (y : Scheduler ρ × σ) (k : Key) (observed : Option Generation) :
    Flight → Event ρ → Option Mark
  | .checking, .move (.storeCall _ _ fault) =>
    match (ask fault y.2 (Store.get · k)).1 with
    | .ok _ => none
    | .error _ => some .lost
  | .checked (some e), .move (.proceed _ now) =>
    if some e.generation ≠ observed ∧ y.1.policy.classify (some e) now = .fresh then
      some .superseded
    else none
  | .rendering, .move (.render _ ending _) => some ending.mark
  | .committing e, .move (.storeCall _ _ fault) =>
    match (ask fault y.2 (Store.put · e observed)).1 with
    | .ok .stored => some .stored
    | .ok (.conflict _) => some .refused
    | .error _ => some .writeFailed
  | .committed _, .move (.proceed _ _) => some .committed
  | .checking, .breakDown _ _ | .checked _, .breakDown _ _ | .rendering, .breakDown _ _ => some .lost
  | .committing _, .breakDown _ _ => some .writeFailed
  | .committed _, .breakDown _ _ => some .writeBroke
  | _, _ => none

/-- What an event about a task is. -/
def taskMark (y : Scheduler ρ × σ) : Task ρ → Event ρ → Option Mark
  | .call _ _ (.read found), .move (.proceed _ now) =>
    if y.1.policy.classify found now = .fresh then none else some .dispatched
  | .flight k observed _ phase, e => flightMark y k observed phase e
  | .purge (.deleting ..), .move (.storeCall _ (.delete k) fault) =>
    match (ask fault y.2 (Store.delete · k)).1 with
    | .ok true => some .deleted
    | _ => none
  | _, _ => none

end Scheduler

open Scheduler in
/-- What an event is where it happens, if it is anything to the accounts. -/
def Event.mark {ρ σ : Type} [Store σ] (y : Scheduler ρ × σ) (e : Event ρ) : Option Mark :=
  (e.actor?.bind (y.1.tasks[·]?)).bind (taskMark y · e)

/-! ## Books -/

/-- **The books.** What one event does to the accounts: its mark, how the task that it is about
stands before and after it, how a task stands that it begins, and what is counted. -/
inductive Books : Option Mark → Stage → Stage → Option Stage → List Metric → Prop where
  /-- nothing is to be entered -/
  | nothing (g : Stage) : Books none g g none []
  /-- a call returns, and its outcome is counted -/
  | returned (o : LookupOutcome) : Books none .quiet (.returned o) none [.lookup o]
  /-- a call waits for a flight that is under way -/
  | joined : Books (some .dispatched) .quiet .quiet none [.joined]
  /-- a call returns a stale entry and has joined a flight -/
  | joinedStale : Books (some .dispatched) .quiet (.returned .stale) none [.joined, .lookup .stale]
  /-- a call waits for the flight that it starts -/
  | led : Books (some .dispatched) .quiet .quiet (some .flying) []
  /-- a call returns a stale entry and has started a flight -/
  | ledStale : Books (some .dispatched) .quiet (.returned .stale) (some .flying) [.lookup .stale]
  /-- a flight has rendered, and the time is taken -/
  | rendered : Books (some .rendered) .flying .rendered none [.renderTime]
  /-- a flight has written -/
  | stored : Books (some .stored) .rendered .written none []
  /-- a flight has its result, which is counted unless it comes of a failing store or a breakdown -/
  | landed {μ : Mark} {g : Stage} (h : μ.lands = some g) :
      Books (some μ) g .landed none (μ.result?.map .regeneration).toList
  /-- a purge begins -/
  | purgeBegun : Books none .quiet .quiet (some (.purging 0)) []
  /-- a purge has deleted one more entry -/
  | deleted (n : Nat) : Books (some .deleted) (.purging n) (.purging (n + 1)) none []
  /-- a purge ends well, and what it has deleted is counted -/
  | purgeEnded (n : Nat) : Books none (.purging n) (.purged n) none (.replicate n .purged)
  /-- a purge fails -/
  | purgeFailed (n : Nat) : Books none (.purging n) .unpurged none []

namespace Scheduler

variable {ρ σ : Type}

/-- How the task of this number stands. -/
def stageOf (s : Scheduler ρ) (id : TaskId) : Stage := (s.tasks[id]?.map Task.stage).getD .quiet

/-- What all tasks weigh together, by how they stand. -/
def weigh (s : Scheduler ρ) (w : Stage → Nat) : Nat := (s.tasks.map fun t => w t.stage).sum

/-- How many tasks stand in one of these ways. -/
def numberAt (s : Scheduler ρ) (p : Stage → Bool) : Nat := s.weigh fun g => (p g).toNat

theorem stageOf_of_some {s : Scheduler ρ} {id : TaskId} {t : Task ρ} (h : s.tasks[id]? = some t) :
    s.stageOf id = t.stage := by
  unfold stageOf
  rw [h]
  rfl

/-- A purge does not stand as a call that has returned. -/
theorem stage_purge_ne (p : Purge) (o : LookupOutcome) :
    p.stage ≠ .returned o := by
  cases p with
  | deleting t due n => intro h; cases h
  | answered t due n k answer =>
    cases answer with
    | ok removed => cases removed <;> intro h <;> cases h
    | error e => intro h; cases h
  | finished result => cases result <;> intro h <;> cases h

/-- Only a call that has returned stands so. -/
theorem exists_of_stageOf_returned {s : Scheduler ρ} {id : TaskId} {o : LookupOutcome}
    (h : s.stageOf id = .returned o) :
    ∃ k x result, s.tasks[id]? = some (.call k x (.finished result)) ∧ o = .of result := by
  unfold stageOf at h
  cases ht : s.tasks[id]? with
  | none => rw [ht] at h; cases h
  | some t =>
    rw [ht] at h
    cases t with
    | call k x phase =>
      cases phase with
      | finished result => exact ⟨k, x, result, rfl, (Stage.returned.inj h).symm⟩
      | _ => cases h
    | flight k o x phase => cases phase <;> cases h
    | purge p => exact absurd h (stage_purge_ne p o)
    | _ => cases h

/-- A task that is over stands as one that is settled. -/
theorem stage_of_over {t : Task ρ} (h : t.isOver = true) : t.stage.isSettled = true := by
  cases t with
  | call k x phase =>
    cases phase with
    | abandoned => rfl
    | finished result => rfl
    | _ => cases h
  | flight k o x phase =>
    cases phase with
    | finished result => rfl
    | _ => cases h
  | purge p =>
    cases p with
    | finished result => cases result <;> rfl
    | _ => cases h
  | _ => rfl

theorem weigh_of_nil {s : Scheduler ρ} (h : s.tasks = []) (w : Stage → Nat) : s.weigh w = 0 := by
  unfold weigh
  rw [h]
  rfl

theorem numberAt_of_nil {s : Scheduler ρ} (h : s.tasks = []) (p : Stage → Bool) :
    s.numberAt p = 0 := weigh_of_nil h _

/-- What an event enters: how the task that it is about stands before and after it, how the task
stands that it begins, and what is counted. -/
structure Enters (s s' : Scheduler ρ) (actor : Option TaskId) (g g' : Stage) (new : Option Stage)
    (ms : List Metric) : Prop where
  /-- the task that the event is about -/
  own : ∀ id, actor = some id → s.stageOf id = g ∧ s'.stageOf id = g'
  /-- the other tasks stand as before, but for the one that begins -/
  others : ∀ id, actor ≠ some id → s'.stageOf id = s.stageOf id ∨
    s.stageOf id = .quiet ∧ new = some (s'.stageOf id)
  /-- what all tasks weigh -/
  weights : ∀ w : Stage → Nat, w .quiet = 0 → s'.weigh w + w g = s.weigh w + w g' + new.elim 0 w
  /-- what is counted -/
  counts : ∀ m, s'.metrics.count m = s.metrics.count m + ms.count m

/-- How many tasks stand in one of these ways after an event. -/
theorem Enters.numbers {s s' : Scheduler ρ} {actor : Option TaskId} {g g' : Stage}
    {new : Option Stage} {ms : List Metric} (h : Enters s s' actor g g' new ms) (p : Stage → Bool)
    (hp : p .quiet = false) :
    s'.numberAt p + (p g).toNat = s.numberAt p + (p g').toNat + new.elim 0 fun g => (p g).toNat :=
  h.weights _ (congrArg Bool.toNat hp)

/-- One element of a list that is set changes a sum by itself. -/
theorem sum_map_set {α : Type} (w : α → Nat) {l : List α} {i : Nat} {a : α} (h : l[i]? = some a)
    (b : α) : ((l.set i b).map w).sum + w a = (l.map w).sum + w b := by
  induction l generalizing i with
  | nil => cases h
  | cons c l ih =>
    cases i with
    | zero =>
      obtain rfl : c = a := Option.some.inj h
      simp only [List.set_cons_zero, List.map_cons, List.sum_cons]
      omega
    | succ i =>
      have ih := ih h
      simp only [List.set_cons_succ, List.map_cons, List.sum_cons]
      omega

/-- A task that goes on enters how it stood and how it stands. -/
theorem enters_of_set {s s' : Scheduler ρ} {id : TaskId} {t t' : Task ρ} {ms : List Metric}
    (ht : s.tasks[id]? = some t) (htasks : s'.tasks = s.tasks.set id t')
    (hms : ∀ m, s'.metrics.count m = s.metrics.count m + ms.count m) :
    Enters s s' (some id) t.stage t'.stage none ms where
  own := by
    rintro i ⟨⟩
    have ht' : s'.tasks[id]? = some t' := by
      rw [htasks]
      exact getElem?_setTask_self ht t'
    exact ⟨stageOf_of_some ht, stageOf_of_some ht'⟩
  others i hi := by
    left
    unfold stageOf
    rw [htasks, ← tasks_setTask, getElem?_setTask ht, if_neg fun h : i = id => hi (h ▸ rfl)]
  weights w _ := by
    unfold weigh
    rw [htasks]
    exact sum_map_set _ ht t'
  counts := hms

/-- A task that begins enters how it stands. -/
theorem enters_of_append {s s' : Scheduler ρ} {t : Task ρ} {new : Option Stage}
    (htasks : s'.tasks = s.tasks ++ [t]) (hnew : new.getD .quiet = t.stage)
    (hms : s'.metrics = s.metrics) : Enters s s' none .quiet .quiet new [] where
  own i hi := by cases hi
  others i _ := by
    unfold stageOf
    rw [htasks, ← tasks_spawn, getElem?_spawn]
    split
    · rename_i hi
      rw [hi, List.getElem?_eq_none (Nat.le_refl _), Option.map_some, Option.getD_some, ← hnew]
      cases new with
      | none => exact .inl rfl
      | some g => exact .inr ⟨rfl, rfl⟩
    · exact .inl rfl
  weights w hw := by
    unfold weigh
    rw [htasks, List.map_append, List.sum_append, List.map_singleton, List.sum_singleton, ← hnew]
    cases new with
    | none => simp [hw]
    | some g => simp [hw]
  counts m := by rw [hms]; rfl

/-- A call that starts a flight enters it. -/
theorem enters_of_lead {s s' : Scheduler ρ} {id : TaskId} {t u t' : Task ρ} {g' : Stage}
    {ms : List Metric} (ht : s.tasks[id]? = some t)
    (htasks : s'.tasks = (s.tasks ++ [u]).set id t') (hg : t'.stage = g')
    (hms : ∀ m, s'.metrics.count m = s.metrics.count m + ms.count m) :
    Enters s s' (some id) t.stage g' (some u.stage) ms where
  own := by
    rintro i ⟨⟩
    have ht' : s'.tasks[id]? = some t' := by
      rw [htasks]
      exact (getElem?_setTask_spawn ht u t' id).trans (if_pos rfl)
    exact ⟨stageOf_of_some ht, (stageOf_of_some ht').trans hg⟩
  others i hi := by
    unfold stageOf
    rw [htasks, ← tasks_spawn, ← tasks_setTask, getElem?_setTask_spawn ht,
      if_neg fun h : i = id => hi (h ▸ rfl)]
    split
    · rename_i hlen
      right
      rw [hlen, List.getElem?_eq_none (Nat.le_refl _)]
      exact ⟨rfl, rfl⟩
    · exact .inl rfl
  weights w _ := by
    have happ : (s.tasks ++ [u])[id]? = some t := getElem?_spawn_of_some ht u
    have hset := sum_map_set (fun t => w t.stage) happ t'
    rw [List.map_append, List.sum_append, List.map_singleton, List.sum_singleton, hg] at hset
    unfold weigh
    rw [htasks, hset, Option.elim_some]
    omega
  counts := hms

/-- How what an event enters goes together with its mark. -/
def Entered (s s' : Scheduler ρ) (actor : Option TaskId) (μ : Option Mark) : Prop :=
  ∃ g g' new ms, Books μ g g' new ms ∧ Enters s s' actor g g' new ms

theorem count_add_eq (ms : Metrics) (m x : Metric) (n : Nat) :
    (ms.add m n).count x = ms.count x + (List.replicate n m).count x := by
  rw [Metrics.count_add, List.count_replicate]
  by_cases h : x = m
  · simp [h]
  · rw [if_neg h, if_neg (by simpa using Ne.symm h)]
    rfl

theorem count_bump_eq (ms : Metrics) (m x : Metric) :
    (ms.bump m).count x = ms.count x + [m].count x := count_add_eq ms m x 1

/-- The outcome that a waiting call counts is the one its result stands for. -/
theorem receive_snd (found : Option Entry) (result : Except LookupError Entry) :
    (receive found result).2 = .of (receive found result).1 := by
  cases found <;> cases result <;> rfl

/-- How a call stands that has boarded a flight: it waits, or it has returned a stale entry. -/
theorem stage_boarded (f : Freshness) (found : Option Entry) (id : FlightId) (k : Key) (x : ρ)
    (ms : Metrics) :
    ((Task.call k x (.boarded f found id)).stage = .quiet ∧ Call.countBoarded f found ms = ms) ∨
    ((Task.call k x (.boarded f found id)).stage = .returned .stale ∧
      Call.countBoarded f found ms = ms.bump (.lookup .stale)) := by
  unfold Call.boarded Call.countBoarded
  cases found with
  | none => exact .inl ⟨rfl, rfl⟩
  | some e =>
    cases f.blocks with
    | true => exact .inl ⟨rfl, rfl⟩
    | false => exact .inr ⟨rfl, rfl⟩

variable [Store σ]

/-- A task that goes on by itself keeps the books. -/
theorem Advance.books {s : Scheduler ρ} {st st' : σ} {id : TaskId} {m : Move ρ} {t t' : Task ρ}
    {metrics : Metrics} (h : Advance s st id m t t' metrics st') :
    ∃ ms, Books (taskMark (s, st) t (.move m)) t.stage t'.stage none ms ∧
      ∀ x, metrics.count x = s.metrics.count x + ms.count x := by
  have hsame : ∀ x, s.metrics.count x = s.metrics.count x + [].count x := fun _ => rfl
  have hbump : ∀ m x, (s.metrics.bump m).count x = s.metrics.count x + [m].count x :=
    fun m x => count_bump_eq _ m x
  cases h with
  | callRead _ => exact ⟨[], .nothing _, hsame⟩
  | callUnread _ => exact ⟨_, .returned _, hbump _⟩
  | callServed hfresh =>
    refine ⟨_, ?_, hbump _⟩
    simp only [taskMark, hfresh, if_true]
    exact .returned .hit
  | @callJoined k x found now f hfresh _ =>
    simp only [taskMark, if_neg hfresh]
    obtain ⟨hg, hm⟩ | ⟨hg, hm⟩ :=
      stage_boarded (s.policy.classify found now) found f k x (s.metrics.bump .joined)
    · rw [hg, hm]
      exact ⟨_, .joined, hbump _⟩
    · rw [hg, hm]
      refine ⟨_, .joinedStale, fun y => ?_⟩
      rw [count_bump_eq, count_bump_eq, Nat.add_assoc, ← List.count_append]
      rfl
  | @callReceived k x found f result now _ =>
    refine ⟨_, ?_, hbump _⟩
    rw [receive_snd]
    exact .returned _
  | @callAbandoned k x phase hover =>
    refine ⟨[], ?_, hsame⟩
    cases phase with
    | finished result => cases hover
    | abandoned => cases hover
    | reading => exact .nothing _
    | read found => exact .nothing _
    | waiting found f => exact .nothing _
  | flightRead ha =>
    refine ⟨[], ?_, hsame⟩
    simp only [taskMark, flightMark, ha]
    exact .nothing _
  | flightUnread ha =>
    refine ⟨[], ?_, hsame⟩
    simp only [taskMark, flightMark, ha]
    exact .landed rfl
  | @flightSuperseded k o x e now hsup =>
    refine ⟨_, ?_, hbump _⟩
    obtain ⟨e', he, hne, hfresh⟩ := hsup
    obtain rfl := Option.some.inj he
    simp only [taskMark, flightMark, if_pos (And.intro hne hfresh)]
    exact .landed rfl
  | @renderStarted k o x found now hsup =>
    refine ⟨[], ?_, hsame⟩
    cases found with
    | none => exact .nothing _
    | some e =>
      have hno : ¬ (some e.generation ≠ o ∧ s.policy.classify (some e) now = .fresh) :=
        fun h => hsup ⟨e, rfl, h⟩
      simp only [taskMark, flightMark, if_neg hno]
      exact .nothing _
  | renderSucceeded => exact ⟨_, .rendered, hbump _⟩
  | @renderFailed k o x ending now err hno _ =>
    cases ending with
    | output out => exact absurd rfl (hno out)
    | failed e => exact ⟨_, .landed rfl, hbump _⟩
    | timedOut => exact ⟨_, .landed rfl, hbump _⟩
    | brokeDown message => exact ⟨_, .landed rfl, hsame⟩
  | putRefused ha =>
    refine ⟨_, ?_, hbump _⟩
    simp only [taskMark, flightMark, ha]
    exact .landed rfl
  | putFailed ha =>
    refine ⟨[], ?_, hsame⟩
    simp only [taskMark, flightMark, ha]
    exact .landed rfl
  | removalFailed _ => exact ⟨[], .nothing _, hsame⟩
  | removalEnded => exact ⟨[], .nothing _, hsame⟩
  | @purgeFailed t due n k fault err _ _ ha =>
    refine ⟨[], ?_, hsame⟩
    simp only [taskMark, ha]
    exact .nothing _
  | @purgeWentOn t due n k removed now =>
    refine ⟨[], ?_, fun x => count_add_eq s.metrics .purged x 0⟩
    cases removed <;> exact .nothing _
  | purgeEnded _ => exact ⟨_, .purgeEnded _, fun x => count_add_eq s.metrics .purged x _⟩
  | surveyed _ _ _ => exact ⟨[], .nothing _, hsame⟩
  | surveyEnded _ => exact ⟨[], .nothing _, hsame⟩
  | compacted _ _ _ => exact ⟨[], .nothing _, hsame⟩
  | compactionEnded _ => exact ⟨[], .nothing _, hsame⟩
  | listed _ _ => exact ⟨[], .nothing _, hsame⟩
  | rebuilding _ _ => exact ⟨[], .nothing _, hsame⟩

/-- The mark of an event is that of the task it is about. -/
theorem mark_eq {s : Scheduler ρ} {id : TaskId} {t : Task ρ} {e : Event ρ}
    (ht : s.tasks[id]? = some t) (he : e.actor? = some id) (st : σ) :
    e.mark (s, st) = taskMark (s, st) t e := by
  unfold Event.mark
  simp [he, ht]

/-- The mark of an event that begins a task. -/
theorem mark_none {s : Scheduler ρ} {e : Event ρ} (he : e.actor? = none) (st : σ) :
    e.mark (s, st) = none := by
  unfold Event.mark
  rw [he]
  rfl

/-- A task that goes on enters what the books say of it. -/
theorem entered_of_set {s s' : Scheduler ρ} {st : σ} {id : TaskId} {t t' : Task ρ} {e : Event ρ}
    {ms : List Metric} (ht : s.tasks[id]? = some t) (he : e.actor? = some id)
    (htasks : s'.tasks = s.tasks.set id t')
    (hbooks : Books (taskMark (s, st) t e) t.stage t'.stage none ms)
    (hms : ∀ m, s'.metrics.count m = s.metrics.count m + ms.count m) :
    Entered s s' e.actor? (e.mark (s, st)) := by
  rw [mark_eq ht he, he]
  exact ⟨_, _, _, _, hbooks, enters_of_set ht htasks hms⟩

/-- A task that begins and of which nothing is to be said enters nothing. -/
theorem entered_of_append {s s' : Scheduler ρ} {st : σ} {t : Task ρ} {e : Event ρ}
    (he : e.actor? = none) (htasks : s'.tasks = s.tasks ++ [t]) (ht : t.stage = .quiet)
    (hms : s'.metrics = s.metrics) : Entered s s' e.actor? (e.mark (s, st)) := by
  rw [mark_none he, he]
  exact ⟨_, _, _, _, .nothing _, enters_of_append htasks ht.symm hms⟩

/-- **One move** keeps the books. -/
theorem Transition.entered {s s' : Scheduler ρ} {st st' : σ} {m : Move ρ}
    (h : Transition s st m s' st') :
    Entered s s' (Event.move m).actor? ((Event.move m).mark (s, st)) := by
  have hsame : ∀ x, s.metrics.count x = s.metrics.count x + [].count x := fun _ => rfl
  cases h with
  | opened ho =>
    cases ho with
    | call k x => exact entered_of_append rfl rfl rfl rfl
    | survey t => exact entered_of_append rfl rfl rfl rfl
    | compaction => exact entered_of_append rfl rfl rfl rfl
    | rebuild => exact entered_of_append rfl rfl rfl rfl
  | forgotten k => exact entered_of_append rfl rfl rfl rfl
  | detached t =>
    rw [mark_none rfl]
    exact ⟨_, _, _, _, .purgeBegun, enters_of_append rfl rfl rfl⟩
  | advanced ht ha =>
    obtain ⟨ms, hbooks, hms⟩ := ha.books
    exact entered_of_set ht ha.actor rfl hbooks hms
  | @led id k x found now ht hfresh _ =>
    rw [mark_eq ht rfl]
    simp only [taskMark, if_neg hfresh]
    obtain ⟨hg, hm⟩ | ⟨hg, hm⟩ :=
      stage_boarded (s.policy.classify found now) found s.tasks.length k x s.metrics
    · exact ⟨_, _, _, _, .led,
        enters_of_lead (u := .flight k (found.map Entry.generation) x .checking) ht rfl hg
          fun y => congrArg (Metrics.count · y) hm⟩
    · refine ⟨_, _, _, _, .ledStale,
        enters_of_lead (u := .flight k (found.map Entry.generation) x .checking) ht rfl hg
          fun y => ?_⟩
      rw [← count_bump_eq, ← hm]
      rfl
  | ended ht => exact entered_of_set ht rfl rfl (.nothing _) hsame
  | stored ht ha =>
    refine entered_of_set ht rfl rfl ?_ hsame
    simp only [taskMark, flightMark, ha]
    exact .stored
  | linked ht => exact entered_of_set ht rfl rfl (.landed rfl) (count_bump_eq _ _)
  | removed ht _ => exact entered_of_set ht rfl rfl (.nothing _) hsame
  | relinked ht => exact entered_of_set ht rfl rfl (.nothing _) hsame
  | @purged id t due n k fault removed _ ht _ ha =>
    refine entered_of_set ht rfl rfl ?_ hsame
    simp only [taskMark, ha]
    cases removed with
    | true => exact .deleted n
    | false => exact .nothing _
  | restored ht =>
    exact entered_of_set ht rfl rfl (.purgeFailed _) fun x => count_add_eq s.metrics .purged x 0
  | dropped ht => exact entered_of_set ht rfl rfl (.nothing _) hsame
  | rebuilt ht => exact entered_of_set ht rfl rfl (.nothing _) hsame

/-- **One event** keeps the books. -/
theorem Occurs.entered {s s' : Scheduler ρ} {st st' : σ} {e : Event ρ} (h : Occurs s st e s' st') :
    Entered s s' e.actor? (e.mark (s, st)) := by
  have hsame : ∀ x, s.metrics.count x = s.metrics.count x + [].count x := fun _ => rfl
  cases h with
  | moved ht => exact ht.entered
  | @flightBroke id k o x phase message ht hover =>
    refine entered_of_set ht rfl rfl ?_ hsame
    cases phase with
    | checking => exact .landed rfl
    | checked found => cases found <;> exact .landed rfl
    | rendering => exact .landed rfl
    | committing e => exact .landed rfl
    | committed e => exact .landed rfl
    | ending result => exact .nothing _
    | finished result => cases hover
  | @callBroke id k x phase message ht hover =>
    refine entered_of_set ht rfl rfl ?_ hsame
    cases phase with
    | reading => exact .nothing _
    | read found => exact .nothing _
    | waiting found f => exact .nothing _
    | abandoned => cases hover
    | finished result => cases hover
  | @otherBroke id t message ht hu =>
    have hset : s.tasks = s.tasks.set id t := by
      obtain ⟨hi, rfl⟩ := List.getElem?_eq_some_iff.mp ht
      exact (List.set_getElem_self hi).symm
    refine entered_of_set ht rfl hset ?_ hsame
    cases t with
    | call k x phase => cases hu
    | flight k o x phase => cases hu
    | removal k phase => exact .nothing _
    | purge p => cases p <;> exact .nothing _
    | survey p => exact .nothing _
    | compaction c => exact .nothing _
    | rebuild r => exact .nothing _

end Scheduler

/-! ## What the books add up to -/

namespace Books

variable {μ : Option Mark} {g g' : Stage} {new : Option Stage} {ms : List Metric}

/-- What begins is a flight, or a purge that has deleted nothing yet. -/
theorem begins (h : Books μ g g' new ms) {u : Stage} (hu : new = some u) :
    u = .flying ∨ u = .purging 0 := by
  cases h with
  | led => exact .inl (Option.some.inj hu).symm
  | ledStale => exact .inl (Option.some.inj hu).symm
  | purgeBegun => exact .inr (Option.some.inj hu).symm
  | _ => cases hu

/-- What begins weighs nothing, if neither flights nor purges do. -/
theorem weight_new (h : Books μ g g' new ms) {w : Stage → Nat} (hf : w .flying = 0)
    (hp : w (.purging 0) = 0) : new.elim 0 w = 0 := by
  cases new with
  | none => rfl
  | some u =>
    obtain rfl | rfl := h.begins rfl
    · exact hf
    · exact hp

/-- An outcome is counted exactly when a call returns with it. -/
theorem lookup (h : Books μ g g' new ms) (o : LookupOutcome) :
    (g == .returned o).toNat + ms.count (.lookup o) = (g' == .returned o).toNat := by
  cases h with
  | returned o' => cases o' <;> cases o <;> rfl
  | joinedStale => cases o <;> rfl
  | ledStale => cases o <;> rfl
  | @landed μ g h => cases μ <;> cases h <;> rfl
  | purgeEnded n => rw [List.count_replicate, if_neg (by simp)]; rfl
  | _ => rfl

/-- A result is counted exactly where it comes about. -/
theorem regeneration (h : Books μ g g' new ms) (res : RegenerationResult) :
    ms.count (.regeneration res) = (μ.any (·.result? == some res)).toNat := by
  cases h with
  | @landed μ g h => cases μ <;> cases h <;> cases res <;> rfl
  | purgeEnded n => rw [List.count_replicate, if_neg (by simp)]; rfl
  | _ => rfl

/-- A flight comes to its result by one of the marks that say so. -/
theorem land (h : Books μ g g' new ms) :
    (g == .landed).toNat + (μ.any (·.lands.isSome)).toNat = (g' == .landed).toNat := by
  cases h with
  | @landed μ g h => cases μ <;> cases h <;> rfl
  | _ => rfl

/-- Who needs a regeneration starts a flight or is counted as joining one, and nobody else does. -/
theorem dispatch (h : Books μ g g' new ms) :
    new.elim 0 (·.isFlight.toNat) + ms.count .joined = (μ.any (· == .dispatched)).toNat := by
  cases h with
  | @landed μ g h => cases μ <;> cases h <;> rfl
  | purgeEnded n => rw [List.count_replicate, if_neg (by simp)]; rfl
  | _ => rfl

/-- A flight stays a flight, and nothing else becomes one. -/
theorem isFlight (h : Books μ g g' new ms) : g'.isFlight = g.isFlight := by
  cases h with
  | @landed μ g h => cases μ <;> cases h <;> rfl
  | _ => rfl

/-- A write that the store has taken is committed next, unless it breaks down. -/
theorem write (h : Books μ g g' new ms) :
    (g' == .written).toNat + ms.count (.regeneration .committed) +
        (μ.any (· == .writeBroke)).toNat =
      (g == .written).toNat + (μ.any (· == .stored)).toNat := by
  cases h with
  | @landed μ g h => cases μ <;> cases h <;> rfl
  | purgeEnded n => rw [List.count_replicate, if_neg (by simp)]; rfl
  | _ => rfl

/-- An output whose time has been taken is on its way to the store until it is committed or refused,
or its write fails. -/
theorem sample (h : Books μ g g' new ms) :
    (g == .rendered || g == .written).toNat + ms.count .renderTime =
      (g' == .rendered || g' == .written).toNat + ms.count (.regeneration .committed) +
        ms.count (.regeneration .conflict) +
        (μ.any fun μ => μ == .writeFailed || μ == .writeBroke).toNat := by
  cases h with
  | @landed μ g h => cases μ <;> cases h <;> rfl
  | purgeEnded n =>
    simp only [List.count_replicate]
    rfl
  | _ => rfl

/-- What a purge has deleted is counted when it ends well. -/
theorem purge (h : Books μ g g' new ms) : g.reported + ms.count .purged = g'.reported := by
  cases h with
  | @landed μ g h => cases μ <;> cases h <;> rfl
  | purgeEnded n => simp [Stage.reported]
  | _ => rfl

/-- A purge that has not failed has deleted one more entry after a deletion, and as many as before
after anything else. -/
theorem deletion (h : Books μ g g' new ms) (hg : g' ≠ .unpurged) :
    g ≠ .unpurged ∧ g.deletions + (μ.any (· == .deleted)).toNat = g'.deletions := by
  cases h with
  | nothing g => exact ⟨hg, rfl⟩
  | @landed μ g h =>
    constructor
    · rintro rfl
      cases μ <;> cases h
    · cases μ <;> cases h <;> rfl
  | purgeFailed n => exact absurd rfl hg
  | _ => exact ⟨by simp, rfl⟩

end Books

namespace Scheduler

variable {ρ σ : Type} [Store σ]

/-- Another task weighs what it weighed, if what begins weighs nothing. -/
theorem Enters.weight_other {s s' : Scheduler ρ} {actor : Option TaskId} {μ : Option Mark}
    {g g' : Stage} {new : Option Stage} {ms : List Metric} (h : Enters s s' actor g g' new ms)
    (hbooks : Books μ g g' new ms) {id : TaskId} (hid : actor ≠ some id) {w : Stage → Nat}
    (hq : w .quiet = 0) (hf : w .flying = 0) (hp : w (.purging 0) = 0) :
    w (s'.stageOf id) = w (s.stageOf id) := by
  obtain hsame | ⟨hold, hnew⟩ := h.others id hid
  · rw [hsame]
  · obtain hbegun | hbegun := hbooks.begins hnew
    · rw [hold, hbegun, hf, hq]
    · rw [hold, hbegun, hp, hq]

/-! ## The books of a run -/

namespace EventRun

/-- How many of the first events are of these marks. -/
def marked (r : EventRun ρ σ) (q : Mark → Bool) (n : Nat) : Nat :=
  r.number (fun y e => (e.mark y).any q) n

/-- How many of the first events are about a task and of these marks. -/
def markedOf (r : EventRun ρ σ) (id : TaskId) (q : Mark → Bool) (n : Nat) : Nat :=
  r.number (fun y e => e.actor? == some id && (e.mark y).any q) n

/-- How much of a metric has been counted by the first events that are about a task. -/
def counted (r : EventRun ρ σ) (id : TaskId) (m : Metric) : Nat → Nat
  | 0 => 0
  | n + 1 => r.counted id m n +
    if (r.event n).actor? = some id then
      (r.state (n + 1)).1.metrics.count m - (r.state n).1.metrics.count m
    else 0

/-- Every event of a run keeps the books. -/
theorem entered (r : EventRun ρ σ) {i : Nat} (hi : i < r.length) :
    Entered (r.state i).1 (r.state (i + 1)).1 (r.event i).actor? ((r.event i).mark (r.state i)) :=
  (Occurs.of_happen (r.step i hi)).entered

/-- What an event counts for the task that it is about is what its entry says. -/
theorem counted_succ {r : EventRun ρ σ} {n : Nat} {g g' : Stage} {new : Option Stage}
    {ms : List Metric}
    (h : Enters (r.state n).1 (r.state (n + 1)).1 (r.event n).actor? g g' new ms) (id : TaskId)
    (m : Metric) :
    r.counted id m (n + 1) =
      r.counted id m n + if (r.event n).actor? = some id then ms.count m else 0 := by
  rw [counted, h.counts m, Nat.add_sub_cancel_left]

end EventRun

end Scheduler

end PageCache
