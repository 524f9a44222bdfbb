import PageCache.Proofs.Run
import PageCache.Proofs.Scheduler.Transition

/-!
# Tasks only go forward

The moves of a scheduler, and the moments at which a task may break down, make up its runs. Along a
run a task never goes back to an earlier phase, a call keeps its key and its source, a flight keeps
what it was started with, and what has ended stays as it ended:

* `Occurs.of_happen` — what can happen: a transition, or a task that breaks down;
* `Task.Later` — the order of the phases of one task;
* `later_of_transition`, `later_of_occurs` — one step, and `MoveRun.later`, `EventRun.later` — the
  whole run.
-/

namespace PageCache

/-- A move of a scheduler, or a task that breaks down. -/
inductive Event (ρ : Type) where
  /-- a move is made -/
  | move (m : Move ρ)
  /-- a task breaks down with a message, wherever it is -/
  | breakDown (task : TaskId) (message : String)

/-- The task that an event is about, unless it begins a new one. -/
def Event.actor? {ρ : Type} : Event ρ → Option TaskId
  | .move m => m.actor?
  | .breakDown id _ => some id

/-- Whether a task is neither a call nor a flight. -/
def Task.isUpkeep {ρ : Type} : Task ρ → Bool
  | call .. => false
  | flight .. => false
  | _ => true

instance {ρ : Type} : Inhabited (Move ρ) := ⟨.compact⟩
instance {ρ : Type} : Inhabited (Event ρ) := ⟨.move .compact⟩

namespace Scheduler

variable {ρ σ : Type} [Store σ]

/-- The scheduler and its store after a move, if the move is open. -/
def moved (y : Scheduler ρ × σ) (m : Move ρ) : Option (Scheduler ρ × σ) := y.1.step y.2 m

/-- The scheduler and its store after an event, if it can happen: a task that is over does not break
down. -/
def happen (y : Scheduler ρ × σ) : Event ρ → Option (Scheduler ρ × σ)
  | .move m => moved y m
  | .breakDown id message =>
    match y.1.tasks[id]? with
    | some t => if t.isOver then none else some (y.1.breakDown id message, y.2)
    | none => none

/-- A run of a scheduler and its store. -/
abbrev MoveRun (ρ σ : Type) [Store σ] := Run (moved (ρ := ρ) (σ := σ))

/-- A run in which tasks may also break down. -/
abbrev EventRun (ρ σ : Type) [Store σ] := Run (happen (ρ := ρ) (σ := σ))

/-- What can happen to the scheduler and the store. -/
inductive Occurs (s : Scheduler ρ) (st : σ) : Event ρ → Scheduler ρ → σ → Prop where
  /-- a move is made -/
  | moved {m s' st'} : Transition s st m s' st' → Occurs s st (.move m) s' st'
  /-- a flight breaks down -/
  | flightBroke {id k o x phase message} : s.tasks[id]? = some (.flight k o x phase) →
      (Task.flight k o x phase).isOver = false →
      Occurs s st (.breakDown id message)
        (s.setTask id (.flight k o x (.ending (.error (.render (.aborted message)))))) st
  /-- a call breaks down -/
  | callBroke {id k x phase message} : s.tasks[id]? = some (.call k x phase) →
      (Task.call k x phase).isOver = false →
      Occurs s st (.breakDown id message) (s.setTask id (.call k x .abandoned)) st
  /-- another task breaks down, and nothing is seen of it -/
  | otherBroke {id t message} : s.tasks[id]? = some t → t.isUpkeep = true →
      Occurs s st (.breakDown id message) s st

theorem Transition.of_moved {y y' : Scheduler ρ × σ} {m : Move ρ} (h : moved y m = some y') :
    Transition y.1 y.2 m y'.1 y'.2 := of_step h

theorem Occurs.of_happen {y y' : Scheduler ρ × σ} {e : Event ρ} (h : happen y e = some y') :
    Occurs y.1 y.2 e y'.1 y'.2 := by
  cases e with
  | move m => exact .moved (.of_moved h)
  | breakDown id message =>
    simp only [happen] at h
    split at h
    · rename_i t ht
      split at h
      · cases h
      · rename_i hover
        obtain rfl := Option.some.inj h
        have hover' : t.isOver = false := by simpa using hover
        simp only [breakDown, ht]
        cases t with
        | flight k o x phase => exact .flightBroke ht hover'
        | call k x phase => exact .callBroke ht hover'
        | removal k phase => exact .otherBroke ht rfl
        | purge p => exact .otherBroke ht rfl
        | survey p => exact .otherBroke ht rfl
        | compaction c => exact .otherBroke ht rfl
        | rebuild r => exact .otherBroke ht rfl
    · cases h

/-! ## The tasks that an event is not about -/

/-- A task makes its own advances. -/
theorem Advance.actor {s : Scheduler ρ} {st st' : σ} {id : TaskId} {m : Move ρ} {t t' : Task ρ}
    {metrics : Metrics} (h : Advance s st id m t t' metrics st') : m.actor? = some id := by
  cases h <;> rfl

/-- A move leaves all tasks as they are that do not make it. -/
theorem Transition.untouched {s s' : Scheduler ρ} {st st' : σ} {m : Move ρ} {i : TaskId}
    (h : Transition s st m s' st') (hi : i < s.tasks.length) (hm : m.actor? ≠ some i) :
    s'.tasks[i]? = s.tasks[i]? := by
  have hspawn : ∀ t : Task ρ, (s.spawn t).tasks[i]? = s.tasks[i]? := by
    intro t
    rw [getElem?_spawn, if_neg (Nat.ne_of_lt hi)]
  have hset : ∀ {id : TaskId} {t t' : Task ρ}, s.tasks[id]? = some t → m.actor? = some id →
      (s.setTask id t').tasks[i]? = s.tasks[i]? := by
    intro id t t' ht hid
    rw [getElem?_setTask ht, if_neg fun h : i = id => hm (h ▸ hid)]
  cases h with
  | opened _ => exact hspawn _
  | forgotten k => exact hspawn _
  | detached t => exact hspawn _
  | advanced ht ha => exact hset ht ha.actor
  | @led id k x found now ht _ _ =>
    have hne : i ≠ id := fun h => hm (congrArg some h.symm)
    exact (getElem?_setTask_spawn ht _ _ _).trans
      ((if_neg hne).trans (if_neg (Nat.ne_of_lt hi)))
  | ended ht => exact hset ht rfl
  | stored ht _ => exact hset ht rfl
  | linked ht => exact hset ht rfl
  | removed ht _ => exact hset ht rfl
  | relinked ht => exact hset ht rfl
  | purged ht _ _ => exact hset ht rfl
  | restored ht => exact hset ht rfl
  | dropped ht => exact hset ht rfl
  | rebuilt ht => exact hset ht rfl

/-- An event leaves all tasks as they are that it is not about. -/
theorem Occurs.untouched {s s' : Scheduler ρ} {st st' : σ} {e : Event ρ} {i : TaskId}
    (h : Occurs s st e s' st') (hi : i < s.tasks.length) (he : e.actor? ≠ some i) :
    s'.tasks[i]? = s.tasks[i]? := by
  cases h with
  | moved ht => exact ht.untouched hi he
  | @flightBroke id _ _ _ _ _ ht _ =>
    rw [getElem?_setTask ht, if_neg fun h : i = id => he (congrArg some h.symm)]
  | @callBroke id _ _ _ _ ht _ =>
    rw [getElem?_setTask ht, if_neg fun h : i = id => he (congrArg some h.symm)]
  | otherBroke _ _ => rfl

end Scheduler

/-! ## The order of phases -/

/-- How far a call has come. -/
@[simp] def Call.rank : Call → Nat
  | .reading => 0
  | .read _ => 1
  | .waiting _ _ => 2
  | .abandoned => 3
  | .finished _ => 3

/-- How far a flight has come. -/
@[simp] def Flight.rank : Flight → Nat
  | .checking => 0
  | .checked _ => 1
  | .rendering => 2
  | .committing _ => 3
  | .committed _ => 4
  | .ending _ => 5
  | .finished _ => 6

namespace Task

variable {ρ : Type}

/-- A task as it may be later on. -/
inductive Later : Task ρ → Task ρ → Prop where
  /-- a call keeps its key and its source, and stays as it is or gets further -/
  | call {k x p p'} : p' = p ∨ p.rank < p'.rank → Later (.call k x p) (.call k x p')
  /-- a flight keeps what it was started with and never goes back; its result stays -/
  | flight {k o x p p'} : p.rank ≤ p'.rank → (∀ r, p = .finished r → p' = .finished r) →
      Later (.flight k o x p) (.flight k o x p')
  /-- any other task stays another task -/
  | upkeep {t t' : Task ρ} : t.isUpkeep = true → t'.isUpkeep = true → Later t t'

namespace Later

theorem refl (t : Task ρ) : Later t t := by
  cases t with
  | call k x p => exact .call (.inl rfl)
  | flight k o x p => exact .flight (Nat.le_refl _) fun _ h => h
  | removal k p => exact .upkeep rfl rfl
  | purge p => exact .upkeep rfl rfl
  | survey p => exact .upkeep rfl rfl
  | compaction c => exact .upkeep rfl rfl
  | rebuild r => exact .upkeep rfl rfl

theorem trans {t u v : Task ρ} (h : Later t u) (h' : Later u v) : Later t v := by
  cases h with
  | call hp =>
    cases h' with
    | call hp' =>
      refine .call ?_
      rcases hp with rfl | hp
      · exact hp'
      · rcases hp' with rfl | hp'
        · exact .inr hp
        · exact .inr (Nat.lt_trans hp hp')
    | upkeep hu _ => cases hu
  | flight hr hf =>
    cases h' with
    | flight hr' hf' =>
      exact .flight (Nat.le_trans hr hr') fun r hp => hf' r (hf r hp)
    | upkeep hu _ => cases hu
  | upkeep hu hu' =>
    cases h' with
    | upkeep _ hv => exact .upkeep hu hv
    | call _ => cases hu'
    | flight _ _ => cases hu'

end Later

/-- A call that has boarded has got further than one that has read. -/
theorem rank_boarded (f : Freshness) (found : Option Entry) (id : FlightId) :
    1 < (Call.boarded f found id).rank := by
  unfold Call.boarded
  cases found with
  | none => simp
  | some e =>
    simp only
    split <;> simp

end Task

namespace Scheduler

variable {ρ σ : Type} [Store σ]

/-- A call that is not over gets further by being given up. -/
theorem rank_lt_abandoned {k : Key} {x : ρ} {phase : Call}
    (h : (Task.call k x phase).isOver = false) : phase.rank < Call.abandoned.rank := by
  cases phase with
  | reading => simp
  | read found => simp
  | waiting found f => simp
  | abandoned => cases h
  | finished r => cases h

/-- A call that advances gets further. -/
theorem Advance.call {s : Scheduler ρ} {st st' : σ} {id : TaskId} {m : Move ρ} {k : Key} {x : ρ}
    {p : Call} {t' : Task ρ} {metrics : Metrics}
    (h : Advance s st id m (.call k x p) t' metrics st') :
    ∃ p', t' = .call k x p' ∧ p.rank < p'.rank := by
  cases h with
  | callRead _ => exact ⟨_, rfl, by simp⟩
  | callUnread _ => exact ⟨_, rfl, by simp⟩
  | callServed _ => exact ⟨_, rfl, by simp⟩
  | callJoined _ _ => exact ⟨_, rfl, Task.rank_boarded _ _ _⟩
  | callReceived _ => exact ⟨_, rfl, by simp⟩
  | callAbandoned hover => exact ⟨_, rfl, rank_lt_abandoned hover⟩

/-- A task that advances gets later. -/
theorem Advance.later {s : Scheduler ρ} {st st' : σ} {id : TaskId} {m : Move ρ} {t t' : Task ρ}
    {metrics : Metrics} (h : Advance s st id m t t' metrics st') : t.Later t' := by
  cases t with
  | call k x p =>
    obtain ⟨p', rfl, hp⟩ := h.call
    exact .call (.inr hp)
  | flight k o x p =>
    cases h with
    | flightRead _ => exact .flight (by simp) fun _ h => by cases h
    | flightUnread _ => exact .flight (by simp) fun _ h => by cases h
    | flightSuperseded _ => exact .flight (by simp) fun _ h => by cases h
    | renderStarted _ => exact .flight (by simp) fun _ h => by cases h
    | renderSucceeded => exact .flight (by simp) fun _ h => by cases h
    | renderFailed _ _ => exact .flight (by simp) fun _ h => by cases h
    | putRefused _ => exact .flight (by simp) fun _ h => by cases h
    | putFailed _ => exact .flight (by simp) fun _ h => by cases h
  | removal k p => cases h <;> exact .upkeep rfl rfl
  | purge p => cases h <;> exact .upkeep rfl rfl
  | survey p => cases h <;> exact .upkeep rfl rfl
  | compaction c => cases h <;> exact .upkeep rfl rfl
  | rebuild r => cases h <;> exact .upkeep rfl rfl

/-- A flight has a result when it is over. -/
theorem flightResult?_eq_some_iff {s : Scheduler ρ} {f : FlightId}
    {result : Except LookupError Entry} :
    s.flightResult? f = some result ↔
      ∃ k o x, s.tasks[f]? = some (.flight k o x (.finished result)) := by
  unfold flightResult?
  constructor
  · intro h
    obtain ⟨t, ht, hr⟩ := Option.bind_eq_some_iff.mp h
    cases t with
    | flight k o x phase =>
      cases phase with
      | finished r =>
        cases hr
        exact ⟨k, o, x, ht⟩
      | _ => cases hr
    | _ => cases hr
  · rintro ⟨k, o, x, ht⟩
    rw [ht]
    rfl

/-- Each task of one scheduler is there in another, as it was or later. -/
def AllLater (s s' : Scheduler ρ) : Prop :=
  ∀ (i : TaskId) (t : Task ρ), s.tasks[i]? = some t → ∃ t', s'.tasks[i]? = some t' ∧ t.Later t'

theorem AllLater.refl (s : Scheduler ρ) : AllLater s s := fun _ t h => ⟨t, h, .refl t⟩

theorem AllLater.trans {s s' s'' : Scheduler ρ} (h : AllLater s s') (h' : AllLater s' s'') :
    AllLater s s'' := by
  intro i t ht
  obtain ⟨t', ht', hl⟩ := h i t ht
  obtain ⟨t'', ht'', hl'⟩ := h' i t' ht'
  exact ⟨t'', ht'', hl.trans hl'⟩

/-- A call stays a call of its key with its source. -/
theorem AllLater.call {s s' : Scheduler ρ} (h : AllLater s s') {c : TaskId} {k : Key} {x : ρ}
    {p : Call} (hc : s.tasks[c]? = some (.call k x p)) :
    ∃ p', s'.tasks[c]? = some (.call k x p') ∧ (p' = p ∨ p.rank < p'.rank) := by
  obtain ⟨t', ht', hl⟩ := h c _ hc
  cases hl with
  | call hp => exact ⟨_, ht', hp⟩
  | upkeep hu _ => cases hu

/-- A flight stays a flight with what it was started with. -/
theorem AllLater.flight {s s' : Scheduler ρ} (h : AllLater s s') {f : FlightId} {k : Key}
    {o : Option Generation} {x : ρ} {p : Flight} (hf : s.tasks[f]? = some (.flight k o x p)) :
    ∃ p', s'.tasks[f]? = some (.flight k o x p') ∧ p.rank ≤ p'.rank ∧
      ∀ r, p = .finished r → p' = .finished r := by
  obtain ⟨t', ht', hl⟩ := h f _ hf
  cases hl with
  | flight hr hfin => exact ⟨_, ht', hr, hfin⟩
  | upkeep hu _ => cases hu

/-- A result that is there stays. -/
theorem AllLater.flightResult? {s s' : Scheduler ρ} (h : AllLater s s') {f : FlightId}
    {result : Except LookupError Entry} (hf : s.flightResult? f = some result) :
    s'.flightResult? f = some result := by
  obtain ⟨k, o, x, ht⟩ := flightResult?_eq_some_iff.mp hf
  obtain ⟨p', ht', -, hfin⟩ := h.flight ht
  rw [hfin result rfl] at ht'
  exact flightResult?_eq_some_iff.mpr ⟨k, o, x, ht'⟩

/-- A new task does not touch the others. -/
theorem allLater_spawn (s : Scheduler ρ) (u : Task ρ) : AllLater s (s.spawn u) := by
  intro i t ht
  exact ⟨t, getElem?_spawn_of_some ht u, .refl t⟩

/-- A task that gets later does not touch the others. -/
theorem allLater_setTask {s : Scheduler ρ} {id : TaskId} {u u' : Task ρ}
    (h : s.tasks[id]? = some u) (hl : u.Later u') : AllLater s (s.setTask id u') := by
  intro i t ht
  rw [getElem?_setTask h]
  by_cases hi : i = id
  · subst hi
    rw [if_pos rfl]
    obtain rfl : u = t := Option.some.inj (h.symm.trans ht)
    exact ⟨u', rfl, hl⟩
  · rw [if_neg hi]
    exact ⟨t, ht, .refl t⟩

/-- **One move** leaves every task as it is or gets it later. -/
theorem later_of_transition {s s' : Scheduler ρ} {st st' : σ} {m : Move ρ}
    (h : Transition s st m s' st') : AllLater s s' := by
  cases h with
  | opened _ => exact allLater_spawn s _
  | forgotten k => exact allLater_spawn s _
  | detached t => exact allLater_spawn s _
  | advanced ht ha => exact allLater_setTask ht ha.later
  | @led id k x found now ht _ _ =>
    -- first the flight comes into being, then the call boards it
    have hspawn := allLater_spawn s (.flight k (found.map Entry.generation) x .checking)
    have ht' := getElem?_spawn_of_some ht (.flight k (found.map Entry.generation) x .checking)
    exact hspawn.trans (allLater_setTask ht' (.call (.inr (Task.rank_boarded _ _ _))))
  | ended ht => exact allLater_setTask ht (.flight (by simp) fun _ h => by cases h)
  | stored ht _ => exact allLater_setTask ht (.flight (by simp) fun _ h => by cases h)
  | linked ht => exact allLater_setTask ht (.flight (by simp) fun _ h => by cases h)
  | removed ht _ => exact allLater_setTask ht (.upkeep rfl rfl)
  | relinked ht => exact allLater_setTask ht (.upkeep rfl rfl)
  | purged ht _ _ => exact allLater_setTask ht (.upkeep rfl rfl)
  | restored ht => exact allLater_setTask ht (.upkeep rfl rfl)
  | dropped ht => exact allLater_setTask ht (.upkeep rfl rfl)
  | rebuilt ht => exact allLater_setTask ht (.upkeep rfl rfl)

/-- **One event** leaves every task as it is or gets it later. -/
theorem later_of_occurs {s s' : Scheduler ρ} {st st' : σ} {e : Event ρ}
    (h : Occurs s st e s' st') : AllLater s s' := by
  cases h with
  | moved ht => exact later_of_transition ht
  | @flightBroke id k o x phase message ht hover =>
    refine allLater_setTask ht (.flight ?_ ?_)
    · cases phase with
      | finished r => cases hover
      | _ => simp
    · rintro r rfl
      cases hover
  | callBroke ht hover => exact allLater_setTask ht (.call (.inr (rank_lt_abandoned hover)))
  | otherBroke _ _ => exact .refl s

/-- **The call of an event** gets further. -/
theorem Occurs.advances {s s' : Scheduler ρ} {st st' : σ} {e : Event ρ} {c : TaskId} {k : Key}
    {x : ρ} {p : Call} (h : Occurs s st e s' st') (he : e.actor? = some c)
    (hc : s.tasks[c]? = some (.call k x p)) :
    ∃ p', s'.tasks[c]? = some (.call k x p') ∧ p.rank < p'.rank := by
  cases h with
  | moved ht =>
    cases ht with
    | opened ho => cases ho <;> cases he
    | forgotten k => cases he
    | detached t => cases he
    | @advanced _ id t t' metrics _ ht ha =>
      obtain rfl : id = c := Option.some.inj (ha.actor.symm.trans he)
      obtain rfl : t = .call k x p := Option.some.inj (ht.symm.trans hc)
      obtain ⟨p', rfl, hp⟩ := ha.call
      exact ⟨p', getElem?_setTask_self (s := { s with metrics }) ht _, hp⟩
    | led ht _ _ =>
      cases he
      cases ht.symm.trans hc
      refine ⟨_, (getElem?_setTask_spawn hc _ _ _).trans (if_pos rfl), Task.rank_boarded _ _ _⟩
    | ended ht => cases he; cases ht.symm.trans hc
    | stored ht _ => cases he; cases ht.symm.trans hc
    | linked ht => cases he; cases ht.symm.trans hc
    | removed ht _ => cases he; cases ht.symm.trans hc
    | relinked ht => cases he; cases ht.symm.trans hc
    | purged ht _ _ => cases he; cases ht.symm.trans hc
    | restored ht => cases he; cases ht.symm.trans hc
    | dropped ht => cases he; cases ht.symm.trans hc
    | rebuilt ht => cases he; cases ht.symm.trans hc
  | flightBroke ht _ => cases he; cases ht.symm.trans hc
  | callBroke ht hover =>
    cases he
    cases ht.symm.trans hc
    exact ⟨_, getElem?_setTask_self ht _, rank_lt_abandoned hover⟩
  | otherBroke ht hu =>
    cases he
    cases ht.symm.trans hc
    cases hu

/-- **A whole run** gets every task later. -/
theorem EventRun.later (r : EventRun ρ σ) {i j : Nat} (hij : i ≤ j) (hj : j ≤ r.length) :
    AllLater (r.state i).1 (r.state j).1 :=
  r.stays (P := fun y => AllLater (r.state i).1 y.1) (.refl _)
    (fun n _ hn h => h.trans (later_of_occurs (.of_happen (r.step n hn)))) j hij hj

theorem MoveRun.later (r : MoveRun ρ σ) {i j : Nat} (hij : i ≤ j) (hj : j ≤ r.length) :
    AllLater (r.state i).1 (r.state j).1 :=
  r.stays (P := fun y => AllLater (r.state i).1 y.1) (.refl _)
    (fun n _ hn h => h.trans (later_of_transition (.of_moved (r.step n hn)))) j hij hj

end Scheduler

end PageCache
