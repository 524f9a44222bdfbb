import PageCache.Proofs.Scheduler.Moves
import PageCache.Proofs.Scheduler.Phases
import PageCache.Proofs.Scheduler.Standing
import PageCache.Proofs.Store.Backend

/-!
# Schedulers that share a store

A `Cluster` is any number of schedulers over one store, in memory or in a folder. Each has its own
tag index, its own flights and its own tasks, and an event is one of one of them; all that they have
in common is what the store holds.

* `Cluster.happen_cases` — an event is one of one scheduler, and the others do not see it;
* `exists_leads`, `exists_reads` — where the flights of a run, and what they observed, come from.
-/

namespace PageCache

/-- Only a flight with an entry writes it. -/
theorem Task.eq_of_put_mem {ρ : Type} {t : Task ρ} {e : Entry} {o : Option Generation}
    (h : .put e o ∈ t.storeCalls) : ∃ k x, t = .flight k o x (.committing e) := by
  cases t with
  | flight k o' x p =>
    cases p <;> simp [storeCalls] at h
    obtain ⟨rfl, rfl⟩ := h
    exact ⟨k, x, rfl⟩
  | call k x p => cases p <;> simp [storeCalls] at h
  | removal k p => cases p <;> simp [storeCalls] at h
  | rebuild r =>
    cases r with
    | reading due built => cases due <;> simp [storeCalls] at h
    | _ => simp [storeCalls] at h
  | purge p | survey p | compaction p => simp [storeCalls] at h

/-! ## Clusters -/

/-- Schedulers that share a store. -/
structure Cluster (ρ : Type) where
  /-- the schedulers -/
  schedulers : List (Scheduler ρ)
  /-- their store -/
  store : Backend

namespace Cluster

variable {ρ : Type} {y y' : Cluster ρ} {n n' : Nat} {e : Event ρ}

/-- The cluster after an event of the scheduler of a number, if it can happen. -/
def happen (y : Cluster ρ) (e : Nat × Event ρ) : Option (Cluster ρ) := do
  let s ← y.schedulers[e.1]?
  let (s, store) ← Scheduler.happen (s, y.store) e.2
  return ⟨y.schedulers.set e.1 s, store⟩

/-- A task of the scheduler of a number. -/
def task? (y : Cluster ρ) (n : Nat) (i : TaskId) : Option (Task ρ) :=
  y.schedulers[n]?.bind fun s => s.tasks[i]?

/-- Schedulers that have done nothing, over a store in which there is nothing. -/
structure New (y : Cluster ρ) : Prop where
  /-- the schedulers are new -/
  schedulers : ∀ s ∈ y.schedulers, ∃ policy renderTimeout, s = .new policy renderTimeout
  /-- the store is empty -/
  store : y.store.Empty

/-- A new scheduler has no task. -/
theorem New.task? (h : New y) (n : Nat) (i : TaskId) : y.task? n i = none := by
  rw [Cluster.task?, Option.bind_eq_none_iff]
  intro s hs
  obtain ⟨policy, renderTimeout, rfl⟩ := h.schedulers s (List.mem_of_getElem? hs)
  rfl

/-- **An event** is one of one scheduler. -/
theorem happen_cases (h : happen y (n, e) = some y') :
    ∃ s s', y.schedulers[n]? = some s ∧
      Scheduler.happen (s, y.store) e = some (s', y'.store) ∧
      y'.schedulers = y.schedulers.set n s' := by
  obtain ⟨s, hs, h⟩ := Option.bind_eq_some_iff.mp h
  obtain ⟨⟨s', store⟩, hs', h⟩ := Option.bind_eq_some_iff.mp h
  cases h
  exact ⟨s, s', hs, hs', rfl⟩

/-- The others do not see it. -/
theorem task?_after {s s' : Scheduler ρ} (hs : y.schedulers[n]? = some s)
    (hset : y'.schedulers = y.schedulers.set n s') (n' : Nat) (i : TaskId) :
    y'.task? n' i = if n' = n then s'.tasks[i]? else y.task? n' i := by
  have hlt : n < y.schedulers.length := (List.getElem?_eq_some_iff.mp hs).1
  unfold task?
  rw [hset, List.getElem?_set]
  by_cases hn : n' = n
  · rw [if_pos hn.symm, if_pos hn, if_pos (hn ▸ hlt)]
    rfl
  · rw [if_neg (Ne.symm hn), if_neg hn]

/-- A task of a scheduler that is there. -/
theorem task?_of_scheduler {s : Scheduler ρ} (hs : y.schedulers[n]? = some s) (i : TaskId) :
    y.task? n i = s.tasks[i]? := by
  rw [task?, hs]
  rfl

end Cluster

/-- A run of a cluster. -/
abbrev ClusterRun (ρ : Type) := Run (Cluster.happen (ρ := ρ))

namespace ClusterRun

open Scheduler

variable {ρ : Type} (r : ClusterRun ρ) {i l j n : Nat} {c : TaskId} {f : FlightId} {k : Key}
  {found : Option Entry}

/-- At the event `l` a call reads its key. -/
structure Reads (l n : Nat) (c : TaskId) (k : Key) (found : Option Entry) : Prop where
  /-- the event is part of the run -/
  lt : l < r.length
  /-- the call asks the store, which answers -/
  asks : r.event l = (n, .move (.storeCall c (.get k) none)) ∧
    (Store.get (r.state l).store k).1 = .ok found
  /-- the answer is what it has read -/
  read : ∃ x, (r.state (l + 1)).task? n c = some (.call k x (.read found))

/-- At the event `j` a call starts a flight of its key for what it has read. -/
structure Leads (j n : Nat) (c : TaskId) (f : FlightId) (k : Key) (found : Option Entry) :
    Prop where
  /-- the event is part of the run -/
  lt : j < r.length
  /-- the call goes on -/
  goes_on : ∃ now, r.event j = (n, .move (.proceed c now))
  /-- it has read -/
  read : ∃ x, (r.state j).task? n c = some (.call k x (.read found))
  /-- the flight is new -/
  absent : (r.state j).task? n f = none
  /-- it observes the generation that the call has read -/
  started : ∃ x, (r.state (j + 1)).task? n f =
    some (.flight k (found.map Entry.generation) x .checking)

/-- An event of a run is one of one scheduler. -/
theorem exists_actor (hi : i < r.length) :
    ∃ n e s s', r.event i = (n, e) ∧ (r.state i).schedulers[n]? = some s ∧
      Scheduler.happen (s, (r.state i).store) e = some (s', (r.state (i + 1)).store) ∧
      (r.state (i + 1)).schedulers = (r.state i).schedulers.set n s' := by
  have hstep := r.step i hi
  rcases he : r.event i with ⟨n, e⟩
  rw [he] at hstep
  obtain ⟨s, s', hs, hh, hset⟩ := Cluster.happen_cases hstep
  exact ⟨n, e, s, s', rfl, hs, hh, hset⟩

/-- What a call has read it has read before. -/
theorem exists_reads (h₀ : (r.state 0).New) (hi : i ≤ r.length) {x : ρ}
    (hc : (r.state i).task? n c = some (.call k x (.read found))) :
    ∃ l < i, Reads r l n c k found := by
  -- the event at which the call comes to have read
  obtain ⟨l, -, hl, hnot, hread⟩ :=
    r.exists_change (P := fun y => y.task? n c = some (.call k x (.read found)))
      (Nat.zero_le i) (by rw [h₀.task?]; exact nofun) hc
  have hll : l < r.length := by omega
  obtain ⟨n', e, s, s', he, hs, hh, hset⟩ := exists_actor r hll
  have hafter := hread
  rw [Cluster.task?_after hs hset] at hafter
  split at hafter
  · rename_i hn
    subst hn
    rw [Cluster.task?_of_scheduler hs] at hnot
    refine ⟨l, hl, hll, ?_, x, hread⟩
    generalize (r.state (l + 1)).store = st' at hh
    cases Occurs.of_happen hh with
    | moved ht =>
      obtain hc₀ | ⟨-, fault, rfl, hask⟩ := ht.nowRead hafter
      · exact absurd hc₀ hnot
      · cases fault with
        | none => exact ⟨he, congrArg Prod.fst hask⟩
        | some err => cases hask
    | flightBroke hid _ | callBroke hid _ =>
      obtain ⟨-, ht⟩ | hc₀ := of_getElem?_setTask hid hafter
      · cases ht
      · exact absurd hc₀ hnot
    | otherBroke _ _ => exact absurd hafter hnot
  · exact absurd hafter hnot

/-- A flight has been led by a call of its key, for what the call had read. -/
theorem exists_leads (h₀ : (r.state 0).New) (hi : i ≤ r.length) {o : Option Generation} {x : ρ}
    {p : Flight} (hf : (r.state i).task? n f = some (.flight k o x p)) :
    ∃ j < i, ∃ c found, Leads r j n c f k found ∧ o = found.map Entry.generation := by
  -- the event at which the flight comes into being
  obtain ⟨j, -, hj, hnot, hnow⟩ :=
    r.exists_change (P := fun y => ∃ p, y.task? n f = some (.flight k o x p))
      (Nat.zero_le i) (by rw [h₀.task?]; rintro ⟨_, h⟩; cases h) ⟨p, hf⟩
  have hjl : j < r.length := by omega
  obtain ⟨n', e, s, s', he, hs, hh, hset⟩ := exists_actor r hjl
  obtain ⟨p', hp'⟩ := hnow
  have hafter := hp'
  rw [Cluster.task?_after hs hset] at hafter
  split at hafter
  · rename_i hn
    subst hn
    simp only [Cluster.task?_of_scheduler hs] at hnot
    generalize (r.state (j + 1)).store = st' at hh
    cases Occurs.of_happen hh with
    | moved ht =>
      obtain hf₀ | ⟨rfl, rfl, -, -, c, found, hb, rfl⟩ | ⟨p₀, hf₀, -⟩ := ht.flight hafter
      · exact absurd ⟨_, hf₀⟩ hnot
      · obtain ⟨now, rfl, -⟩ := hb.goes_on
        refine ⟨j, hj, c, found, ⟨hjl, ⟨now, he⟩, ⟨x, ?_⟩, ?_, x, hp'⟩, rfl⟩
        · rw [Cluster.task?_of_scheduler hs]
          exact hb.read
        · rw [Cluster.task?_of_scheduler hs]
          exact List.getElem?_eq_none (Nat.le_refl _)
      · exact absurd ⟨_, hf₀⟩ hnot
    | flightBroke hid _ =>
      obtain ⟨rfl, ht⟩ | hf₀ := of_getElem?_setTask hid hafter
      · cases ht
        exact absurd ⟨_, hid⟩ hnot
      · exact absurd ⟨_, hf₀⟩ hnot
    | callBroke hid _ =>
      obtain ⟨-, ht⟩ | hf₀ := of_getElem?_setTask hid hafter
      · cases ht
      · exact absurd ⟨_, hf₀⟩ hnot
    | otherBroke _ _ => exact absurd ⟨_, hafter⟩ hnot
  · exact absurd ⟨_, hafter⟩ hnot

/-- What flights have rendered is theirs all along a run. -/
theorem rendered (h₀ : (r.state 0).New) :
    ∀ i ≤ r.length, ∀ s ∈ (r.state i).schedulers, Rendered s := by
  refine r.invariant (P := fun y => ∀ s ∈ y.schedulers, Rendered s) ?_ ?_
  · intro s hs
    obtain ⟨policy, renderTimeout, rfl⟩ := h₀.schedulers s hs
    exact rendered_new policy renderTimeout
  · rintro y ⟨n, e⟩ y' he hy s hs
    obtain ⟨s₀, s', hs₀, hh, hset⟩ := Cluster.happen_cases he
    rw [hset] at hs
    obtain hs | rfl := List.mem_or_eq_of_mem_set hs
    · exact hy s hs
    · exact (hy s₀ (List.mem_of_getElem? hs₀)).of_occurs (.of_happen hh)

end ClusterRun

end PageCache
