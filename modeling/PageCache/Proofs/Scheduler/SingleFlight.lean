import PageCache.Proofs.Scheduler.Abandon
import PageCache.Proofs.Scheduler.Flying
import PageCache.Proofs.Scheduler.Served
import PageCache.Store.Memory

/-!
# Single flight

However the calls of a scheduler interleave, renders fail and tasks break down, all renders of a key
go through one flight. `single_flight` says what that means along a run:

* **one at a time** — the table has the record of a flight exactly as long as the flight is not
  over, and a key never has two flights under way;
* **one render** — a flight starts to render at most once, from the source of the one call that led
  it; a call that joined a flight leads none, so its own source is never rendered;
* **one result** — all who wait for a flight receive the same result, after its record is gone;
* **giving up** — a call that gives up changes nothing for anybody else.
-/

namespace PageCache

namespace Scheduler

variable {ρ σ : Type} [Store σ]

namespace EventRun

variable {r : EventRun ρ σ} {i j : Nat} {c d : TaskId} {f g : FlightId} {k : Key} {x y : ρ}

/-- The event `i` is about the task `c` and brings the flight `f` into being. -/
structure Leads (r : EventRun ρ σ) (i : Nat) (c : TaskId) (f : FlightId) : Prop where
  /-- the event is part of the run -/
  lt : i < r.length
  /-- it is about the task -/
  actor : (r.event i).actor? = some c
  /-- the flight is not there before -/
  absent : (r.state i).1.tasks[f]? = none
  /-- it is there afterwards -/
  present : ∃ k o x p, (r.state (i + 1)).1.tasks[f]? = some (.flight k o x p)

/-- At the event `i` the call `c`, which needs a regeneration, finds the flight `f` on record. -/
structure Joins (r : EventRun ρ σ) (i : Nat) (c : TaskId) (f : FlightId) : Prop where
  /-- the event is part of the run -/
  lt : i < r.length
  /-- the call goes on with what it read, which is not fresh, and its key has the flight -/
  recorded : ∃ k x found now, r.event i = .move (.proceed c now) ∧
    (r.state i).1.tasks[c]? = some (.call k x (.read found)) ∧
    (r.state i).1.policy.classify found now ≠ .fresh ∧
    (r.state i).1.flights.records.get? k = some f

/-- At the event `i` the flight `f` hands its source to the renderer. -/
structure StartsRender (r : EventRun ρ σ) (i : Nat) (f : FlightId) : Prop where
  /-- the event is part of the run -/
  lt : i < r.length
  /-- the renderer is not at work before -/
  idle : ∀ k x, ¬ (r.state i).1.Rendering f k x
  /-- it is at work afterwards -/
  rendering : ∃ k x, (r.state (i + 1)).1.Rendering f k x

/-- **Single flight**, along a run. -/
structure SingleFlight (r : EventRun ρ σ) : Prop where
  /-- the table has the record of a flight exactly as long as the flight is not over -/
  recorded : ∀ i ≤ r.length, ∀ k (f : FlightId),
    (r.state i).1.flights.records.get? k = some f ↔ (r.state i).1.Flying k f
  /-- a key has no two flights under way -/
  alone : ∀ i ≤ r.length, ∀ k (f g : FlightId),
    (r.state i).1.Flying k f → (r.state i).1.Flying k g → f = g
  /-- a key has no two renders under way -/
  renders_alone : ∀ i ≤ r.length, ∀ k (f g : FlightId) x y,
    (r.state i).1.Rendering f k x → (r.state i).1.Rendering g k y → f = g
  /-- a flight starts to render at most once -/
  renders_once : ∀ i j f, r.StartsRender i f → r.StartsRender j f → i = j
  /-- a flight has been led by a call of its key, whose source it renders -/
  led : ∀ i ≤ r.length, ∀ (f : FlightId) k o x p, (r.state i).1.tasks[f]? = some (.flight k o x p) →
    ∃ j < i, ∃ c phase, r.Leads j c f ∧ (r.state j).1.tasks[c]? = some (.call k x phase)
  /-- a flight has one leader -/
  leader_unique : ∀ i j c d f, r.Leads i c f → r.Leads j d f → i = j ∧ c = d
  /-- a call leads one flight -/
  leads_once : ∀ i j c f g, r.Leads i c f → r.Leads j c g → i = j ∧ f = g
  /-- a call that joins a flight leads none -/
  joined : ∀ i j c f g, r.Joins i c f → ¬ r.Leads j c g
  /-- a source that only calls bring which join is never rendered -/
  unrendered : ∀ x,
    (∀ (c : TaskId) k p, (r.state r.length).1.tasks[c]? = some (.call k x p) →
      ∃ i f, r.Joins i c f) →
    ∀ i ≤ r.length, ∀ (f : FlightId) k, ¬ (r.state i).1.Rendering f k x
  /-- a call that waits for a flight has led it or joined it, and it is a flight of its key -/
  boarded : ∀ i ≤ r.length, ∀ (c : TaskId) k x found (f : FlightId),
    (r.state i).1.tasks[c]? = some (.call k x (.waiting found f)) →
    (∃ j < i, r.Leads j c f ∨ r.Joins j c f) ∧
      ∃ o y p, (r.state i).1.tasks[f]? = some (.flight k o y p)
  /-- what a waiting call receives is the one result of its flight, whose record is gone: the entry
  with its body and its generation, or the error, beside what the call had read or by itself -/
  received : ∀ i < r.length, ∀ (c : TaskId) k x found (f : FlightId) out,
    (r.state i).1.tasks[c]? = some (.call k x (.waiting found f)) →
    (r.state (i + 1)).1.tasks[c]? = some (.call k x (.finished out)) →
    ∃ result, (r.state r.length).1.flightResult? f = some result ∧ out = (receive found result).1 ∧
      Delivers found result out ∧ ∀ j, (r.state i).1.flights.records.get? j ≠ some f
  /-- when its flight is over, a waiting call can receive the result -/
  delivered : ∀ i ≤ r.length, ∀ (c : TaskId) k x found (f : FlightId) result now,
    (r.state i).1.tasks[c]? = some (.call k x (.waiting found f)) →
    (r.state i).1.flightResult? f = some result →
    ∃ y, happen (r.state i) (.move (.proceed c now)) = some y ∧
      y.1.tasks[c]? = some (.call k x (.finished (receive found result).1)) ∧
      Delivers found result (receive found result).1
  /-- a call can be given up, and whatever happens to the others happens in the same way, with the
  same outcome, as without it -/
  given_up : ∀ i ≤ r.length, ∀ (c : TaskId) k x phase,
    (r.state i).1.tasks[c]? = some (.call k x phase) →
    (Task.call k x phase).isOver = false →
    happen (r.state i) (.move (.abandon c)) =
      some ((r.state i).1.abandoned c k x, (r.state i).2) ∧
    ∀ es : List (Event ρ), (∀ e ∈ es, e.actor? ≠ some c) →
      es.foldlM happen ((r.state i).1.abandoned c k x, (r.state i).2) =
        (es.foldlM happen (r.state i)).map fun y => (y.1.abandoned c k x, y.2)

/-! ## Leading and joining -/

/-- What is known when a flight is led. -/
theorem Leads.boarding (h : r.Leads i c f) : ∃ m k x found, r.event i = .move m ∧
    Boarding (r.state i).1 m c k x found f (r.state (i + 1)).1 ∧
    (r.state i).1.flights.records.get? k = none := by
  obtain ⟨k, o, x, p, hf⟩ := h.present
  obtain ⟨m, c', found, hm, hb, hk, -⟩ := (Occurs.of_happen (r.step i h.lt)).newFlight h.absent hf
  obtain ⟨now, rfl, -⟩ := hb.goes_on
  obtain rfl : c' = c := by
    have hactor := h.actor
    rw [hm] at hactor
    exact Option.some.inj hactor
  exact ⟨_, k, x, found, hm, hb, hk⟩

/-- A call goes on from what it read at most once: once it has, it is further. -/
theorem not_read_later (r : EventRun ρ σ) {found found' : Option Entry} (hij : i < j)
    (hj : j < r.length) (hactor : (r.event i).actor? = some c)
    (hi : (r.state i).1.tasks[c]? = some (.call k x (.read found)))
    (hj' : (r.state j).1.tasks[c]? = some (.call k y (.read found'))) : False := by
  obtain ⟨p, hp, hrank⟩ := (Occurs.of_happen (r.step i (by omega))).advances hactor hi
  obtain ⟨p', hp', hlater⟩ := (r.later (show i + 1 ≤ j by omega) (by omega)).call hp
  cases hp'.symm.trans hj'
  simp only [Call.rank] at hrank hlater
  rcases hlater with rfl | hlater
  · simp at hrank
  · omega

/-- The two events at which a call goes on from what it read are the same. -/
theorem eq_of_read (r : EventRun ρ σ) {k' : Key} {found found' : Option Entry} (hi : i < r.length)
    (hj : j < r.length) (hai : (r.event i).actor? = some c) (haj : (r.event j).actor? = some c)
    (hti : (r.state i).1.tasks[c]? = some (.call k x (.read found)))
    (htj : (r.state j).1.tasks[c]? = some (.call k' y (.read found'))) : i = j := by
  rcases Nat.lt_trichotomy i j with hlt | heq | hlt
  · obtain ⟨p, hp, -⟩ := (r.later (Nat.le_of_lt hlt) (Nat.le_of_lt hj)).call hti
    cases hp.symm.trans htj
    exact (r.not_read_later hlt hj hai hti htj).elim
  · exact heq
  · obtain ⟨p, hp, -⟩ := (r.later (Nat.le_of_lt hlt) (Nat.le_of_lt hi)).call htj
    cases hp.symm.trans hti
    exact (r.not_read_later hlt hi haj htj hti).elim

theorem Leads.unique (h : r.Leads i c f) (h' : r.Leads j d f) : i = j ∧ c = d := by
  have hnot : ∀ {a b : Nat} {u v : TaskId}, r.Leads a u f → r.Leads b v f → ¬ a < b := by
    intro a b u v ha hb hlt
    obtain ⟨k, o, x, p, hp⟩ := ha.present
    obtain ⟨p', hp', -, -⟩ := (r.later (show a + 1 ≤ b by omega) (Nat.le_of_lt hb.lt)).flight hp
    rw [hb.absent] at hp'
    cases hp'
  obtain rfl : i = j :=
    Nat.le_antisymm (Nat.le_of_not_lt (hnot h' h)) (Nat.le_of_not_lt (hnot h h'))
  exact ⟨rfl, Option.some.inj (h.actor.symm.trans h'.actor)⟩

theorem Leads.once (h : r.Leads i c f) (h' : r.Leads j c g) : i = j ∧ f = g := by
  obtain ⟨m, k, x, found, hm, hb, -⟩ := h.boarding
  obtain ⟨m', k', x', found', hm', hb', -⟩ := h'.boarding
  obtain rfl : i = j := r.eq_of_read h.lt h'.lt h.actor h'.actor hb.read hb'.read
  cases hb.read.symm.trans hb'.read
  exact ⟨rfl, Option.some.inj (hb.recorded.symm.trans hb'.recorded)⟩

theorem Joins.not_leads (h : r.Joins i c f) : ¬ r.Leads j c g := by
  intro h'
  obtain ⟨k, x, found, now, he, ht, -, hk⟩ := h.recorded
  obtain ⟨m, k', x', found', hm, hb, hk'⟩ := h'.boarding
  have hactor : (r.event i).actor? = some c := by
    rw [he]
    rfl
  -- a call goes on from what it read once, and then the record was there or was not
  obtain rfl : i = j := r.eq_of_read h.lt h'.lt hactor h'.actor ht hb.read
  cases ht.symm.trans hb.read
  rw [hk] at hk'
  cases hk'

/-- A flight has been led by a call of its key with its source. -/
theorem exists_leads {policy : Policy} {renderTimeout : Duration}
    (h₀ : (r.state 0).1 = new policy renderTimeout) (hi : i ≤ r.length) {o : Option Generation}
    {p : Flight} (hf : (r.state i).1.tasks[f]? = some (.flight k o x p)) :
    ∃ j < i, ∃ c phase, r.Leads j c f ∧ (r.state j).1.tasks[c]? = some (.call k x phase) := by
  -- the event at which the task comes into being
  obtain ⟨j, -, hj, hn, hs⟩ := r.exists_change (P := fun y => (y.1.tasks[f]?).isSome)
    (Nat.zero_le i) (by rw [h₀]; simp [new]) (by rw [hf]; rfl)
  obtain ⟨t, ht⟩ := Option.isSome_iff_exists.mp hs
  obtain ⟨t', ht', hlater⟩ := r.later (show j + 1 ≤ i by omega) hi f t ht
  cases ht'.symm.trans hf
  have hn' : (r.state j).1.tasks[f]? = none := by simpa using hn
  cases hlater with
  | flight _ _ =>
    obtain ⟨m, c, found, hm, hb, -, -⟩ :=
      (Occurs.of_happen (r.step j (by omega))).newFlight hn' ht
    have hactor : (r.event j).actor? = some c := by
      rw [hm]
      exact hb.actor
    exact ⟨j, hj, c, _, ⟨by omega, hactor, hn', ⟨_, _, _, _, ht⟩⟩, hb.read⟩
  | upkeep _ hu => cases hu

/-! ## Rendering -/

theorem StartsRender.once (h : r.StartsRender i f) (h' : r.StartsRender j f) : i = j := by
  have hnot : ∀ {a b : Nat}, r.StartsRender a f → r.StartsRender b f → ¬ a < b := by
    intro a b ha hb hlt
    obtain ⟨k, x, o, hr⟩ := ha.rendering
    obtain ⟨p, hp, hrank, -⟩ :=
      (r.later (show a + 1 ≤ b by omega) (Nat.le_of_lt hb.lt)).flight hr
    obtain ⟨k', x', o', hr'⟩ := hb.rendering
    obtain ⟨p', hp', hrank', -⟩ := (r.later (Nat.le_succ b) hb.lt).flight hp
    cases hp'.symm.trans hr'
    cases p with
    | rendering => exact hb.idle k x ⟨o, hp⟩
    | _ => simp at hrank hrank'
  exact Nat.le_antisymm (Nat.le_of_not_lt (hnot h' h)) (Nat.le_of_not_lt (hnot h h'))

/-! ## Waiting -/

/-- What a call waits for it has boarded. -/
theorem exists_boards {policy : Policy} {renderTimeout : Duration}
    (h₀ : (r.state 0).1 = new policy renderTimeout) (hi : i ≤ r.length) {found : Option Entry}
    (hc : (r.state i).1.tasks[c]? = some (.call k x (.waiting found f))) :
    ∃ j < i, r.Leads j c f ∨ r.Joins j c f := by
  -- the event at which the call comes to wait
  obtain ⟨j, -, hj, hn, hw⟩ :=
    r.exists_change (P := fun y => y.1.tasks[c]? = some (.call k x (.waiting found f)))
      (Nat.zero_le i) (by rw [h₀]; simp [new]) hc
  obtain hw | ⟨m, hm, hb⟩ := (Occurs.of_happen (r.step j (by omega))).waiting hw
  · exact absurd hw hn
  · refine ⟨j, hj, ?_⟩
    rcases hb.joined_or_led with hk | ⟨-, habsent, hpresent⟩
    · obtain ⟨now, rfl, hfresh⟩ := hb.goes_on
      exact .inr ⟨by omega, k, x, found, now, hm, hb.read, hfresh, hk⟩
    · refine .inl ⟨by omega, ?_, habsent, ⟨_, _, _, _, hpresent⟩⟩
      rw [hm]
      exact hb.actor

/-! ## The main result -/

/-- **Single flight.** Every run of a scheduler that has done nothing before has one flight a key,
one render a flight and one result for all who wait. -/
theorem single_flight (r : EventRun ρ σ) (policy : Policy) (renderTimeout : Duration)
    (h₀ : (r.state 0).1 = new policy renderTimeout) : SingleFlight r where
  recorded i hi := (r.oneFlight h₀ i hi).1
  alone i hi k f g hf hg := (r.oneFlight h₀ i hi).1.unique hf hg
  renders_alone i hi k f g x y hf hg := (r.oneFlight h₀ i hi).1.unique hf.flying hg.flying
  renders_once i j f h h' := h.once h'
  led i hi f k o x p hf := exists_leads h₀ hi hf
  leader_unique i j c d f h h' := h.unique h'
  leads_once i j c f g h h' := h.once h'
  joined i j c f g h := h.not_leads
  unrendered := by
    rintro x hx i hi f k ⟨o, hf⟩
    obtain ⟨j, hj, c, phase, hlead, hc⟩ := exists_leads h₀ hi hf
    obtain ⟨p', hc', -⟩ := (r.later (show j ≤ r.length by omega) (Nat.le_refl _)).call hc
    obtain ⟨i', f', hjoin⟩ := hx c k p' hc'
    exact hjoin.not_leads hlead
  boarded i hi c k x found f hc := ⟨exists_boards h₀ hi hc, (r.oneFlight h₀ i hi).2 hc⟩
  received := by
    intro i hi c k x found f out hc hc'
    obtain ⟨result, hf, rfl⟩ := (Occurs.of_happen (r.step i hi)).received hc hc'
    have hone := (r.oneFlight h₀ i (Nat.le_of_lt hi)).1
    exact ⟨result, (r.later (Nat.le_of_lt hi) (Nat.le_refl _)).flightResult? hf, rfl,
      delivers_receive found result, hone.not_recorded hf⟩
  delivered := by
    intro i hi c k x found f result now hc hf
    obtain ⟨y, hy, hc'⟩ : ∃ y, happen (r.state i) (.move (.proceed c now)) = some y ∧ _ :=
      exists_received hc hf now
    exact ⟨y, hy, hc', delivers_receive found result⟩
  given_up i hi c k x phase hc hover :=
    ⟨happen_abandon hc hover, fun _ he => foldlM_abandoned he hc⟩

/-- Two calls of a key, of which the second joins the flight of the first. The first gives up, the
flight breaks down while it renders, and the second receives the failure. -/
def sharedFailure : List (Event Nat) :=
  [.move (.lookup ⟨"home"⟩ 1), .move (.lookup ⟨"home"⟩ 2),
    .move (.storeCall 0 (.get ⟨"home"⟩) none), .move (.storeCall 1 (.get ⟨"home"⟩) none),
    .move (.proceed 0 .epoch), .move (.proceed 1 .epoch),
    .move (.storeCall 2 (.get ⟨"home"⟩) none), .move (.proceed 2 .epoch),
    .move (.abandon 0), .breakDown 2 "lost", .move (.proceed 2 .epoch), .move (.proceed 1 .epoch)]

/-- The run of these events over an empty store. -/
def sharedFailureRun : EventRun Nat MemoryStore :=
  .ofList (new ⟨none⟩ (.ofSecs 5), .unbounded) sharedFailure rfl

theorem single_flight_when_failure_shared :
    (sharedFailureRun.state 0).1 = new ⟨none⟩ (.ofSecs 5) ∧ SingleFlight sharedFailureRun ∧
      (sharedFailureRun.state 12).1.tasks[1]? =
        some (.call ⟨"home"⟩ 2 (.finished (.error (.render (.aborted "lost"))))) :=
  ⟨rfl, single_flight sharedFailureRun ⟨none⟩ (.ofSecs 5) rfl, rfl⟩

end EventRun

end Scheduler

end PageCache
