import PageCache.Proofs.Scheduler.Phases

/-!
# One flight a key

The table of flights is a map from keys to flights, so a key has at most one record. That a key has
at most one flight under way is another matter: it holds because the table has the record of a
flight exactly as long as the flight is not over, which is the invariant `OneFlight`. A flight is
led only when there is no record, and the flight that ends clears its own.

A call that waits has a flight to wait for: `Awaited`.
-/

namespace PageCache

variable {ρ : Type}

/-- The key of a flight that is not over. -/
def Task.flyingKey? : Task ρ → Option Key
  | flight _ _ _ (.finished _) => none
  | flight k _ _ _ => some k
  | _ => none

/-- A flight has its key until it is over. -/
theorem Task.flyingKey?_flight {k : Key} {o : Option Generation} {x : ρ} {p : Flight}
    (h : (flight k o x p).isOver = false) : (flight k o x p).flyingKey? = some k := by
  cases p with
  | finished r => cases h
  | _ => rfl

namespace Scheduler

/-- The task `f` is a flight of the key, and it is not over. -/
def Flying (s : Scheduler ρ) (k : Key) (f : FlightId) : Prop :=
  s.tasks[f]?.bind Task.flyingKey? = some k

theorem flying_iff {s : Scheduler ρ} {k : Key} {f : FlightId} :
    s.Flying k f ↔
      ∃ o x p, s.tasks[f]? = some (.flight k o x p) ∧ (Task.flight k o x p).isOver = false := by
  unfold Flying
  constructor
  · intro h
    obtain ⟨t, ht, hk⟩ := Option.bind_eq_some_iff.mp h
    cases t with
    | flight j o x p =>
      cases p with
      | finished r => cases hk
      | _ =>
        cases hk
        exact ⟨o, x, _, ht, rfl⟩
    | _ => cases hk
  · rintro ⟨o, x, p, ht, hover⟩
    rw [ht]
    exact Task.flyingKey?_flight hover

theorem flying_of_getElem? {s : Scheduler ρ} {k : Key} {f : FlightId} {t : Task ρ}
    (h : s.tasks[f]? = some t) (hk : t.flyingKey? = some k) : s.Flying k f := by
  unfold Flying
  rw [h]
  exact hk

/-- The task `f` is a flight of the key with its renderer at work on the source. -/
def Rendering (s : Scheduler ρ) (f : FlightId) (k : Key) (x : ρ) : Prop :=
  ∃ o, s.tasks[f]? = some (.flight k o x .rendering)

/-- A flight that renders is under way. -/
theorem Rendering.flying {s : Scheduler ρ} {f : FlightId} {k : Key} {x : ρ}
    (h : s.Rendering f k x) : s.Flying k f := by
  obtain ⟨o, ht⟩ := h
  exact flying_of_getElem? ht rfl

/-- A flight is under way or has its result. -/
theorem flying_or_over {s : Scheduler ρ} {f : FlightId} {k : Key} {o : Option Generation} {x : ρ}
    {p : Flight} (h : s.tasks[f]? = some (.flight k o x p)) :
    s.Flying k f ∨ ∃ result, s.flightResult? f = some result := by
  cases p with
  | finished result => exact .inr ⟨result, flightResult?_eq_some_iff.mpr ⟨k, o, x, h⟩⟩
  | _ => exact .inl (flying_of_getElem? h rfl)

/-- A change of phase that keeps a flight under way keeps all flights under way. -/
theorem flying_setTask {s : Scheduler ρ} {id : TaskId} {t t' : Task ρ}
    (h : s.tasks[id]? = some t) (ht : t'.flyingKey? = t.flyingKey?) (k : Key) (f : FlightId) :
    (s.setTask id t').Flying k f ↔ s.Flying k f := by
  unfold Flying
  rw [getElem?_setTask h]
  by_cases hf : f = id
  · subst hf
    rw [if_pos rfl, h]
    simp only [Option.bind_some, ht]
  · rw [if_neg hf]

/-- A new task that is no flight leaves the flights under way as they are. -/
theorem flying_spawn {s : Scheduler ρ} {t : Task ρ} (ht : t.flyingKey? = none) (k : Key)
    (f : FlightId) : (s.spawn t).Flying k f ↔ s.Flying k f := by
  unfold Flying
  rw [getElem?_spawn]
  by_cases hf : f = s.tasks.length
  · subst hf
    rw [if_pos rfl, List.getElem?_eq_none (Nat.le_refl _)]
    simp only [Option.bind_some, ht, Option.bind_none]
  · rw [if_neg hf]

/-- **One flight a key.** The table has the record of a flight exactly as long as the flight is not
over. -/
def OneFlight (s : Scheduler ρ) : Prop :=
  ∀ k f, s.flights.records.get? k = some f ↔ s.Flying k f

/-- A key has no two flights under way. -/
theorem OneFlight.unique {s : Scheduler ρ} (h : OneFlight s) {k : Key} {f g : FlightId}
    (hf : s.Flying k f) (hg : s.Flying k g) : f = g :=
  Option.some.inj (((h k f).mpr hf).symm.trans ((h k g).mpr hg))

/-- A flight that is over is on record nowhere. -/
theorem OneFlight.not_recorded {s : Scheduler ρ} (h : OneFlight s) {f : FlightId}
    {result : Except LookupError Entry} (hf : s.flightResult? f = some result) (j : Key) :
    s.flights.records.get? j ≠ some f := by
  intro hj
  obtain ⟨k, o, x, ht⟩ := flightResult?_eq_some_iff.mp hf
  obtain ⟨o', x', p', ht', hover⟩ := flying_iff.mp ((h j f).mp hj)
  cases ht.symm.trans ht'
  cases hover

/-- The invariant looks at nothing but the table and the flights under way. -/
theorem OneFlight.of_flying {s s' : Scheduler ρ} (h : OneFlight s)
    (hflights : s'.flights = s.flights) (hflying : ∀ k f, s'.Flying k f ↔ s.Flying k f) :
    OneFlight s' := by
  intro k f
  rw [hflights, hflying]
  exact h k f

theorem oneFlight_new (policy : Policy) (renderTimeout : Duration) :
    OneFlight (new policy renderTimeout : Scheduler ρ) := by
  intro k f
  constructor
  · intro h
    cases h
  · intro h
    cases h

/-- A flight that is led has the only record of its key. -/
theorem OneFlight.led {s : Scheduler ρ} (h : OneFlight s) {id : TaskId} {t t' : Task ρ} {k : Key}
    (ht : s.tasks[id]? = some t) (hkey : t'.flyingKey? = t.flyingKey?)
    (hk : s.flights.records.get? k = none) (o : Option Generation) (x : ρ) (metrics : Metrics) :
    OneFlight (({ s with
      flights := ⟨s.flights.records.insert k s.tasks.length⟩
      metrics }.spawn (.flight k o x .checking)).setTask id t') := by
  have hlt : id < s.tasks.length := (List.getElem?_eq_some_iff.mp ht).1
  -- the flights under way are the new one and those of before
  have hflying : ∀ j f, ((s.spawn (.flight k o x .checking)).setTask id t').Flying j f ↔
      (f = s.tasks.length ∧ j = k) ∨ s.Flying j f := by
    intro j f
    unfold Flying
    rw [getElem?_setTask_spawn ht]
    by_cases hid : f = id
    · subst hid
      have hne : f ≠ s.tasks.length := Nat.ne_of_lt hlt
      rw [if_pos rfl, ht]
      simp only [Option.bind_some, hkey, hne, false_and, false_or]
    · rw [if_neg hid]
      by_cases hf : f = s.tasks.length
      · subst hf
        rw [if_pos rfl, List.getElem?_eq_none (Nat.le_refl _)]
        simp [Task.flyingKey?, eq_comm]
      · rw [if_neg hf]
        simp only [hf, false_and, false_or]
  intro j f
  show (s.flights.records.insert k s.tasks.length).get? j = some f ↔ _
  rw [SortedMap.get?_insert]
  refine Iff.trans ?_ (hflying j f).symm
  by_cases hj : k = j
  · subst hj
    rw [if_pos rfl]
    constructor
    · intro hf
      exact .inl ⟨(Option.some.inj hf).symm, rfl⟩
    · rintro (⟨rfl, -⟩ | hf)
      · rfl
      · have hsome := (h k f).mpr hf
        rw [hk] at hsome
        cases hsome
  · rw [if_neg hj, h j f]
    constructor
    · exact .inr
    · rintro (⟨-, rfl⟩ | hf)
      · exact absurd rfl hj
      · exact hf

/-- A flight that ends takes its own record with it. -/
theorem OneFlight.ended {s : Scheduler ρ} (h : OneFlight s) {id : FlightId} {k : Key}
    {o : Option Generation} {x : ρ} {p : Flight} (ht : s.tasks[id]? = some (.flight k o x p))
    (hover : (Task.flight k o x p).isOver = false) (result : Except LookupError Entry) :
    OneFlight ({ s with flights := s.flights.clear k id }.setTask id
      (.flight k o x (.finished result))) := by
  have hid : s.Flying k id := flying_of_getElem? ht (Task.flyingKey?_flight hover)
  -- the record of the key is the flight's own, so it is cleared
  have hclear : s.flights.clear k id = ⟨s.flights.records.erase k⟩ := if_pos ((h k id).mpr hid)
  have hflying : ∀ j f, (s.setTask id (.flight k o x (.finished result))).Flying j f ↔
      s.Flying j f ∧ f ≠ id := by
    intro j f
    unfold Flying
    rw [getElem?_setTask ht]
    by_cases hf : f = id
    · rw [if_pos hf]
      simp [Task.flyingKey?, hf]
    · rw [if_neg hf]
      simp [hf]
  intro j f
  show (s.flights.clear k id).records.get? j = some f ↔ _
  rw [hclear]
  refine Iff.trans ?_ (hflying j f).symm
  show (s.flights.records.erase k).get? j = some f ↔ _
  rw [SortedMap.get?_erase]
  by_cases hj : k = j
  · subst hj
    rw [if_pos rfl]
    constructor
    · intro hf
      cases hf
    · rintro ⟨hf, hne⟩
      exact absurd (h.unique hf hid) hne
  · rw [if_neg hj, h j f]
    constructor
    · intro hf
      refine ⟨hf, ?_⟩
      rintro rfl
      exact hj (Option.some.inj (hid.symm.trans hf))
    · exact And.left

variable {σ : Type} [Store σ]

/-- A task that advances stays under way if it was. -/
theorem Advance.flyingKey? {s : Scheduler ρ} {st st' : σ} {id : TaskId} {m : Move ρ}
    {t t' : Task ρ} {metrics : Metrics} (h : Advance s st id m t t' metrics st') :
    t'.flyingKey? = t.flyingKey? := by
  cases h <;> rfl

/-- **One move** keeps one flight a key. -/
theorem OneFlight.of_transition {s s' : Scheduler ρ} {st st' : σ} {m : Move ρ} (h : OneFlight s)
    (ht : Transition s st m s' st') : OneFlight s' := by
  cases ht with
  | opened ho =>
    refine h.of_flying rfl (flying_spawn ?_)
    cases ho <;> rfl
  | forgotten k => exact h.of_flying rfl (flying_spawn rfl)
  | detached t => exact h.of_flying rfl (flying_spawn rfl)
  | advanced ht ha => exact h.of_flying rfl (flying_setTask ht ha.flyingKey?)
  | led ht _ hk =>
    refine h.led ht ?_ hk _ _ _
    rfl
  | ended ht => exact h.ended ht rfl _
  | stored ht _ => exact h.of_flying rfl (flying_setTask ht rfl)
  | linked ht => exact h.of_flying rfl (flying_setTask ht rfl)
  | removed ht _ => exact h.of_flying rfl (flying_setTask ht rfl)
  | relinked ht => exact h.of_flying rfl (flying_setTask ht rfl)
  | purged ht _ _ => exact h.of_flying rfl (flying_setTask ht rfl)
  | restored ht => exact h.of_flying rfl (flying_setTask ht rfl)
  | dropped ht => exact h.of_flying rfl (flying_setTask ht rfl)
  | rebuilt ht => exact h.of_flying rfl (flying_setTask ht rfl)

/-- **One event** keeps one flight a key, also if a task breaks down. -/
theorem OneFlight.of_occurs {s s' : Scheduler ρ} {st st' : σ} {e : Event ρ} (h : OneFlight s)
    (he : Occurs s st e s' st') : OneFlight s' := by
  cases he with
  | moved ht => exact h.of_transition ht
  | flightBroke ht hover =>
    refine h.of_flying rfl (flying_setTask ht ?_)
    rw [Task.flyingKey?_flight hover]
    rfl
  | callBroke ht _ => exact h.of_flying rfl (flying_setTask ht rfl)
  | otherBroke _ _ => exact h

/-! ## Waits -/

/-- What a call waits for is a flight of its key. -/
def Awaited (s : Scheduler ρ) : Prop :=
  ∀ ⦃c : TaskId⦄ ⦃k : Key⦄ ⦃x : ρ⦄ ⦃found : Option Entry⦄ ⦃f : FlightId⦄,
    s.tasks[c]? = some (.call k x (.waiting found f)) →
      ∃ o y p, s.tasks[f]? = some (Task.flight k o y p)

theorem awaited_new (policy : Policy) (renderTimeout : Duration) :
    Awaited (new policy renderTimeout : Scheduler ρ) := by
  intro c k x found f h
  cases h

/-- A flight that is ending can end. -/
theorem exists_ended {s : Scheduler ρ} {st : σ} {f : FlightId} {k : Key} {o : Option Generation}
    {x : ρ} {result : Except LookupError Entry}
    (hf : s.tasks[f]? = some (.flight k o x (.ending result))) (now : Instant) :
    ∃ y, moved (s, st) (.proceed f now) = some y ∧ y.1.flightResult? f = some result := by
  refine ⟨({ s with flights := s.flights.clear k f }.setTask f
    (.flight k o x (.finished result)), st), ?_, ?_⟩
  · simp only [moved, step, hf, Option.bind_eq_bind, Option.bind_some, resume]
    rfl
  · refine flightResult?_eq_some_iff.mpr ⟨k, o, x, ?_⟩
    exact getElem?_setTask_self (s := { s with flights := _ }) hf _

/-- A call whose flight is over can receive the result. -/
theorem exists_received {s : Scheduler ρ} {st : σ} {c : TaskId} {k : Key} {x : ρ}
    {found : Option Entry} {f : FlightId} {result : Except LookupError Entry}
    (hc : s.tasks[c]? = some (.call k x (.waiting found f)))
    (hf : s.flightResult? f = some result) (now : Instant) :
    ∃ y, moved (s, st) (.proceed c now) = some y ∧
      y.1.tasks[c]? = some (.call k x (.finished (receive found result).1)) := by
  refine ⟨((s.bump (.lookup (receive found result).2)).setTask c
    (.call k x (.finished (receive found result).1)), st), ?_, ?_⟩
  · simp only [moved, step, hc, Option.bind_eq_bind, Option.bind_some, resume, hf]
    rfl
  · exact getElem?_setTask_self (s := s.bump _) hc _

/-- **One event** keeps every wait. -/
theorem Awaited.of_occurs {s s' : Scheduler ρ} {st st' : σ} {e : Event ρ} (h : Awaited s)
    (hone : OneFlight s) (he : Occurs s st e s' st') : Awaited s' := by
  intro c k x found f hc
  obtain hc | ⟨m, rfl, hb⟩ := he.waiting hc
  · obtain ⟨o, y, p, hf⟩ := h hc
    obtain ⟨p', hf', -, -⟩ := (later_of_occurs he).flight hf
    exact ⟨o, y, p', hf'⟩
  · -- what has been boarded is on record, and what is on record is under way
    obtain ⟨o, y, p, hf, -⟩ := flying_iff.mp ((hone.of_occurs he k f).mp hb.recorded)
    exact ⟨o, y, p, hf⟩

/-! ## Whole runs -/

/-- **A whole run** has one flight a key, and a flight for each wait. -/
theorem EventRun.oneFlight (r : EventRun ρ σ) {policy : Policy} {renderTimeout : Duration}
    (h₀ : (r.state 0).1 = new policy renderTimeout) :
    ∀ i ≤ r.length, OneFlight (r.state i).1 ∧ Awaited (r.state i).1 := by
  refine r.invariant (P := fun y => OneFlight y.1 ∧ Awaited y.1) ?_ ?_
  · rw [h₀]
    exact ⟨oneFlight_new policy renderTimeout, awaited_new policy renderTimeout⟩
  · rintro s e s' hs ⟨hone, hwait⟩
    exact ⟨hone.of_occurs (.of_happen hs), hwait.of_occurs hone (.of_happen hs)⟩

end Scheduler

end PageCache
