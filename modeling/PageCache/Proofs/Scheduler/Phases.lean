import PageCache.Proofs.Scheduler.Progress

/-!
# How phases follow each other

`Transition` says what a move does to the scheduler. Here it is read from the side of one task: when
a call or a flight is found in a phase after a move, it was in that phase before, or it has just
come into being, or the move was its own and led there from another phase.

* `Transition.call`, `CallStep` — calls; a call that gets to a flight is a `Boarding`, one that gets
  to its result a `Finishing`;
* `Transition.flight`, `FlightStep` — flights, and where the entry of a flight comes from;
* `Occurs.newFlight`, `Occurs.waiting`, `Occurs.finished`, … — what follows for events.
-/

namespace PageCache

/-- The entry that a flight has in hand: what it has read, has rendered or ends with. -/
def Flight.inHand? : Flight → Option Entry
  | .checked found => found
  | .committing e | .committed e => some e
  | .ending (.ok e) | .finished (.ok e) => some e
  | _ => none

namespace Scheduler

variable {ρ : Type}

/-- A call that boards a flight and waits waits for this flight, holding what it read. -/
theorem eq_of_boarded_waiting {fr : Freshness} {found found' : Option Entry} {f f' : FlightId}
    (h : Call.boarded fr found f = .waiting found' f') : found = found' ∧ f = f' := by
  unfold Call.boarded at h
  cases found with
  | none =>
    cases h
    exact ⟨rfl, rfl⟩
  | some e =>
    simp only at h
    split at h
    · cases h
      exact ⟨rfl, rfl⟩
    · cases h

/-- A call that boards a flight has its reading behind it. -/
theorem boarded_ne_read {fr : Freshness} {found found' : Option Entry} {f : FlightId} :
    Call.boarded fr found f ≠ .read found' := by
  intro h
  unfold Call.boarded at h
  split at h
  · cases h
  · split at h <;> cases h

/-- A call boards a flight: it has read, what it read is not fresh, and the flight is the one on
record afterwards, which was on record before or is new. -/
structure Boarding (s : Scheduler ρ) (m : Move ρ) (c : TaskId) (k : Key) (x : ρ)
    (found : Option Entry) (f : FlightId) (s' : Scheduler ρ) : Prop where
  /-- the call goes on without the store -/
  goes_on : ∃ now, m = .proceed c now ∧ s.policy.classify found now ≠ .fresh
  /-- it has read -/
  read : s.tasks[c]? = some (.call k x (.read found))
  /-- the flight is on record -/
  recorded : s'.flights.records.get? k = some f
  /-- it was on record or is new -/
  joined_or_led : s.flights.records.get? k = some f ∨
    s.flights.records.get? k = none ∧ s.tasks[f]? = none ∧
      s'.tasks[f]? = some (.flight k (found.map Entry.generation) x .checking)

/-- The call makes the move. -/
theorem Boarding.actor {s s' : Scheduler ρ} {m : Move ρ} {c : TaskId} {k : Key} {x : ρ}
    {found : Option Entry} {f : FlightId} (h : Boarding s m c k x found f s') :
    m.actor? = some c := by
  obtain ⟨now, rfl, -⟩ := h.goes_on
  rfl

/-- A call that joins a flight boards it. -/
theorem Boarding.joined {s s' : Scheduler ρ} {c : TaskId} {k : Key} {x : ρ} {found : Option Entry}
    {f : FlightId} {now : Instant} (ht : s.tasks[c]? = some (.call k x (.read found)))
    (hf : s.policy.classify found now ≠ .fresh) (hk : s.flights.records.get? k = some f)
    (hs : s'.flights = s.flights) : Boarding s (.proceed c now) c k x found f s' where
  goes_on := ⟨now, rfl, hf⟩
  read := ht
  recorded := by rw [hs, hk]
  joined_or_led := .inl hk

/-- A call that starts a flight boards it. -/
theorem Boarding.led {s : Scheduler ρ} {c : TaskId} {k : Key} {x : ρ} {found : Option Entry}
    {now : Instant} (ht : s.tasks[c]? = some (.call k x (.read found)))
    (hf : s.policy.classify found now ≠ .fresh) (hk : s.flights.records.get? k = none)
    (metrics : Metrics) (p : Call) :
    Boarding s (.proceed c now) c k x found s.tasks.length
      (({ s with flights := ⟨s.flights.records.insert k s.tasks.length⟩, metrics }.spawn
        (.flight k (found.map Entry.generation) x .checking)).setTask c (.call k x p)) where
  goes_on := ⟨now, rfl, hf⟩
  read := ht
  recorded := by
    show (s.flights.records.insert k s.tasks.length).get? k = some s.tasks.length
    rw [SortedMap.get?_insert, if_pos rfl]
  joined_or_led := by
    have hne : s.tasks.length ≠ c := Ne.symm (Nat.ne_of_lt (List.getElem?_eq_some_iff.mp ht).1)
    refine .inr ⟨hk, List.getElem?_eq_none (Nat.le_refl _), ?_⟩
    exact (getElem?_setTask_spawn ht _ _ _).trans ((if_neg hne).trans (if_pos rfl))

variable {σ : Type} [Store σ]

/-! ## Calls -/

/-- The call `c` gets from one phase to another by its own move. -/
inductive CallStep (s : Scheduler ρ) (st : σ) (c : TaskId) (k : Key) (x : ρ) :
    Move ρ → Call → Call → Scheduler ρ → σ → Prop where
  /-- it goes on by itself -/
  | advanced {m p p' metrics st'} :
      Advance s st c m (.call k x p) (.call k x p') metrics st' →
      CallStep s st c k x m p p' ({ s with metrics }.setTask c (.call k x p')) st'
  /-- it leads a flight -/
  | led {found now s'} : Boarding s (.proceed c now) c k x found s.tasks.length s' →
      s.policy.classify found now ≠ .fresh → s.flights.records.get? k = none →
      CallStep s st c k x (.proceed c now) (.read found)
        (.boarded (s.policy.classify found now) found s.tasks.length) s' st

/-- **Calls.** A call that is found in a phase was in it before, has just begun, or got there by its
own move. -/
theorem Transition.call {s s' : Scheduler ρ} {st st' : σ} {m : Move ρ} {c : TaskId} {k : Key}
    {x : ρ} {p' : Call} (h : Transition s st m s' st')
    (hc : s'.tasks[c]? = some (.call k x p')) :
    s.tasks[c]? = some (.call k x p') ∨
      (c = s.tasks.length ∧ p' = .reading ∧ m = .lookup k x ∧ st' = st) ∨
      ∃ p, s.tasks[c]? = some (.call k x p) ∧ CallStep s st c k x m p p' s' st' := by
  cases h with
  | opened ho =>
    obtain ⟨rfl, ht⟩ | hc := of_getElem?_spawn hc
    · cases ho with
      | call _ _ =>
        cases ht
        exact .inr (.inl ⟨rfl, rfl, rfl, rfl⟩)
      | _ => cases ht
    · exact .inl hc
  | forgotten _ | detached _ =>
    obtain ⟨-, ht⟩ | hc := of_getElem?_spawn hc
    · cases ht
    · exact .inl hc
  | @advanced _ _ _ _ metrics _ hid ha =>
    obtain ⟨rfl, rfl⟩ | hc := of_getElem?_setTask (s := { s with metrics }) hid hc
    · refine .inr (.inr ?_)
      cases ha.later with
      | call _ => exact ⟨_, hid, .advanced ha⟩
      | upkeep _ hu => cases hu
    · exact .inl hc
  | led hid hf hk =>
    obtain ⟨rfl, ht⟩ | ⟨-, ht⟩ | hc := of_getElem?_setTask_spawn hid hc
    · cases ht
      exact .inr (.inr ⟨_, hid, .led (.led hid hf hk _ _) hf hk⟩)
    · cases ht
    · exact .inl hc
  | ended hid | stored hid _ | linked hid | removed hid _ | relinked hid | purged hid _ _
  | restored hid | dropped hid | rebuilt hid =>
    obtain ⟨-, ht⟩ | hc := of_getElem?_setTask hid hc
    · cases ht
    · exact .inl hc

/-- **A call's own move** gets it to another phase. -/
theorem Transition.callStep {s s' : Scheduler ρ} {st st' : σ} {m : Move ρ} {c : TaskId} {k : Key}
    {x : ρ} {p : Call} (h : Transition s st m s' st') (hm : m.actor? = some c)
    (hc : s.tasks[c]? = some (.call k x p)) :
    ∃ p', s'.tasks[c]? = some (.call k x p') ∧ CallStep s st c k x m p p' s' st' := by
  obtain ⟨p', hc', hrank⟩ := (Occurs.moved h).advances hm hc
  refine ⟨p', hc', ?_⟩
  obtain hsame | ⟨rfl, -⟩ | ⟨p₀, hc₀, hstep⟩ := h.call hc'
  · cases hc.symm.trans hsame
    exact absurd hrank (Nat.lt_irrefl _)
  · exact absurd (List.getElem?_eq_some_iff.mp hc).1 (Nat.lt_irrefl _)
  · cases hc.symm.trans hc₀
    exact hstep

/-- A call that has read had read before, or its reading has just been answered. -/
theorem Transition.nowRead {s s' : Scheduler ρ} {st st' : σ} {m : Move ρ} {c : TaskId} {k : Key}
    {x : ρ} {found : Option Entry} (h : Transition s st m s' st')
    (hc : s'.tasks[c]? = some (.call k x (.read found))) :
    s.tasks[c]? = some (.call k x (.read found)) ∨
      s.tasks[c]? = some (.call k x .reading) ∧
        ∃ fault, m = .storeCall c (.get k) fault ∧
          ask fault st (Store.get · k) = (.ok found, st') := by
  obtain hc₀ | ⟨-, hp, -⟩ | ⟨p, hc₀, hstep⟩ := h.call hc
  · exact .inl hc₀
  · cases hp
  · generalize hp' : Call.read found = p' at hstep
    cases hstep with
    | advanced ha =>
      cases ha with
      | callRead hask =>
        cases hp'
        exact .inr ⟨hc₀, _, rfl, hask⟩
      | callJoined _ _ => exact absurd hp'.symm boarded_ne_read
      | _ => cases hp'
    | led _ _ _ => exact absurd hp'.symm boarded_ne_read

/-- A call that comes to wait has boarded the flight that it waits for. -/
theorem Transition.waiting {s s' : Scheduler ρ} {st st' : σ} {m : Move ρ} {c : TaskId} {k : Key}
    {x : ρ} {found : Option Entry} {f : FlightId} (h : Transition s st m s' st')
    (hc : s'.tasks[c]? = some (.call k x (.waiting found f))) :
    s.tasks[c]? = some (.call k x (.waiting found f)) ∨ Boarding s m c k x found f s' := by
  obtain hc | ⟨-, hp, -⟩ | ⟨p, ht, hstep⟩ := h.call hc
  · exact .inl hc
  · cases hp
  · refine .inr ?_
    generalize hp' : Call.waiting found f = p' at hstep
    cases hstep with
    | advanced ha =>
      cases ha with
      | callJoined hf hk =>
        obtain ⟨rfl, rfl⟩ := eq_of_boarded_waiting hp'.symm
        exact .joined ht hf hk rfl
      | _ => cases hp'
    | led hb _ _ =>
      obtain ⟨rfl, rfl⟩ := eq_of_boarded_waiting hp'.symm
      exact hb

/-- A waiting call that is finished has received the result of its flight. -/
theorem Transition.received {s s' : Scheduler ρ} {st st' : σ} {m : Move ρ} {c : TaskId} {k : Key}
    {x : ρ} {found : Option Entry} {f : FlightId} {out : Except LookupError Served}
    (h : Transition s st m s' st') (hc : s.tasks[c]? = some (.call k x (.waiting found f)))
    (hc' : s'.tasks[c]? = some (.call k x (.finished out))) :
    ∃ result, s.flightResult? f = some result ∧ out = (receive found result).1 := by
  obtain hsame | ⟨-, hp, -⟩ | ⟨p, ht, hstep⟩ := h.call hc'
  · cases hc.symm.trans hsame
  · cases hp
  · cases hc.symm.trans ht
    cases hstep with
    | advanced ha =>
      cases ha with
      | callReceived hr => exact ⟨_, hr, rfl⟩

/-- What a call that boards a flight comes to be, if it does not wait: it has been served stale. -/
theorem eq_of_boarded_finished {fr : Freshness} {found : Option Entry} {f : FlightId}
    {out : Except LookupError Served} (h : Call.boarded fr found f = .finished out) :
    ∃ e, found = some e ∧ fr.blocks = false ∧
      out = .ok { Served.ofEntry e .stale with revalidating := true } := by
  unfold Call.boarded at h
  cases found with
  | none => cases h
  | some e =>
    simp only at h
    split at h
    · cases h
    · rename_i hb
      cases h
      exact ⟨e, rfl, by simpa using hb, rfl⟩

/-- The call `c` of the key gets to its result. -/
inductive Finishing (s : Scheduler ρ) (st : σ) (m : Move ρ) (c : TaskId) (k : Key) (x : ρ)
    (s' : Scheduler ρ) (st' : σ) : Except LookupError Served → Prop where
  /-- the key could not be read -/
  | unread {fault e} : s.tasks[c]? = some (.call k x .reading) → m = .storeCall c (.get k) fault →
      ask fault st (Store.get · k) = (.error e, st') →
      Finishing s st m c k x s' st' (.error (.store e))
  /-- the entry that it read is fresh -/
  | hit {e now} : s.tasks[c]? = some (.call k x (.read (some e))) → m = .proceed c now →
      s.policy.classify (some e) now = .fresh →
      Finishing s st m c k x s' st' (.ok (.ofEntry e .hit))
  /-- the entry that it read is served with a flight behind it -/
  | stale {e now f} : s.tasks[c]? = some (.call k x (.read (some e))) → m = .proceed c now →
      s.policy.classify (some e) now = .stale → s'.flights.records.get? k = some f →
      Finishing s st m c k x s' st' (.ok { Served.ofEntry e .stale with revalidating := true })
  /-- the flight that it waits for is over -/
  | received {found f result now} : s.tasks[c]? = some (.call k x (.waiting found f)) →
      m = .proceed c now → s.flightResult? f = some result →
      Finishing s st m c k x s' st' (receive found result).1

/-- An entry that is not fresh and does not make a request wait is stale. -/
theorem classify_eq_stale {p : Policy} {e : Entry} {now : Instant}
    (h : p.classify (some e) now ≠ .fresh) (hb : (p.classify (some e) now).blocks = false) :
    p.classify (some e) now = .stale := by
  cases hc : p.classify (some e) now with
  | fresh => exact absurd hc h
  | stale => rfl
  | miss | hardExpired =>
    rw [hc] at hb
    cases hb

/-- An entry that makes a request wait is past its grace window. -/
theorem classify_eq_hardExpired {p : Policy} {e : Entry} {now : Instant}
    (hb : (p.classify (some e) now).blocks = true) : p.classify (some e) now = .hardExpired := by
  simp only [Policy.classify] at hb ⊢
  cases he : e.revalidate with
  | never => simp [he, Freshness.blocks] at hb
  | always => simp [he, Freshness.blocks] at hb
  | after d =>
    simp only [he] at hb ⊢
    split_ifs at hb ⊢ with h₁ h₂
    · cases hb
    · cases hb
    · rfl

/-- A call that comes to wait with an entry in hand has found it past its grace window. -/
theorem Transition.expired {s s' : Scheduler ρ} {st st' : σ} {m : Move ρ} {c : TaskId} {k : Key}
    {x : ρ} {e : Entry} {f : FlightId} (h : Transition s st m s' st')
    (hc : s'.tasks[c]? = some (.call k x (.waiting (some e) f))) :
    s.tasks[c]? = some (.call k x (.waiting (some e) f)) ∨
      s.tasks[c]? = some (.call k x (.read (some e))) ∧
        ∃ now, m = .proceed c now ∧ s.policy.classify (some e) now = .hardExpired := by
  have hboarded {fr : Freshness} {found : Option Entry} {g : FlightId}
      (hp : Call.boarded fr found g = .waiting (some e) f) : found = some e ∧ fr.blocks = true := by
    obtain ⟨rfl, rfl⟩ := eq_of_boarded_waiting hp
    refine ⟨rfl, ?_⟩
    cases hb : fr.blocks with
    | true => rfl
    | false => simp [Call.boarded, hb] at hp
  obtain hc₀ | ⟨-, hp, -⟩ | ⟨p, hc₀, hstep⟩ := h.call hc
  · exact .inl hc₀
  · cases hp
  · refine .inr ?_
    generalize hp' : Call.waiting (some e) f = p' at hstep
    cases hstep with
    | advanced ha =>
      cases ha with
      | callJoined hf hk =>
        obtain ⟨rfl, hb⟩ := hboarded hp'.symm
        exact ⟨hc₀, _, rfl, classify_eq_hardExpired hb⟩
      | _ => cases hp'
    | led _ _ _ =>
      obtain ⟨rfl, hb⟩ := hboarded hp'.symm
      exact ⟨hc₀, _, rfl, classify_eq_hardExpired hb⟩

/-- A call that is finished was before, or has just got to its result. -/
theorem Transition.finished {s s' : Scheduler ρ} {st st' : σ} {m : Move ρ} {c : TaskId} {k : Key}
    {x : ρ} {out : Except LookupError Served} (h : Transition s st m s' st')
    (hc : s'.tasks[c]? = some (.call k x (.finished out))) :
    s.tasks[c]? = some (.call k x (.finished out)) ∨ Finishing s st m c k x s' st' out := by
  obtain hc₀ | ⟨-, hp, -⟩ | ⟨p, hc₀, hstep⟩ := h.call hc
  · exact .inl hc₀
  · cases hp
  · refine .inr ?_
    generalize hp' : Call.finished out = p' at hstep
    cases hstep with
    | advanced ha =>
      cases ha with
      | callUnread hask =>
        cases hp'
        exact .unread hc₀ rfl hask
      | callServed hf =>
        cases hp'
        exact .hit hc₀ rfl hf
      | callJoined hf hk =>
        obtain ⟨e, rfl, hb, rfl⟩ := eq_of_boarded_finished hp'.symm
        exact .stale hc₀ rfl (classify_eq_stale hf hb) hk
      | callReceived hr =>
        cases hp'
        exact .received hc₀ rfl hr
      | _ => cases hp'
    | led hb hf _ =>
      obtain ⟨e, rfl, hblocks, rfl⟩ := eq_of_boarded_finished hp'.symm
      exact .stale hc₀ rfl (classify_eq_stale hf hblocks) hb.recorded

/-! ## Flights -/

/-- The flight `f` gets from one phase to another by its own move. -/
inductive FlightStep (s : Scheduler ρ) (st : σ) (f : FlightId) (k : Key) (o : Option Generation)
    (x : ρ) : Move ρ → Flight → Flight → Scheduler ρ → σ → Prop where
  /-- it goes on by itself -/
  | advanced {m p p' metrics st'} :
      Advance s st f m (.flight k o x p) (.flight k o x p') metrics st' →
      FlightStep s st f k o x m p p' ({ s with metrics }.setTask f (.flight k o x p')) st'
  /-- its write is accepted -/
  | stored {e fault st'} : ask fault st (Store.put · e o) = (.ok .stored, st') →
      FlightStep s st f k o x (.storeCall f (.put e o) fault) (.committing e) (.committed e)
        (s.setTask f (.flight k o x (.committed e))) st'
  /-- it links the tags of its entry -/
  | linked {e now} :
      FlightStep s st f k o x (.proceed f now) (.committed e) (.ending (.ok e))
        ({ s with
            index := s.index.replaceTags k e.tags
            metrics := s.metrics.bump (.regeneration .committed) }.setTask f
          (.flight k o x (.ending (.ok e)))) st
  /-- it is over, and its record is cleared -/
  | ended {result now} :
      FlightStep s st f k o x (.proceed f now) (.ending result) (.finished result)
        ({ s with flights := s.flights.clear k f }.setTask f (.flight k o x (.finished result))) st

/-- A flight that gets to another phase is not over. -/
theorem FlightStep.not_over {s s' : Scheduler ρ} {st st' : σ} {m : Move ρ} {f : FlightId} {k : Key}
    {o : Option Generation} {x : ρ} {p p' : Flight} (h : FlightStep s st f k o x m p p' s' st') :
    (Task.flight k o x p).isOver = false := by
  cases h with
  | advanced ha => cases ha <;> rfl
  | _ => rfl

/-- A flight that gets to another phase is in it. -/
theorem FlightStep.getElem? {s s' : Scheduler ρ} {st st' : σ} {m : Move ρ} {f : FlightId} {k : Key}
    {o : Option Generation} {x : ρ} {p p' : Flight} (h : FlightStep s st f k o x m p p' s' st')
    (hf : s.tasks[f]? = some (.flight k o x p)) : s'.tasks[f]? = some (.flight k o x p') := by
  cases h with
  | advanced _ => exact getElem?_setTask_self (s := { s with metrics := _ }) hf _
  | stored _ => exact getElem?_setTask_self hf _
  | linked => exact getElem?_setTask_self (s := { s with index := _, metrics := _ }) hf _
  | ended => exact getElem?_setTask_self (s := { s with flights := _ }) hf _

/-- A flight that gets to another phase gets further. -/
theorem FlightStep.rank_lt {s s' : Scheduler ρ} {st st' : σ} {m : Move ρ} {f : FlightId} {k : Key}
    {o : Option Generation} {x : ρ} {p p' : Flight} (h : FlightStep s st f k o x m p p' s' st') :
    p.rank < p'.rank := by
  cases h with
  | advanced ha => cases ha <;> simp
  | _ => simp

/-- **Flights.** A flight that is found in a phase was in it before, has just been led, or got there
by its own move. -/
theorem Transition.flight {s s' : Scheduler ρ} {st st' : σ} {m : Move ρ} {f : FlightId} {k : Key}
    {o : Option Generation} {x : ρ} {p' : Flight} (h : Transition s st m s' st')
    (hf : s'.tasks[f]? = some (.flight k o x p')) :
    s.tasks[f]? = some (.flight k o x p') ∨
      (f = s.tasks.length ∧ p' = .checking ∧ s.flights.records.get? k = none ∧ st' = st ∧
        ∃ c found, Boarding s m c k x found f s' ∧ o = found.map Entry.generation) ∨
      ∃ p, s.tasks[f]? = some (.flight k o x p) ∧ FlightStep s st f k o x m p p' s' st' := by
  cases h with
  | opened ho =>
    obtain ⟨-, ht⟩ | hf := of_getElem?_spawn hf
    · cases ho <;> cases ht
    · exact .inl hf
  | forgotten _ | detached _ =>
    obtain ⟨-, ht⟩ | hf := of_getElem?_spawn hf
    · cases ht
    · exact .inl hf
  | @advanced _ _ _ _ metrics _ hid ha =>
    obtain ⟨rfl, rfl⟩ | hf := of_getElem?_setTask (s := { s with metrics }) hid hf
    · refine .inr (.inr ?_)
      cases ha.later with
      | flight _ _ => exact ⟨_, hid, .advanced ha⟩
      | upkeep _ hu => cases hu
    · exact .inl hf
  | led hid hfresh hk =>
    obtain ⟨-, ht⟩ | ⟨rfl, ht⟩ | hf := of_getElem?_setTask_spawn hid hf
    · cases ht
    · cases ht
      exact .inr (.inl ⟨rfl, rfl, hk, rfl, _, _, .led hid hfresh hk _ _, rfl⟩)
    · exact .inl hf
  | ended hid =>
    obtain ⟨rfl, ht⟩ | hf := of_getElem?_setTask hid hf
    · cases ht
      exact .inr (.inr ⟨_, hid, .ended⟩)
    · exact .inl hf
  | stored hid ha =>
    obtain ⟨rfl, ht⟩ | hf := of_getElem?_setTask hid hf
    · cases ht
      exact .inr (.inr ⟨_, hid, .stored ha⟩)
    · exact .inl hf
  | linked hid =>
    obtain ⟨rfl, ht⟩ | hf := of_getElem?_setTask hid hf
    · cases ht
      exact .inr (.inr ⟨_, hid, .linked⟩)
    · exact .inl hf
  | removed hid _ | relinked hid | purged hid _ _ | restored hid | dropped hid | rebuilt hid =>
    obtain ⟨-, ht⟩ | hf := of_getElem?_setTask hid hf
    · cases ht
    · exact .inl hf

/-- A flight that is about to store an entry was, or its render has just succeeded. -/
theorem Transition.committing {s s' : Scheduler ρ} {st st' : σ} {m : Move ρ} {f : FlightId}
    {k : Key} {o : Option Generation} {x : ρ} {e : Entry} (h : Transition s st m s' st')
    (hf : s'.tasks[f]? = some (.flight k o x (.committing e))) :
    s.tasks[f]? = some (.flight k o x (.committing e)) ∨
      s.tasks[f]? = some (.flight k o x .rendering) ∧
        ∃ out now, m = .render f (.output out) now ∧ e = entryOf k o out now := by
  obtain hf₀ | ⟨-, hp, -⟩ | ⟨p, hf₀, hstep⟩ := h.flight hf
  · exact .inl hf₀
  · cases hp
  · cases hstep with
    | advanced ha =>
      cases ha with
      | renderSucceeded => exact .inr ⟨hf₀, _, _, rfl, rfl⟩

/-- A flight that has stored its entry was about to, and its write has been accepted. -/
theorem Transition.committed {s s' : Scheduler ρ} {st st' : σ} {m : Move ρ} {f : FlightId} {k : Key}
    {o : Option Generation} {x : ρ} {e : Entry} (h : Transition s st m s' st')
    (hf : s'.tasks[f]? = some (.flight k o x (.committed e))) :
    s.tasks[f]? = some (.flight k o x (.committed e)) ∨
      s.tasks[f]? = some (.flight k o x (.committing e)) ∧
        ∃ fault, m = .storeCall f (.put e o) fault ∧
          ask fault st (Store.put · e o) = (.ok .stored, st') := by
  obtain hf₀ | ⟨-, hp, -⟩ | ⟨p, hf₀, hstep⟩ := h.flight hf
  · exact .inl hf₀
  · cases hp
  · cases hstep with
    | advanced ha => cases ha
    | stored ha => exact .inr ⟨hf₀, _, rfl, ha⟩

/-- The entry that a flight has in hand it had before, or it has just been read or rendered. -/
theorem Transition.inHand {s s' : Scheduler ρ} {st st' : σ} {m : Move ρ} {f : FlightId} {k : Key}
    {o : Option Generation} {x : ρ} {p' : Flight} {e : Entry} (h : Transition s st m s' st')
    (hf : s'.tasks[f]? = some (.flight k o x p')) (he : p'.inHand? = some e) :
    (∃ p, s.tasks[f]? = some (.flight k o x p) ∧ p.inHand? = some e) ∨
      (s.tasks[f]? = some (.flight k o x .checking) ∧ ∃ fault, m = .storeCall f (.get k) fault ∧
        ask fault st (Store.get · k) = (.ok (some e), st')) ∨
      s.tasks[f]? = some (.flight k o x .rendering) ∧
        ∃ out now, m = .render f (.output out) now ∧ e = entryOf k o out now := by
  obtain hf₀ | ⟨-, rfl, -⟩ | ⟨p, hf₀, hstep⟩ := h.flight hf
  · exact .inl ⟨p', hf₀, he⟩
  · cases he
  · cases hstep with
    | advanced ha =>
      cases ha with
      | flightRead hask =>
        obtain rfl : _ = some e := he
        exact .inr (.inl ⟨hf₀, _, rfl, hask⟩)
      | renderSucceeded =>
        cases he
        exact .inr (.inr ⟨hf₀, _, _, rfl, rfl⟩)
      | flightSuperseded _ | putRefused _ => exact .inl ⟨_, hf₀, he⟩
      | _ => cases he
    | stored _ | linked => exact .inl ⟨_, hf₀, he⟩
    | @ended result now =>
      cases result with
      | ok e' => exact .inl ⟨_, hf₀, he⟩
      | error err => cases he

/-- **A flight's own move** gets it to another phase. -/
theorem Transition.flightStep {s s' : Scheduler ρ} {st st' : σ} {m : Move ρ} {f : FlightId}
    {k : Key} {o : Option Generation} {x : ρ} {p : Flight} (h : Transition s st m s' st')
    (hm : m.actor? = some f) (hf : s.tasks[f]? = some (.flight k o x p)) :
    ∃ p', FlightStep s st f k o x m p p' s' st' := by
  cases h with
  | opened ho => cases ho <;> cases hm
  | forgotten _ | detached _ => cases hm
  | @advanced _ id _ _ _ _ hid ha =>
    obtain rfl : id = f := Option.some.inj (ha.actor.symm.trans hm)
    cases hid.symm.trans hf
    cases ha.later with
    | flight _ _ => exact ⟨_, .advanced ha⟩
    | upkeep hu _ => cases hu
  | ended hid =>
    cases hm
    cases hid.symm.trans hf
    exact ⟨_, .ended⟩
  | stored hid ha =>
    cases hm
    cases hid.symm.trans hf
    exact ⟨_, .stored ha⟩
  | linked hid =>
    cases hm
    cases hid.symm.trans hf
    exact ⟨_, .linked⟩
  | led hid _ _ | removed hid _ | relinked hid | purged hid _ _ | restored hid | dropped hid
  | rebuilt hid =>
    cases hm
    cases hid.symm.trans hf

/-- A render that succeeds leaves its flight with the entry to be written. -/
theorem Transition.renderSucceeds {s s' : Scheduler ρ} {st st' : σ} {f : FlightId} {k : Key}
    {o : Option Generation} {x : ρ} {out : RenderOutput} {now : Instant}
    (h : Transition s st (.render f (.output out) now) s' st')
    (hf : s.tasks[f]? = some (.flight k o x .rendering)) :
    s'.tasks[f]? = some (.flight k o x (.committing (entryOf k o out now))) := by
  obtain ⟨p', hstep⟩ := h.flightStep rfl hf
  cases hstep with
  | advanced ha =>
    cases ha with
    | renderSucceeded =>
      exact getElem?_setTask_self (s := { s with metrics := _ }) hf _
    | renderFailed hn _ => exact absurd rfl (hn out)

/-- The task that makes a move is there. -/
theorem Transition.exists_actor {s s' : Scheduler ρ} {st st' : σ} {m : Move ρ} {i : TaskId}
    (h : Transition s st m s' st') (hm : m.actor? = some i) : ∃ t, s.tasks[i]? = some t := by
  cases h with
  | opened ho => cases ho <;> cases hm
  | forgotten _ | detached _ => cases hm
  | @advanced _ id _ _ _ _ hid ha =>
    obtain rfl : id = i := Option.some.inj (ha.actor.symm.trans hm)
    exact ⟨_, hid⟩
  | led hid _ _ | ended hid | stored hid _ | linked hid | removed hid _ | relinked hid
  | purged hid _ _ | restored hid | dropped hid | rebuilt hid =>
    cases hm
    exact ⟨_, hid⟩

/-- A flight that is ending keeps its result. -/
theorem Transition.ending {s s' : Scheduler ρ} {st st' : σ} {m : Move ρ} {f : FlightId} {k : Key}
    {o : Option Generation} {x : ρ} {result : Except LookupError Entry}
    (h : Transition s st m s' st') (hf : s.tasks[f]? = some (.flight k o x (.ending result))) :
    s'.tasks[f]? = some (.flight k o x (.ending result)) ∨
      s'.tasks[f]? = some (.flight k o x (.finished result)) := by
  obtain ⟨p', hf', -, -⟩ := (later_of_transition h).flight hf
  obtain hf₀ | ⟨rfl, -⟩ | ⟨p, hf₀, hstep⟩ := h.flight hf'
  · cases hf.symm.trans hf₀
    exact .inl hf'
  · exact absurd (List.getElem?_eq_some_iff.mp hf).1 (Nat.lt_irrefl _)
  · cases hf.symm.trans hf₀
    cases hstep with
    | advanced ha => cases ha
    | ended => exact .inr hf'

/-! ## Events -/

/-- A flight that comes into being is led by a move, of a call of its key with its source. -/
theorem Occurs.newFlight {s s' : Scheduler ρ} {st st' : σ} {e : Event ρ} {k : Key}
    {o : Option Generation} {x : ρ} {p : Flight} {f : FlightId} (h : Occurs s st e s' st')
    (hn : s.tasks[f]? = none) (hf : s'.tasks[f]? = some (.flight k o x p)) :
    ∃ m c found, e = .move m ∧ Boarding s m c k x found f s' ∧
      s.flights.records.get? k = none ∧ o = found.map Entry.generation := by
  cases h with
  | moved ht =>
    obtain hf | ⟨-, -, hk, -, c, found, hb, ho⟩ | ⟨p₀, hf, -⟩ := ht.flight hf
    · cases hn.symm.trans hf
    · exact ⟨_, c, found, rfl, hb, hk, ho⟩
    · cases hn.symm.trans hf
  | flightBroke hid _ | callBroke hid _ =>
    obtain ⟨rfl, -⟩ | hf := of_getElem?_setTask hid hf
    · cases hn.symm.trans hid
    · cases hn.symm.trans hf
  | otherBroke _ _ => cases hn.symm.trans hf

/-- The task that an event is about is there. -/
theorem Occurs.exists_actor {s s' : Scheduler ρ} {st st' : σ} {e : Event ρ} {i : TaskId}
    (h : Occurs s st e s' st') (he : e.actor? = some i) : ∃ t, s.tasks[i]? = some t := by
  cases h with
  | moved ht => exact ht.exists_actor he
  | flightBroke hid _ | callBroke hid _ | otherBroke hid _ =>
    cases he
    exact ⟨_, hid⟩

/-- A move is made as a transition. -/
theorem Occurs.transition {s s' : Scheduler ρ} {st st' : σ} {m : Move ρ}
    (h : Occurs s st (.move m) s' st') : Transition s st m s' st' := by
  cases h with
  | moved ht => exact ht

/-- A call that comes to wait comes to it by a move. -/
theorem Occurs.waiting {s s' : Scheduler ρ} {st st' : σ} {e : Event ρ} {c : TaskId} {k : Key}
    {x : ρ} {found : Option Entry} {f : FlightId} (h : Occurs s st e s' st')
    (hc : s'.tasks[c]? = some (.call k x (.waiting found f))) :
    s.tasks[c]? = some (.call k x (.waiting found f)) ∨
      ∃ m, e = .move m ∧ Boarding s m c k x found f s' := by
  cases h with
  | moved ht =>
    obtain hc | hb := ht.waiting hc
    · exact .inl hc
    · exact .inr ⟨_, rfl, hb⟩
  | flightBroke hid _ | callBroke hid _ =>
    obtain ⟨-, ht⟩ | hc := of_getElem?_setTask hid hc
    · cases ht
    · exact .inl hc
  | otherBroke _ _ => exact .inl hc

/-- A call that is found in a phase that is no giving up was in it before, or a move has been
made. -/
theorem Occurs.call {s s' : Scheduler ρ} {st st' : σ} {e : Event ρ} {c : TaskId} {k : Key} {x : ρ}
    {p : Call} (h : Occurs s st e s' st') (hc : s'.tasks[c]? = some (.call k x p))
    (hp : p ≠ .abandoned) :
    s.tasks[c]? = some (.call k x p) ∨ ∃ m, e = .move m ∧ Transition s st m s' st' := by
  cases h with
  | moved ht => exact .inr ⟨_, rfl, ht⟩
  | flightBroke hid _ =>
    obtain ⟨-, ht⟩ | hc := of_getElem?_setTask hid hc
    · cases ht
    · exact .inl hc
  | callBroke hid _ =>
    obtain ⟨-, ht⟩ | hc := of_getElem?_setTask hid hc
    · cases ht
      exact absurd rfl hp
    · exact .inl hc
  | otherBroke _ _ => exact .inl hc

/-- A flight that has an entry in hand had it before, or a move has been made. -/
theorem Occurs.inHand {s s' : Scheduler ρ} {st st' : σ} {e : Event ρ} {f : FlightId} {k : Key}
    {o : Option Generation} {x : ρ} {p : Flight} {entry : Entry} (h : Occurs s st e s' st')
    (hf : s'.tasks[f]? = some (.flight k o x p)) (he : p.inHand? = some entry) :
    s.tasks[f]? = some (.flight k o x p) ∨ ∃ m, e = .move m ∧ Transition s st m s' st' := by
  cases h with
  | moved ht => exact .inr ⟨_, rfl, ht⟩
  | flightBroke hid _ =>
    obtain ⟨-, ht⟩ | hf := of_getElem?_setTask hid hf
    · cases ht
      cases he
    · exact .inl hf
  | callBroke hid _ =>
    obtain ⟨-, ht⟩ | hf := of_getElem?_setTask hid hf
    · cases ht
    · exact .inl hf
  | otherBroke _ _ => exact .inl hf

/-- A waiting call that is finished has received the result of its flight. -/
theorem Occurs.received {s s' : Scheduler ρ} {st st' : σ} {e : Event ρ} {c : TaskId} {k : Key}
    {x : ρ} {found : Option Entry} {f : FlightId} {out : Except LookupError Served}
    (h : Occurs s st e s' st') (hc : s.tasks[c]? = some (.call k x (.waiting found f)))
    (hc' : s'.tasks[c]? = some (.call k x (.finished out))) :
    ∃ result, s.flightResult? f = some result ∧ out = (receive found result).1 := by
  cases h with
  | moved ht => exact ht.received hc hc'
  | flightBroke hid _ | callBroke hid _ =>
    obtain ⟨-, ht⟩ | hc' := of_getElem?_setTask hid hc'
    · cases ht
    · cases hc.symm.trans hc'
  | otherBroke _ _ => cases hc.symm.trans hc'

end Scheduler

end PageCache
