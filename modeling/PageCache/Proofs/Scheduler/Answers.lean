import PageCache.Proofs.Scheduler.PurgeStands
import PageCache.Proofs.Scheduler.SingleFlight

/-!
# What a lookup answers

Whatever fails around it, what a lookup answers is decided by what its own reading found:

* **nothing could be read** — the lookup fails with the error of its reading;
* **no entry** — it has the result of the flight that it waited for, an error as well as an entry;
* **an entry** — it never fails: a fresh or a stale entry is served, and an expired one gives way to
  what its flight ends with, or is served with the error of the flight.

`Answered` lists the ways to an answer, and `Serves` what is served on each. `answers_by_what_it_read`
says that a lookup has the answer of the one way that it went, that whatever it serves was read or
rendered for its own key, and that it comes to its answer.
-/

namespace PageCache

open LawfulStore

/-- What a call becomes by the verdict on what it read: it serves a fresh or a stale entry, and else
it waits for a flight. -/
def Call.judged (verdict : Freshness) (found : Option Entry) (f : FlightId) : Call :=
  match verdict, found with
  | .fresh, some e => .finished (.ok (.ofEntry e .hit))
  | .stale, some e => .finished (.ok { Served.ofEntry e .stale with revalidating := true })
  | _, found => .waiting found f

namespace Scheduler

variable {ρ σ : Type} [Store σ]

/-! ## A call's own moves -/

section

variable {s s' : Scheduler ρ} {st st' : σ} {c : TaskId} {k j : Key} {x : ρ}

/-- A reading is made by a call that has still to read. -/
theorem Transition.reads {fault : Option StoreError} {p : Call}
    (h : Transition s st (.storeCall c (.get j) fault) s' st')
    (hc : s.tasks[c]? = some (.call k x p)) : p = .reading := by
  obtain ⟨p', -, hstep⟩ := h.callStep rfl hc
  cases hstep with
  | advanced ha => cases ha <;> rfl

/-- A call whose reading fails is finished with that error. -/
theorem Transition.readFails {e : StoreError} {p : Call}
    (h : Transition s st (.storeCall c (.get j) (some e)) s' st')
    (hc : s.tasks[c]? = some (.call k x p)) :
    s'.tasks[c]? = some (.call k x (.finished (.error (.store e)))) := by
  obtain ⟨p', hc', hstep⟩ := h.callStep rfl hc
  cases hstep with
  | advanced ha =>
    cases ha with
    | callRead hask => cases hask
    | callUnread hask =>
      cases hask
      exact hc'

/-- A call that boards a flight does so by the verdict. -/
theorem boarded_eq_judged {verdict : Freshness} {found : Option Entry} (hfresh : verdict ≠ .fresh)
    (f : FlightId) : Call.boarded verdict found f = .judged verdict found f := by
  cases found with
  | none => cases verdict <;> rfl
  | some e =>
    cases verdict with
    | fresh => exact absurd rfl hfresh
    | _ => rfl

/-- A call that goes on from what it read does so by the verdict on it. -/
theorem Transition.judges {found : Option Entry} {now : Instant}
    (h : Transition s st (.proceed c now) s' st')
    (hc : s.tasks[c]? = some (.call k x (.read found))) :
    ∃ f, s'.tasks[c]? = some (.call k x (.judged (s.policy.classify found now) found f)) := by
  obtain ⟨p', hc', hstep⟩ := h.callStep rfl hc
  cases hstep with
  | advanced ha =>
    cases ha with
    | callServed hfresh => exact ⟨0, by rw [hc', hfresh]; rfl⟩
    | @callJoined _ _ _ _ f hfresh _ => exact ⟨f, by rw [hc', boarded_eq_judged hfresh]⟩
  | led _ hfresh _ => exact ⟨_, by rw [hc', boarded_eq_judged hfresh]⟩

end

namespace EventRun

variable {r : EventRun ρ σ} {i j l : Nat} {c f : TaskId} {k : Key} {x : ρ}

/-! ## What a run says of a call -/

/-- Before the position `i` a reading of the key by the task fails. -/
def FailsToRead (r : EventRun ρ σ) (i : Nat) (c : TaskId) (k : Key) (e : StoreError) : Prop :=
  ∃ j < i, r.event j = .move (.storeCall c (.get k) (some e))

/-- Before the position `i` the call goes on from what it read, and this is the verdict on it. -/
def Judges (r : EventRun ρ σ) (i : Nat) (c : TaskId) (k : Key) (found : Option Entry)
    (verdict : Freshness) : Prop :=
  ∃ j < i, ∃ x now, r.event j = .move (.proceed c now) ∧
    (r.state j).1.tasks[c]? = some (.call k x (.read found)) ∧
    (r.state j).1.policy.classify found now = verdict

/-- Before the position `i` the call waits for the flight, and the flight has its result. -/
def Awaits (r : EventRun ρ σ) (i : Nat) (c : TaskId) (k : Key) (found : Option Entry) (f : FlightId)
    (result : Except LookupError Entry) : Prop :=
  ∃ j < i, ∃ x, (r.state j).1.tasks[c]? = some (.call k x (.waiting found f)) ∧
    (r.state j).1.flightResult? f = some result

/-- Before the position `i` the render of the flight gives what the entry is made of. -/
def Renders (r : EventRun ρ σ) (i : Nat) (f : FlightId) (k : Key) (e : Entry) : Prop :=
  ∃ j < i, ∃ o x out now, r.event j = .move (.render f (.output out) now) ∧
    (r.state j).1.tasks[f]? = some (.flight k o x .rendering) ∧ e = entryOf k o out now

/-- Before the position `i` the task reads the key, and the store answers what it holds. -/
def Reads [LawfulStore σ] (r : EventRun ρ σ) (i : Nat) (c : TaskId) (k : Key)
    (found : Option Entry) : Prop :=
  ∃ j < i, r.event j = .move (.storeCall c (.get k) none) ∧ held (r.state j).2 k = found

variable [LawfulStore σ]

/-- **The ways to an answer** up to the position `i`. -/
inductive Answered (r : EventRun ρ σ) (i : Nat) (c : TaskId) (k : Key) :
    Except LookupError Served → Prop where
  /-- the key could not be read -/
  | unread {e} : r.FailsToRead i c k e → Answered r i c k (.error (.store e))
  /-- the entry that was read is fresh -/
  | hit {e} : r.Reads i c k (some e) → r.Judges i c k (some e) .fresh →
      Answered r i c k (.ok (.ofEntry e .hit))
  /-- the entry that was read is stale -/
  | stale {e} : r.Reads i c k (some e) → r.Judges i c k (some e) .stale →
      Answered r i c k (.ok { Served.ofEntry e .stale with revalidating := true })
  /-- there was no entry, and the flight gave one -/
  | missed {f e} : r.Reads i c k none → r.Awaits i c k none f (.ok e) →
      Answered r i c k (.ok (.ofEntry e .miss))
  /-- there was no entry, and the flight failed -/
  | failed {f err} : r.Reads i c k none → r.Awaits i c k none f (.error err) →
      Answered r i c k (.error err)
  /-- the entry that was read is expired, and the flight gave another -/
  | expired {e f e'} : r.Reads i c k (some e) → r.Judges i c k (some e) .hardExpired →
      r.Awaits i c k (some e) f (.ok e') → Answered r i c k (.ok (.ofEntry e' .expired))
  /-- the entry that was read is expired, and the flight failed -/
  | degraded {e f err} : r.Reads i c k (some e) → r.Judges i c k (some e) .hardExpired →
      r.Awaits i c k (some e) f (.error err) →
      Answered r i c k (.ok { Served.ofEntry e .expired with degraded := some err })

theorem Reads.mono {found : Option Entry} (h : r.Reads i c k found) (hij : i ≤ j) :
    r.Reads j c k found := by
  obtain ⟨n, hn, h⟩ := h
  exact ⟨n, by omega, h⟩

omit [LawfulStore σ] in
theorem Judges.mono {found : Option Entry} {verdict : Freshness} (h : r.Judges i c k found verdict)
    (hij : i ≤ j) : r.Judges j c k found verdict := by
  obtain ⟨n, hn, h⟩ := h
  exact ⟨n, by omega, h⟩

omit [LawfulStore σ] in
theorem Awaits.mono {found : Option Entry} {result : Except LookupError Entry}
    (h : r.Awaits i c k found f result) (hij : i ≤ j) : r.Awaits j c k found f result := by
  obtain ⟨n, hn, h⟩ := h
  exact ⟨n, by omega, h⟩

omit [LawfulStore σ] in
theorem Renders.mono {e : Entry} (h : r.Renders i f k e) (hij : i ≤ j) : r.Renders j f k e := by
  obtain ⟨n, hn, h⟩ := h
  exact ⟨n, by omega, h⟩

theorem Answered.mono {out : Except LookupError Served} (h : Answered r i c k out) (hij : i ≤ j) :
    Answered r j c k out := by
  cases h with
  | unread h =>
    obtain ⟨n, hn, h⟩ := h
    exact .unread ⟨n, by omega, h⟩
  | hit hr hj => exact .hit (hr.mono hij) (hj.mono hij)
  | stale hr hj => exact .stale (hr.mono hij) (hj.mono hij)
  | missed hr ha => exact .missed (hr.mono hij) (ha.mono hij)
  | failed hr ha => exact .failed (hr.mono hij) (ha.mono hij)
  | expired hr hj ha => exact .expired (hr.mono hij) (hj.mono hij) (ha.mono hij)
  | degraded hr hj ha => exact .degraded (hr.mono hij) (hj.mono hij) (ha.mono hij)

/-- **What a call serves** on each way to it: of which entry, by which path, and what went wrong. -/
inductive Serves (r : EventRun ρ σ) (i : Nat) (c : TaskId) (k : Key) (served : Served) : Prop where
  /-- the entry that was read is fresh -/
  | hit {e} : r.Reads i c k (some e) → r.Judges i c k (some e) .fresh →
      served.IsOf e .hit false none → Serves r i c k served
  /-- the entry that was read is stale -/
  | stale {e} : r.Reads i c k (some e) → r.Judges i c k (some e) .stale →
      served.IsOf e .stale true none → Serves r i c k served
  /-- there was no entry, and the flight gave one -/
  | missed {f e} : r.Reads i c k none → r.Awaits i c k none f (.ok e) →
      served.IsOf e .miss false none → Serves r i c k served
  /-- the entry that was read is expired, and the flight gave another -/
  | expired {e f e'} : r.Reads i c k (some e) → r.Judges i c k (some e) .hardExpired →
      r.Awaits i c k (some e) f (.ok e') → served.IsOf e' .expired false none → Serves r i c k served
  /-- the entry that was read is expired, and the flight failed -/
  | degraded {e f err} : r.Reads i c k (some e) → r.Judges i c k (some e) .hardExpired →
      r.Awaits i c k (some e) f (.error err) → served.IsOf e .expired false (some err) →
      Serves r i c k served

/-- What a call has been answered is of the entry of its way. -/
theorem Answered.serves {served : Served} (h : Answered r i c k (.ok served)) :
    r.Serves i c k served := by
  cases h with
  | hit hr hj => exact .hit hr hj (Served.isOf_ofEntry ..)
  | stale hr hj => exact .stale hr hj (Served.isOf_stale _)
  | missed hr ha => exact .missed hr ha (Served.isOf_ofEntry ..)
  | expired hr hj ha => exact .expired hr hj ha (Served.isOf_ofEntry ..)
  | degraded hr hj ha => exact .degraded hr hj ha (Served.isOf_degraded ..)

/-! ## How a call has come to where it is -/

/-- What a task has just been answered it has read. -/
theorem reads_of_ask {found : Option Entry} {fault : Option StoreError}
    (hv : Valid (r.state i).2) (hm : r.event i = .move (.storeCall c (.get k) fault))
    (hask : ask fault (r.state i).2 (Store.get · k) = (.ok found, (r.state (i + 1)).2)) :
    r.Reads (i + 1) c k found := by
  obtain ⟨-, -, ⟨rfl, hanswer⟩ | ⟨e, -, hanswer⟩⟩ := ask_get hv hask
  · exact ⟨i, Nat.lt_succ_self i, hm, (Except.ok.inj hanswer).symm⟩
  · cases hanswer

/-- A call that has read has read what it holds. -/
theorem reads_of_read (hv : ∀ i ≤ r.length, Valid (r.state i).2)
    (h₀ : (r.state 0).1.tasks = []) {found : Option Entry} (hi : i ≤ r.length)
    (hc : (r.state i).1.tasks[c]? = some (.call k x (.read found))) : r.Reads i c k found := by
  induction i with
  | zero =>
    rw [h₀] at hc
    cases hc
  | succ i ih =>
    obtain hc₀ | ⟨m, hm, ht⟩ := (Occurs.of_happen (r.step i hi)).call hc (by simp)
    · exact (ih (by omega) hc₀).mono (Nat.le_succ i)
    · obtain hc₀ | ⟨-, fault, rfl, hask⟩ := ht.nowRead hc
      · exact (ih (by omega) hc₀).mono (Nat.le_succ i)
      · exact reads_of_ask (hv i (by omega)) hm hask

/-- A call that waits has read what it holds. -/
theorem reads_of_waiting (hv : ∀ i ≤ r.length, Valid (r.state i).2)
    (h₀ : (r.state 0).1.tasks = []) {found : Option Entry} (hi : i ≤ r.length)
    (hc : (r.state i).1.tasks[c]? = some (.call k x (.waiting found f))) : r.Reads i c k found := by
  induction i with
  | zero =>
    rw [h₀] at hc
    cases hc
  | succ i ih =>
    obtain hc₀ | ⟨m, -, hb⟩ := (Occurs.of_happen (r.step i hi)).waiting hc
    · exact (ih (by omega) hc₀).mono (Nat.le_succ i)
    · exact (reads_of_read hv h₀ (by omega) hb.read).mono (Nat.le_succ i)

omit [LawfulStore σ] in
/-- A call that waits with an entry in hand has found it expired. -/
theorem judges_of_waiting (h₀ : (r.state 0).1.tasks = []) {e : Entry} (hi : i ≤ r.length)
    (hc : (r.state i).1.tasks[c]? = some (.call k x (.waiting (some e) f))) :
    r.Judges i c k (some e) .hardExpired := by
  induction i with
  | zero =>
    rw [h₀] at hc
    cases hc
  | succ i ih =>
    obtain hc₀ | ⟨m, hm, ht⟩ := (Occurs.of_happen (r.step i hi)).call hc (by simp)
    · exact (ih (by omega) hc₀).mono (Nat.le_succ i)
    · obtain hc₀ | ⟨hc₀, now, rfl, hverdict⟩ := ht.expired hc
      · exact (ih (by omega) hc₀).mono (Nat.le_succ i)
      · exact ⟨i, Nat.lt_succ_self i, x, now, hm, hc₀, hverdict⟩

/-- A call that is finished has its answer in one of these ways. -/
theorem answered_of_finished (hv : ∀ i ≤ r.length, Valid (r.state i).2)
    (h₀ : (r.state 0).1.tasks = []) {out : Except LookupError Served} (hi : i ≤ r.length)
    (hc : (r.state i).1.tasks[c]? = some (.call k x (.finished out))) : Answered r i c k out := by
  induction i with
  | zero =>
    rw [h₀] at hc
    cases hc
  | succ i ih =>
    obtain hc₀ | ⟨m, hm, ht⟩ := (Occurs.of_happen (r.step i hi)).call hc (by simp)
    · exact (ih (by omega) hc₀).mono (Nat.le_succ i)
    · obtain hc₀ | hfin := ht.finished hc
      · exact (ih (by omega) hc₀).mono (Nat.le_succ i)
      · have hi' : i ≤ r.length := by omega
        have hlt := Nat.lt_succ_self i
        have hle := Nat.le_succ i
        cases hfin with
        | @unread fault e _ hget hask =>
          subst hget
          obtain ⟨-, -, ⟨-, hanswer⟩ | ⟨e', rfl, hanswer⟩⟩ := ask_get (hv i hi') hask
          · cases hanswer
          · cases hanswer
            exact .unread ⟨i, hlt, hm⟩
        | hit hread hgo hverdict =>
          subst hgo
          exact .hit ((reads_of_read hv h₀ hi' hread).mono hle) ⟨i, hlt, x, _, hm, hread, hverdict⟩
        | stale hread hgo hverdict _ =>
          subst hgo
          exact .stale ((reads_of_read hv h₀ hi' hread).mono hle)
            ⟨i, hlt, x, _, hm, hread, hverdict⟩
        | @received found f result now hwait _ hresult =>
          have hreads := (reads_of_waiting hv h₀ hi' hwait).mono hle
          have hawaits : r.Awaits (i + 1) c k found f result := ⟨i, hlt, x, hwait, hresult⟩
          cases found with
          | none =>
            cases result with
            | ok e => exact .missed hreads hawaits
            | error err => exact .failed hreads hawaits
          | some e =>
            have hjudges := (judges_of_waiting h₀ hi' hwait).mono hle
            cases result with
            | ok e' => exact .expired hreads hjudges hawaits
            | error err => exact .degraded hreads hjudges hawaits

/-! ## One way only -/

omit [LawfulStore σ] in
/-- A move of the run is a transition. -/
theorem transition {m : Move ρ} (r : EventRun ρ σ) (hi : i < r.length) (hm : r.event i = .move m) :
    Transition (r.state i).1 (r.state i).2 m (r.state (i + 1)).1 (r.state (i + 1)).2 :=
  (hm ▸ Occurs.of_happen (r.step i hi)).transition

omit [LawfulStore σ] in
/-- A task that has made a move and is a call now has been one then. -/
theorem call_before {p : Call} (hji : j < i) (hi : i ≤ r.length)
    (hactor : (r.event j).actor? = some c)
    (hc : (r.state i).1.tasks[c]? = some (.call k x p)) :
    ∃ p₀, (r.state j).1.tasks[c]? = some (.call k x p₀) := by
  obtain ⟨t, ht⟩ := (Occurs.of_happen (r.step j (by omega))).exists_actor hactor
  obtain ⟨t', ht', hlater⟩ := r.later (Nat.le_of_lt hji) hi c t ht
  cases ht'.symm.trans hc
  cases hlater with
  | call _ => exact ⟨_, ht⟩
  | upkeep _ hu => cases hu

omit [LawfulStore σ] in
/-- A call reads once. -/
theorem eq_of_reading {p : Call} {fault fault' : Option StoreError} (hj : j < i) (hl : l < i)
    (hi : i ≤ r.length) (hc : (r.state i).1.tasks[c]? = some (.call k x p))
    (hmj : r.event j = .move (.storeCall c (.get k) fault))
    (hml : r.event l = .move (.storeCall c (.get k) fault')) : j = l := by
  have hnot {a b : Nat} {fault fault' : Option StoreError} (hab : a < b) (hb : b < i)
      (hma : r.event a = .move (.storeCall c (.get k) fault))
      (hmb : r.event b = .move (.storeCall c (.get k) fault')) : False := by
    obtain ⟨p₁, hp₁⟩ := call_before hb hi (by rw [hmb]; rfl) hc
    obtain rfl := (r.transition (by omega) hmb).reads hp₁
    -- the first reading has got the call further
    obtain ⟨p₀, hp₀⟩ := call_before hab (by omega) (by rw [hma]; rfl) hp₁
    obtain ⟨p', hp', hrank⟩ :=
      (Occurs.of_happen (r.step a (by omega))).advances (by rw [hma]; rfl) hp₀
    obtain ⟨p₂, hp₂, hlater⟩ := (r.later (show a + 1 ≤ b by omega) (by omega)).call hp'
    cases hp₂.symm.trans hp₁
    rcases hlater with rfl | hlt
    · simp at hrank
    · simp at hlt
  rcases Nat.lt_trichotomy j l with hlt | heq | hlt
  · exact (hnot hlt hl hmj hml).elim
  · exact heq
  · exact (hnot hlt hj hml hmj).elim

omit [LawfulStore σ] in
/-- A call that is finished stays so. -/
theorem finished_stays {out out' : Except LookupError Served} (hji : j ≤ i) (hi : i ≤ r.length)
    (hj : (r.state j).1.tasks[c]? = some (.call k x (.finished out)))
    (hc : (r.state i).1.tasks[c]? = some (.call k x (.finished out'))) : out = out' := by
  obtain ⟨p, hp, hlater⟩ := (r.later hji hi).call hj
  cases hp.symm.trans hc
  rcases hlater with heq | hlt
  · cases heq
    rfl
  · simp at hlt

omit [LawfulStore σ] in
/-- A call that has waited for a flight is finished with what it receives of the flight. -/
theorem receives_of_awaits {found : Option Entry} {result : Except LookupError Entry}
    {out : Except LookupError Served} (h : r.Awaits i c k found f result) (hi : i ≤ r.length)
    (hc : (r.state i).1.tasks[c]? = some (.call k x (.finished out))) :
    out = (receive found result).1 := by
  obtain ⟨j, hji, y, hwait, hresult⟩ := h
  obtain ⟨n, hjn, hni, hbefore, hafter⟩ := r.exists_change
    (P := fun z => z.1.tasks[c]? = some (.call k x (.finished out))) (Nat.le_of_lt hji)
    (by rw [hwait]; simp) hc
  obtain ⟨p, hp, hlater⟩ := (r.later hjn (by omega)).call hwait
  obtain ⟨p', hp', hlater'⟩ := (r.later (Nat.le_succ n) (by omega)).call hp
  cases hp'.symm.trans hafter
  -- just before it is finished the call is still waiting
  have hwaits : p = .waiting found f := by
    rcases hlater with rfl | hlt
    · rfl
    · rcases hlater' with rfl | hlt'
      · exact absurd hp hbefore
      · simp only [Call.rank] at hlt hlt'
        omega
  subst hwaits
  obtain ⟨result', hresult', rfl⟩ := (Occurs.of_happen (r.step n (by omega))).received hp hafter
  cases ((r.later hjn (by omega)).flightResult? hresult).symm.trans hresult'
  rfl

/-- A call goes one way only: whatever way it went, it has the answer of that way. -/
theorem Answered.eq {out out' : Except LookupError Served} (h : Answered r i c k out')
    (hi : i ≤ r.length) (hc : (r.state i).1.tasks[c]? = some (.call k x (.finished out))) :
    out' = out := by
  have hjudged {e : Entry} {verdict : Freshness} (hj : r.Judges i c k (some e) verdict)
      (hverdict : ∀ f, Call.judged verdict (some e) f = .finished out') : out' = out := by
    obtain ⟨j, hji, y, now, hm, hread, rfl⟩ := hj
    obtain ⟨p, hp, -⟩ := (r.later (Nat.le_of_lt hji) hi).call hread
    cases hp.symm.trans hc
    obtain ⟨f, hf⟩ := (r.transition (by omega) hm).judges hread
    rw [hverdict f] at hf
    exact finished_stays hji hi hf hc
  cases h with
  | unread h =>
    obtain ⟨j, hji, hm⟩ := h
    obtain ⟨p, hp⟩ := call_before hji hi (by rw [hm]; rfl) hc
    exact finished_stays hji hi ((r.transition (by omega) hm).readFails hp) hc
  | hit _ hj | stale _ hj => exact hjudged hj fun _ => rfl
  | missed _ ha | failed _ ha | expired _ _ ha | degraded _ _ ha =>
    exact (receives_of_awaits ha hi hc).symm

/-! ## Where an entry comes from -/

/-- The entry that a flight has in hand it has read or rendered, and it is of its key. -/
theorem of_inHand (hv : ∀ i ≤ r.length, Valid (r.state i).2) (h₀ : (r.state 0).1.tasks = [])
    {o : Option Generation} {p : Flight} {e : Entry} (hi : i ≤ r.length)
    (hf : (r.state i).1.tasks[f]? = some (.flight k o x p)) (he : p.inHand? = some e) :
    r.Reads i f k (some e) ∨ r.Renders i f k e := by
  induction i generalizing p with
  | zero =>
    rw [h₀] at hf
    cases hf
  | succ i ih =>
    have hearlier {p : Flight} (hf : (r.state i).1.tasks[f]? = some (.flight k o x p))
        (he : p.inHand? = some e) : r.Reads (i + 1) f k (some e) ∨ r.Renders (i + 1) f k e :=
      (ih (by omega) hf he).imp (·.mono (Nat.le_succ i)) (·.mono (Nat.le_succ i))
    obtain hf₀ | ⟨m, hm, ht⟩ := (Occurs.of_happen (r.step i hi)).inHand hf he
    · exact hearlier hf₀ he
    · obtain ⟨p₀, hf₀, he₀⟩ | ⟨-, fault, rfl, hask⟩ | ⟨hf₀, out, now, rfl, rfl⟩ := ht.inHand hf he
      · exact hearlier hf₀ he₀
      · exact .inl (reads_of_ask (hv i (by omega)) hm hask)
      · exact .inr ⟨i, Nat.lt_succ_self i, o, x, out, now, hm, hf₀, rfl⟩

/-- What is read under a key is of the key. -/
theorem Reads.key_eq (hv : ∀ i ≤ r.length, Valid (r.state i).2) (hi : i ≤ r.length) {e : Entry}
    (h : r.Reads i c k (some e)) : e.key = k := by
  obtain ⟨j, hji, -, he⟩ := h
  exact key_of_held (hv j (by omega)) he

/-- What a call is given by the flight that it waits for the flight has read or rendered. -/
theorem Awaits.source (hv : ∀ i ≤ r.length, Valid (r.state i).2) {policy : Policy}
    {renderTimeout : Duration} (h₀ : (r.state 0).1 = new policy renderTimeout) (hi : i ≤ r.length)
    {found : Option Entry} {e : Entry} (h : r.Awaits i c k found f (.ok e)) :
    r.Reads i f k (some e) ∨ r.Renders i f k e := by
  obtain ⟨j, hji, x, hwait, hresult⟩ := h
  obtain ⟨o, y, p, hf⟩ := (r.oneFlight h₀ j (by omega)).2 hwait
  obtain ⟨_, _, _, hf'⟩ := flightResult?_eq_some_iff.mp hresult
  cases hf.symm.trans hf'
  have htasks : (r.state 0).1.tasks = [] := by rw [h₀]; rfl
  exact (of_inHand hv htasks (by omega) hf rfl).imp (·.mono (by omega)) (·.mono (by omega))

end EventRun

/-! ## A call comes to its answer -/

section

variable {s : Scheduler ρ} {st : σ} {c : TaskId} {f : FlightId} {k : Key} {x : ρ}

/-- The event is a move of the flight, or the call goes on. -/
def IsOfWait (c : TaskId) (f : FlightId) : Event ρ → Prop
  | .move (.proceed i _) => i = c ∨ i = f
  | .move m => m.actor? = some f
  | .breakDown _ _ => False

/-- A call that has still to read can read, whether the store fails or not. -/
theorem exists_read [LawfulStore σ] (hv : Valid st) (hc : s.tasks[c]? = some (.call k x .reading))
    (fault : Option StoreError) :
    ∃ y, happen (s, st) (.move (.storeCall c (.get k) fault)) = some y ∧
      y.1.tasks[c]? = some (.call k x (match fault with
        | none => .read (held st k)
        | some e => .finished (.error (.store e)))) := by
  have hcall : StoreCall.get k ∈ (Task.call k x .reading : Task ρ).storeCalls := by
    simp [Task.storeCalls]
  cases fault with
  | none =>
    refine ⟨(s.setTask c (.call k x (.read (held st k))), (Store.get st k).2), ?_,
      getElem?_setTask_self hc _⟩
    simp only [happen, moved, step, hc, Option.bind_eq_bind, Option.bind_some,
      if_neg (not_not_intro hcall), ask, get_answer k hv, answerGet]
    rfl
  | some e =>
    refine ⟨((s.bump (.lookup .error)).setTask c (.call k x (.finished (.error (.store e)))), st),
      ?_, getElem?_setTask_self (s := s.bump _) hc _⟩
    simp only [happen, moved, step, hc, Option.bind_eq_bind, Option.bind_some,
      if_neg (not_not_intro hcall), ask, answerGet]
    rfl

/-- A call that has read can go on at any time, by the verdict on what it read. -/
theorem exists_judged {found : Option Entry} (hc : s.tasks[c]? = some (.call k x (.read found)))
    (now : Instant) : ∃ y f, happen (s, st) (.move (.proceed c now)) = some y ∧
      y.1.tasks[c]? = some (.call k x (.judged (s.policy.classify found now) found f)) := by
  obtain ⟨y, hy⟩ : ∃ y, happen (s, st) (.move (.proceed c now)) = some y := by
    simp only [happen, moved, step, hc, Option.bind_eq_bind, Option.bind_some, resume]
    exact ⟨_, rfl⟩
  obtain ⟨f, hc'⟩ := (Occurs.of_happen hy).transition.judges hc
  exact ⟨y, f, hy, hc'⟩

/-- A flight that is not over can go on. -/
theorem exists_goes_on {o : Option Generation} {p : Flight}
    (hf : s.tasks[f]? = some (.flight k o x p)) (hover : (Task.flight k o x p).isOver = false) :
    ∃ m, m.actor? = some f ∧ (moved (s, st) m).isSome := by
  cases p with
  | checking =>
    have hcall : StoreCall.get k ∈ (Task.flight k o x .checking : Task ρ).storeCalls := by
      simp [Task.storeCalls]
    refine ⟨.storeCall f (.get k) (some default), rfl, ?_⟩
    simp only [moved, step, hf, Option.bind_eq_bind, Option.bind_some,
      if_neg (not_not_intro hcall), ask, answerGet]
    rfl
  | committing e =>
    have hcall : StoreCall.put e o ∈ (Task.flight k o x (.committing e) : Task ρ).storeCalls := by
      simp [Task.storeCalls]
    refine ⟨.storeCall f (.put e o) (some default), rfl, ?_⟩
    simp only [moved, step, hf, Option.bind_eq_bind, Option.bind_some,
      if_neg (not_not_intro hcall), ask, answerPut]
    rfl
  | rendering =>
    refine ⟨.render f .timedOut default, rfl, ?_⟩
    simp only [moved, step, hf]
    rfl
  | checked found | committed e | ending result =>
    refine ⟨.proceed f default, rfl, ?_⟩
    simp only [moved, step, hf, Option.bind_eq_bind, Option.bind_some, resume]
    rfl
  | finished result => cases hover

/-- A waiting call that goes on receives the result of its flight. -/
theorem Transition.receives {s' : Scheduler ρ} {st' : σ} {found : Option Entry} {now : Instant}
    (h : Transition s st (.proceed c now) s' st')
    (hc : s.tasks[c]? = some (.call k x (.waiting found f))) :
    ∃ result, s.flightResult? f = some result ∧
      s'.tasks[c]? = some (.call k x (.finished (receive found result).1)) := by
  obtain ⟨p', hc', hstep⟩ := h.callStep rfl hc
  cases hstep with
  | advanced ha =>
    cases ha with
    | callReceived hresult => exact ⟨_, hresult, hc'⟩

/-- The call has been given the result of the flight. -/
def Received (c : TaskId) (f : FlightId) (k : Key) (x : ρ) (found : Option Entry)
    (y : Scheduler ρ × σ) : Prop :=
  ∃ result, y.1.flightResult? f = some result ∧
    y.1.tasks[c]? = some (.call k x (.finished (receive found result).1))

/-- What an event of a wait does: the call receives, or it is a move of the flight. -/
theorem of_isOfWait {y y' : Scheduler ρ × σ} {e : Event ρ} {found : Option Entry}
    (he : IsOfWait c f e) (h : happen y e = some y')
    (hc : y.1.tasks[c]? = some (.call k x (.waiting found f))) :
    Received c f k x found y' ∨
      ∃ m, m.actor? = some f ∧ Transition y.1 y.2 m y'.1 y'.2 := by
  cases e with
  | breakDown _ _ => exact he.elim
  | move m =>
    have ht := (Occurs.of_happen h).transition
    cases m with
    | proceed i now =>
      obtain rfl | rfl := he
      · obtain ⟨result, hresult, hc'⟩ := ht.receives hc
        exact .inl ⟨result, (later_of_transition ht).flightResult? hresult, hc'⟩
      · exact .inr ⟨_, rfl, ht⟩
    | _ => exact .inr ⟨_, he, ht⟩

/-- A move of the flight is an event of the wait. -/
theorem isOfWait_of_actor {m : Move ρ} (hm : m.actor? = some f) : IsOfWait c f (.move m) := by
  cases m with
  | proceed i now => exact .inr (Option.some.inj hm)
  | _ => exact hm

/-- **Waiting comes to an end.** However the store and the renderer fail, a call that waits for a
flight is given its result, when the moves of the flight and its own are made. -/
theorem wait_completes {found : Option Entry} {j : Key} {o : Option Generation} {z : ρ} (n : Nat) :
    ∀ (y : Scheduler ρ × σ) (p : Flight), 6 - p.rank = n →
      y.1.tasks[c]? = some (.call k x (.waiting found f)) →
      y.1.tasks[f]? = some (.flight j o z p) →
      Completes happen (IsOfWait c f) (Received c f k x found) y := by
  induction n using Nat.strong_induction_on with
  | _ n ih =>
    rintro ⟨s, st⟩ p hn hc hf
    refine .more ?_ ?_
    · cases hover : (Task.flight j o z p).isOver with
      | true =>
        cases p with
        | finished result =>
          have hresult := flightResult?_eq_some_iff.mpr ⟨j, o, z, hf⟩
          obtain ⟨y', hy', -⟩ : ∃ y', moved (s, st) (.proceed c default) = some y' ∧ _ :=
            exists_received hc hresult default
          exact ⟨.move (.proceed c default), y', .inl rfl, hy'⟩
        | _ => cases hover
      | false =>
        obtain ⟨m, hm, hopen⟩ : ∃ m, m.actor? = some f ∧ (moved (s, st) m).isSome :=
          exists_goes_on hf hover
        obtain ⟨y', hy'⟩ := Option.isSome_iff_exists.mp hopen
        exact ⟨.move m, y', isOfWait_of_actor hm, hy'⟩
    · intro e y' he hy'
      obtain hreceived | ⟨m, hm, ht⟩ := of_isOfWait he hy' hc
      · exact .done hreceived
      · -- the flight gets further, and the call still waits for it
        obtain ⟨p', hstep⟩ := ht.flightStep hm hf
        have hne : m.actor? ≠ some c := by
          rintro hm'
          obtain rfl : f = c := Option.some.inj (hm.symm.trans hm')
          cases hf.symm.trans hc
        have hc' := ht.untouched (List.getElem?_eq_some_iff.mp hc).1 hne
        have hlt := hstep.rank_lt
        have hle : p'.rank ≤ 6 := by cases p' <;> simp
        exact ih (6 - p'.rank) (by omega) y' p' rfl (hc'.trans hc) (hstep.getElem? hf)

end

/-! ## The main result -/

namespace EventRun

variable [LawfulStore σ]

/-- **Answers by what was read.** -/
structure AnswersByReading (r : EventRun ρ σ) : Prop where
  /-- a call that is finished has the answer of the way that it went, and of no other -/
  answered : ∀ i ≤ r.length, ∀ (c : TaskId) k x out,
    (r.state i).1.tasks[c]? = some (.call k x (.finished out)) →
    ∀ out', r.Answered i c k out' ↔ out' = out
  /-- if it serves an entry, it serves its body and its generation, by the path of its way -/
  serves : ∀ i ≤ r.length, ∀ (c : TaskId) k x served,
    (r.state i).1.tasks[c]? = some (.call k x (.finished (.ok served))) → r.Serves i c k served
  /-- it has failed exactly if its reading failed, or found no entry and the flight that it waited
  for failed, and with the same error -/
  fails : ∀ i ≤ r.length, ∀ (c : TaskId) k x out,
    (r.state i).1.tasks[c]? = some (.call k x (.finished out)) →
    ∀ err, out = .error err ↔ (∃ e, r.FailsToRead i c k e ∧ err = .store e) ∨
      r.Reads i c k none ∧ ∃ f, r.Awaits i c k none f (.error err)
  /-- if it has read an entry, it has not failed -/
  served : ∀ i ≤ r.length, ∀ (c : TaskId) k x out e,
    (r.state i).1.tasks[c]? = some (.call k x (.finished out)) → r.Reads i c k (some e) →
    ∃ served, out = .ok served
  /-- what it serves belongs to an entry of its key, which it has read itself, or which the flight
  that it waited for has read under the key or rendered -/
  own_key : ∀ i ≤ r.length, ∀ (c : TaskId) k x served,
    (r.state i).1.tasks[c]? = some (.call k x (.finished (.ok served))) →
    ∃ e, e.key = k ∧ served.body = e.body ∧ served.generation = e.generation ∧
      (r.Reads i c k (some e) ∨ ∃ found f, r.Awaits i c k found f (.ok e) ∧
        (r.Reads i f k (some e) ∨ r.Renders i f k e))
  /-- an entry that a flight has rendered is made of what its render gave -/
  made : ∀ i ≤ r.length, ∀ (f : FlightId) k e, r.Renders i f k e → ∃ j < i, ∃ o x out now,
    r.event j = .move (.render f (.output out) now) ∧
    (r.state j).1.tasks[f]? = some (.flight k o x .rendering) ∧ e.MadeOf k o out now
  /-- the flight that it waited for it has led or joined -/
  boarded : ∀ i ≤ r.length, ∀ (c : TaskId) k found (f : FlightId) result,
    r.Awaits i c k found f result → ∃ j < i, r.Leads j c f ∨ r.Joins j c f
  /-- a call can read, and it fails only if the store does -/
  reading : ∀ i ≤ r.length, ∀ (c : TaskId) k x,
    (r.state i).1.tasks[c]? = some (.call k x .reading) → ∀ fault,
    ∃ y, happen (r.state i) (.move (.storeCall c (.get k) fault)) = some y ∧
      y.1.tasks[c]? = some (.call k x (match fault with
        | none => .read (held (r.state i).2 k)
        | some e => .finished (.error (.store e))))
  /-- when it has read, it can go on at any time, by the verdict on what it read -/
  judging : ∀ i ≤ r.length, ∀ (c : TaskId) k x found,
    (r.state i).1.tasks[c]? = some (.call k x (.read found)) → ∀ now,
    ∃ y f, happen (r.state i) (.move (.proceed c now)) = some y ∧
      y.1.tasks[c]? =
        some (.call k x (.judged ((r.state i).1.policy.classify found now) found f))
  /-- when it waits, it comes to receive the result of its flight, whatever the store and the
  renderer answer -/
  waiting : ∀ i ≤ r.length, ∀ (c : TaskId) k x found (f : FlightId),
    (r.state i).1.tasks[c]? = some (.call k x (.waiting found f)) →
    Completes happen (IsOfWait c f) (Received c f k x found) (r.state i)

/-- What a call has been answered is of its key, wherever it comes from. -/
theorem Answered.own_key {r : EventRun ρ σ} {i : Nat} {c : TaskId} {k : Key} {served : Served}
    (hv : ∀ i ≤ r.length, Valid (r.state i).2) {policy : Policy} {renderTimeout : Duration}
    (h₀ : (r.state 0).1 = new policy renderTimeout) (hi : i ≤ r.length)
    (h : Answered r i c k (.ok served)) :
    ∃ e, e.key = k ∧ served.body = e.body ∧ served.generation = e.generation ∧
      (r.Reads i c k (some e) ∨ ∃ found f, r.Awaits i c k found f (.ok e) ∧
        (r.Reads i f k (some e) ∨ r.Renders i f k e)) := by
  have hflight {found : Option Entry} {f : FlightId} {e : Entry}
      (ha : r.Awaits i c k found f (.ok e)) :
      e.key = k ∧ (r.Reads i f k (some e) ∨ r.Renders i f k e) := by
    have hsource := ha.source hv h₀ hi
    refine ⟨?_, hsource⟩
    rcases hsource with hread | ⟨_, _, _, _, _, _, _, _, rfl⟩
    · exact hread.key_eq hv hi
    · rfl
  cases h with
  | hit hread _ | stale hread _ | degraded hread _ _ =>
    exact ⟨_, hread.key_eq hv hi, rfl, rfl, .inl hread⟩
  | missed _ ha | expired _ _ ha =>
    obtain ⟨hkey, hsource⟩ := hflight ha
    exact ⟨_, hkey, rfl, rfl, .inr ⟨_, _, ha, hsource⟩⟩

/-- **Answers.** In every run of a scheduler that has done nothing before, whatever fails in it, a
lookup is answered by what it read itself, with an entry of its own key. -/
theorem answers_by_what_it_read (r : EventRun ρ σ) (policy : Policy) (renderTimeout : Duration)
    (h₀ : (r.state 0).1 = new policy renderTimeout) (hv : Valid (r.state 0).2) :
    AnswersByReading r := by
  have hvalid : ∀ i ≤ r.length, Valid (r.state i).2 := fun i hi => (r.standing h₀ hv i hi).valid
  have htasks : (r.state 0).1.tasks = [] := by rw [h₀]; rfl
  have hway {i : Nat} {c : TaskId} {k : Key} {x : ρ} {out : Except LookupError Served}
      (hi : i ≤ r.length) (hc : (r.state i).1.tasks[c]? = some (.call k x (.finished out))) :
      Answered r i c k out := answered_of_finished hvalid htasks hi hc
  refine ⟨?_, ?_, ?_, ?_, ?_, ?_, ?_, ?_, ?_, ?_⟩
  · intro i hi c k x out hc out'
    constructor
    · intro h
      exact h.eq hi hc
    · rintro rfl
      exact hway hi hc
  · intro i hi c k x served hc
    exact (hway hi hc).serves
  · intro i hi c k x out hc err
    constructor
    · rintro rfl
      cases hway hi hc with
      | unread h => exact .inl ⟨_, h, rfl⟩
      | failed hread ha => exact .inr ⟨hread, _, ha⟩
    · rintro (⟨e, h, rfl⟩ | ⟨hread, f, ha⟩)
      · exact ((Answered.unread h).eq hi hc).symm
      · exact ((Answered.failed hread ha).eq hi hc).symm
  · rintro i hi c k x out e hc ⟨j, hji, hm, he⟩
    cases out with
    | ok served => exact ⟨served, rfl⟩
    | error err =>
      -- the one reading of the call found the entry, so it neither failed nor found nothing
      cases hway hi hc with
      | unread h =>
        obtain ⟨l, hli, hm'⟩ := h
        obtain rfl := eq_of_reading hji hli hi hc hm hm'
        cases hm.symm.trans hm'
      | failed hread _ =>
        obtain ⟨l, hli, hm', hnone⟩ := hread
        obtain rfl := eq_of_reading hji hli hi hc hm hm'
        cases he.symm.trans hnone
  · intro i hi c k x served hc
    exact (hway hi hc).own_key hvalid h₀ hi
  · rintro i hi f k _ ⟨j, hji, o, x, out, now, hm, hf, rfl⟩
    exact ⟨j, hji, o, x, out, now, hm, hf, madeOf_entryOf k o out now⟩
  · rintro i hi c k found f result ⟨j, hji, x, hwait, -⟩
    obtain ⟨l, hlj, hboards⟩ := exists_boards h₀ (show j ≤ r.length by omega) hwait
    exact ⟨l, by omega, hboards⟩
  · intro i hi c k x hc fault
    exact exists_read (hvalid i hi) hc fault
  · intro i hi c k x found hc now
    exact exists_judged hc now
  · intro i hi c k x found f hc
    obtain ⟨o, z, p, hf⟩ := (r.oneFlight h₀ i hi).2 hc
    exact wait_completes _ _ p rfl hc hf

/-- A page is stored and expires; the flight that would regenerate it breaks down while it renders,
and the lookup that waits for it serves the expired page. -/
def degradedLookup : List (Event Nat) :=
  [.move (.lookup ⟨"home"⟩ 1), .move (.storeCall 0 (.get ⟨"home"⟩) none),
    .move (.proceed 0 .epoch), .move (.storeCall 1 (.get ⟨"home"⟩) none),
    .move (.proceed 1 .epoch), .move (.render 1 (.output MoveRun.shortLived) .epoch),
    .move (.storeCall 1 (.put (entryOf ⟨"home"⟩ none MoveRun.shortLived .epoch) none) none),
    .move (.proceed 1 .epoch), .move (.proceed 1 .epoch), .move (.proceed 0 .epoch),
    .move (.lookup ⟨"home"⟩ 2), .move (.storeCall 2 (.get ⟨"home"⟩) none),
    .move (.proceed 2 MoveRun.fiveSeconds), .move (.storeCall 3 (.get ⟨"home"⟩) none),
    .move (.proceed 3 MoveRun.fiveSeconds), .breakDown 3 "lost",
    .move (.proceed 3 MoveRun.fiveSeconds), .move (.proceed 2 MoveRun.fiveSeconds)]

/-- The run of these events over an empty store. -/
def degradedLookupRun : EventRun Nat MemoryStore :=
  .ofList (new ⟨none⟩ (.ofSecs 5), .unbounded) degradedLookup rfl

theorem answers_when_degraded :
    (degradedLookupRun.state 0).1 = new ⟨none⟩ (.ofSecs 5) ∧
      AnswersByReading degradedLookupRun ∧
      (degradedLookupRun.state 18).1.tasks[2]? =
        some (.call ⟨"home"⟩ 2 (.finished (.ok {
          Served.ofEntry (entryOf ⟨"home"⟩ none MoveRun.shortLived .epoch) .expired with
          degraded := some (.render (.aborted "lost")) }))) :=
  ⟨rfl, answers_by_what_it_read degradedLookupRun ⟨none⟩ (.ofSecs 5) rfl
    MemoryStore.distinct_unbounded, rfl⟩

end EventRun

end Scheduler

end PageCache
