import PageCache.Proofs.Scheduler.Standing
import PageCache.Proofs.Store.Memory

/-!
# Rendered once

Single flight does not keep a key from being rendered twice: a call that has read before a commit
may get to its dispatch after the flight is over, and then it starts another one. What keeps that
flight from rendering is that it reads again, and finds an entry that it did not expect.

The invariant has two phases. Before a commit everybody who has read has read what the key held at
the start; from the commit on, whoever reads finds the new entry and finds it fresh, so that calls
serve it and flights are superseded by it. `RenderPhase` is the invariant of both, `of_transition`
says how a move leads through them, and `rendered_once` is the result for a whole run.
-/

namespace PageCache

open LawfulStore

namespace Scheduler

variable {ρ σ : Type}

/-- The move reads the clock to judge what has been read of the key. -/
def Judges (s : Scheduler ρ) (k : Key) (m : Move ρ) (now : Instant) : Prop :=
  ∃ id, m = .proceed id now ∧
    ((∃ x found, s.tasks[id]? = some (.call k x (.read found))) ∨
      ∃ o x found, s.tasks[id]? = some (.flight k o x (.checked found)))

theorem Judges.of_call {s : Scheduler ρ} {k : Key} {c : TaskId} {x : ρ} {found : Option Entry}
    (hc : s.tasks[c]? = some (.call k x (.read found))) (now : Instant) :
    Judges s k (.proceed c now) now := ⟨c, rfl, .inl ⟨x, found, hc⟩⟩

theorem Judges.of_flight {s : Scheduler ρ} {k : Key} {f : FlightId} {o : Option Generation} {x : ρ}
    {found : Option Entry} (hf : s.tasks[f]? = some (.flight k o x (.checked found)))
    (now : Instant) : Judges s k (.proceed f now) now := ⟨f, rfl, .inr ⟨o, x, found, hf⟩⟩

/-! ## The phases before and after the commit -/

/-- A result that is no entry, or that has the body and the generation of the entry committed. -/
def ResultFits (committed : Option Entry) : Except LookupError Entry → Prop
  | .ok e => ∃ e', committed = some e' ∧ e.body = e'.body ∧ e.generation = e'.generation
  | .error _ => True

section Phases

variable (σ) [Store σ] [LawfulStore σ] (start committed : Option Entry)

/-- What is held of the key: the entry committed, if there is one, else what was held at the
start. -/
def nowHeld : Option Entry :=
  match committed with
  | some e => some (kept σ e)
  | none => start

/-- How a flight may stand. -/
def FlightFits : Flight → Prop
  | .checking => True
  | .checked found => found = nowHeld σ start committed
  | .rendering => committed = none
  | .committing _ => committed = none
  | .committed e => committed = some e
  | .ending result => ResultFits committed result
  | .finished result => ResultFits committed result

/-- How a call may stand. -/
def CallFits : Call → Prop
  | .read found => found = start ∨ found = nowHeld σ start committed
  | .waiting found _ => found = start
  | _ => True

/-- **The invariant.** -/
structure RenderPhase (k : Key) (s : Scheduler ρ) (st : σ) : Prop where
  /-- what is held -/
  holds : held st k = nowHeld σ start committed
  /-- the entry committed has the generation after the one at the start -/
  generation : ∀ e, committed = some e →
    e.generation = (start.map Entry.generation).getD 0 + 1
  /-- the flights under way were started for what was held at the start -/
  flights : ∀ ⦃f : FlightId⦄ ⦃o x p⦄, s.tasks[f]? = some (.flight k o x p) →
    (Task.flight k o x p).isOver = false →
    o = start.map Entry.generation ∧ FlightFits σ start committed p
  /-- the calls under way have read what was held at the start or is held now -/
  calls : ∀ ⦃c : TaskId⦄ ⦃x p⦄, s.tasks[c]? = some (.call k x p) →
    (Task.call k x p).isOver = false → CallFits σ start committed p
  /-- what a waiting call may receive fits -/
  waits : ∀ ⦃c : TaskId⦄ ⦃x found⦄ ⦃f : FlightId⦄ ⦃o y result⦄,
    s.tasks[c]? = some (.call k x (.waiting found f)) →
    s.tasks[f]? = some (.flight k o y (.finished result)) → ResultFits committed result

end Phases

variable [Store σ] [LawfulStore σ] {start committed : Option Entry} {k : Key}
  {s s' : Scheduler ρ} {st st' : σ} {m : Move ρ}

/-! ## One move before or after the commit -/

/-- Whoever judges the entry committed finds it fresh. -/
def FindsFresh (σ : Type) [Store σ] [LawfulStore σ] (committed : Option Entry) (s : Scheduler ρ)
    (k : Key) (m : Move ρ) : Prop :=
  ∀ e, committed = some e → ∀ now, Judges s k m now →
    s.policy.classify (some (kept σ e)) now = .fresh

/-- Who finds what has been read not to be fresh has read what was held at the start. -/
theorem eq_start_of_not_fresh (hfresh : FindsFresh σ committed s k m) {found : Option Entry}
    {now : Instant} (hj : Judges s k m now) (hn : s.policy.classify found now ≠ .fresh)
    (hfound : found = start ∨ found = nowHeld σ start committed) : found = start := by
  rcases hfound with rfl | rfl
  · rfl
  · cases committed with
    | none => rfl
    | some e => exact absurd (hfresh e rfl now hj) hn

/-- A call that boards a flight has read what was held at the start. -/
theorem callFits_boarded {found : Option Entry} (h : found = start) (fr : Freshness)
    (f : FlightId) : CallFits σ start committed (.boarded fr found f) := by
  unfold Call.boarded
  cases found with
  | none => exact h
  | some e =>
    simp only
    split
    · exact h
    · trivial

/-- A call goes on fitting. -/
theorem RenderPhase.callFits (h : RenderPhase σ start committed k s st) (hv : Valid st)
    (hfresh : FindsFresh σ committed s k m) {c : TaskId} {x : ρ} {p p' : Call}
    (hc : s.tasks[c]? = some (.call k x p)) (hstep : CallStep s st c k x m p p' s' st') :
    CallFits σ start committed p' := by
  cases hstep with
  | advanced ha =>
    cases ha with
    | callRead hask => exact .inr ((ask_get_ok hv hask).trans h.holds)
    | callJoined hn _ =>
      have hstart := eq_start_of_not_fresh hfresh (.of_call hc _) hn (h.calls hc rfl)
      exact callFits_boarded hstart _ _
    | callUnread _ | callServed _ | callReceived _ | callAbandoned _ => trivial
  | led _ hn _ =>
    have hstart := eq_start_of_not_fresh hfresh (.of_call hc _) hn (h.calls hc rfl)
    exact callFits_boarded hstart _ _

/-- A flight that was started for what was held at the start is superseded by the entry
committed. -/
theorem RenderPhase.superseded (h : RenderPhase σ start committed k s st) {e : Entry}
    {now : Instant} (he : committed = some e)
    (hfresh : s.policy.classify (some (kept σ e)) now = .fresh) :
    s.Superseded (start.map Entry.generation) (some (kept σ e)) now := by
  refine ⟨kept σ e, rfl, ?_, hfresh⟩
  rw [generation_kept, h.generation e he]
  cases start with
  | none => simp
  | some e₀ => simp

/-- A flight goes on fitting, unless it commits. -/
theorem RenderPhase.flightFits (h : RenderPhase σ start committed k s st) (hs : Standing s st)
    (hfresh : FindsFresh σ committed s k m) {f : FlightId} {o : Option Generation} {x : ρ}
    {p p' : Flight} (hf : s.tasks[f]? = some (.flight k o x p))
    (hstep : FlightStep s st f k o x m p p' s' st') (hp' : ∀ e, p' ≠ .committed e) :
    FlightFits σ start committed p' := by
  cases hstep with
  | advanced ha =>
    cases ha with
    | flightRead hask => exact (ask_get_ok hs.valid hask).trans h.holds
    | flightUnread _ => trivial
    | @flightSuperseded _ _ _ e now hsup =>
      obtain ⟨rfl, hfound⟩ := h.flights hf rfl
      obtain ⟨e', he', hne, -⟩ := hsup
      cases he'
      cases committed with
      | none =>
        -- what was held at the start is of the generation observed
        have hstart : some e = start := hfound
        rw [← hstart] at hne
        exact absurd rfl hne
      | some e₁ =>
        obtain rfl : e = kept σ e₁ := Option.some.inj hfound
        exact ⟨e₁, rfl, body_kept e₁, generation_kept e₁⟩
    | @renderStarted _ _ _ found now hsup =>
      obtain ⟨rfl, hfound⟩ := h.flights hf rfl
      cases hcommitted : committed with
      | none => rfl
      | some e =>
        have hfound' : found = some (kept σ e) := by
          rw [hfound, hcommitted]
          rfl
        rw [hfound'] at hsup
        exact absurd (h.superseded hcommitted (hfresh e hcommitted now (.of_flight hf now)))
          hsup
    | renderSucceeded => exact (h.flights hf rfl).2
    | renderFailed _ _ => trivial
    | putRefused hask =>
      -- before the commit the write saw what is held
      obtain ⟨rfl, hnone⟩ := h.flights hf rfl
      obtain ⟨-, -, hcheck⟩ := ask_put_conflict hs.valid hask
      obtain ⟨out, now, rfl⟩ := hs.rendered hf .committing
      have hnone' : committed = none := hnone
      subst hnone'
      rw [key_entryOf, Contents.generation, h.holds, generation_entryOf] at hcheck
      cases (checkGeneration_eq_stored_iff.mpr ⟨rfl, Nat.lt_succ_self _⟩).symm.trans hcheck
    | putFailed _ => trivial
  | stored _ => exact absurd rfl (hp' _)
  | @linked e _ =>
    have hcommitted : committed = some e := (h.flights hf rfl).2
    exact ⟨e, hcommitted, rfl, rfl⟩
  | ended => exact (h.flights hf rfl).2

/-- A flight that is led was started for what was held at the start. -/
theorem RenderPhase.observed (h : RenderPhase σ start committed k s st)
    (hfresh : FindsFresh σ committed s k m) {c : TaskId} {x : ρ} {found : Option Entry}
    {f : FlightId} (hb : Boarding s m c k x found f s') : found = start := by
  obtain ⟨now, rfl, hn⟩ := hb.goes_on
  exact eq_start_of_not_fresh hfresh (.of_call hb.read now) hn (h.calls hb.read rfl)

/-- What a waiting call may receive goes on fitting. -/
theorem RenderPhase.waits_of_transition (h : RenderPhase σ start committed k s st)
    (hs : Standing s st) (ht : Transition s st m s' st') {c : TaskId} {x : ρ}
    {found : Option Entry} {f : FlightId} {o : Option Generation} {y : ρ}
    {result : Except LookupError Entry}
    (hc : s'.tasks[c]? = some (.call k x (.waiting found f)))
    (hf : s'.tasks[f]? = some (.flight k o y (.finished result))) :
    ResultFits committed result := by
  obtain hc₀ | hb := ht.waiting hc
  · obtain hf₀ | ⟨-, hp, -⟩ | ⟨p, hf₀, hstep⟩ := ht.flight hf
    · exact h.waits hc₀ hf₀
    · cases hp
    · cases hstep with
      | advanced ha => cases ha
      | ended => exact (h.flights hf₀ rfl).2
  · -- a call that comes to wait has boarded a flight that is not over
    obtain ⟨o', y', p, hf', hover⟩ :=
      flying_iff.mp ((hs.oneFlight.of_transition ht k f).mp hb.recorded)
    cases hf.symm.trans hf'
    cases hover

/-- No flight of the key commits between the two states. -/
def NoCommit (s s' : Scheduler ρ) (k : Key) : Prop :=
  ∀ (f : FlightId) (o : Option Generation) (x : ρ) (e : Entry),
    s'.tasks[f]? = some (.flight k o x (.committed e)) →
      s.tasks[f]? = some (.flight k o x (.committed e))

/-- What is held of the key stays as it is, unless a flight of the key commits. -/
theorem held_of_transition (hs : Standing s st) (ht : Transition s st m s' st')
    (hstays : held st k ≠ none → held st' k ≠ none)
    (hno : NoCommit s s' k) : held st' k = held st k := by
  have hcases : held st' k = held st k ∨ held st' k = none → held st' k = held st k := by
    rintro (heq | hnone)
    · exact heq
    · by_cases hk : held st k = none
      · rw [hnone, hk]
      · exact absurd hnone (hstays hk)
  cases (ht.change hs.valid).2 with
  | nothing hheld => rw [hheld]
  | @deleted _ j _ _ hheld =>
    refine hcases ?_
    rw [hheld]
    by_cases hk : k = j
    · subst hk
      exact .inr (Contents.without_self _ k)
    · exact .inl (Contents.without_of_ne _ hk)
  | @stored f j o x e _ hf _ _ htakes =>
    refine hcases (htakes.2 k ?_)
    rw [key_kept, hs.key_of_holds hf .committing]
    rintro rfl
    cases hf.symm.trans (hno f o x e (getElem?_setTask_self hf _))

/-- **A move that commits nothing** of the key keeps the invariant. -/
theorem RenderPhase.keeps (h : RenderPhase σ start committed k s st) (hs : Standing s st)
    (ht : Transition s st m s' st') (hfresh : FindsFresh σ committed s k m)
    (hstays : held st k ≠ none → held st' k ≠ none)
    (hno : NoCommit s s' k) :
    RenderPhase σ start committed k s' st' where
  holds := (held_of_transition hs ht hstays hno).trans h.holds
  generation := h.generation
  flights := by
    intro f o x p' hf hover
    obtain hf₀ | ⟨-, rfl, -, -, c, found, hb, rfl⟩ | ⟨p, hf₀, hstep⟩ := ht.flight hf
    · exact h.flights hf₀ hover
    · exact ⟨by rw [h.observed hfresh hb], trivial⟩
    · refine ⟨(h.flights hf₀ hstep.not_over).1, h.flightFits hs hfresh hf₀ hstep ?_⟩
      rintro e rfl
      cases hf₀.symm.trans (hno f o x e hf)
      cases hstep with
      | advanced ha => cases ha
  calls := by
    intro c x p' hc hover
    obtain hc₀ | ⟨-, rfl, -⟩ | ⟨p, hc₀, hstep⟩ := ht.call hc
    · exact h.calls hc₀ hover
    · trivial
    · exact h.callFits hs.valid hfresh hc₀ hstep
  waits := by
    intro c x found f o y result hc hf
    exact h.waits_of_transition hs ht hc hf

/-- What fits before the commit fits after it. -/
theorem CallFits.commit {p : Call} (h : CallFits σ start none p) (e : Entry) :
    CallFits σ start (some e) p := by
  cases p with
  | read found =>
    rcases h with h | h
    · exact .inl h
    · exact .inl h
  | waiting found f => exact h
  | _ => trivial

theorem ResultFits.commit {result : Except LookupError Entry} (h : ResultFits none result)
    (e : Entry) : ResultFits (some e) result := by
  cases result with
  | ok e' =>
    obtain ⟨_, he, -⟩ := h
    cases he
  | error err => trivial

/-- **The commit** of a flight of the key leads from the phase before to the phase after. -/
theorem RenderPhase.commits (h : RenderPhase σ start committed k s st) (hs : Standing s st)
    (ht : Transition s st m s' st') (hfresh : FindsFresh σ committed s k m) {f : FlightId}
    {o : Option Generation} {x : ρ} {e : Entry}
    (hf : s.tasks[f]? = some (.flight k o x (.committing e)))
    (hf' : s'.tasks[f]? = some (.flight k o x (.committed e))) :
    committed = none ∧ RenderPhase σ start (some e) k s' st' := by
  obtain ⟨rfl, hnone⟩ := h.flights hf rfl
  have hnone' : committed = none := hnone
  subst hnone'
  obtain hf₀ | ⟨-, fault, -, ha⟩ := ht.committed hf'
  · cases hf.symm.trans hf₀
  obtain ⟨-, -, -, -, htakes⟩ := ask_put_stored hs.valid ha
  refine ⟨rfl, ?_, ?_, ?_, ?_, ?_⟩
  · have hheld := htakes.1
    rw [key_kept, hs.key_of_holds hf .committing] at hheld
    exact hheld
  · intro e' he'
    cases he'
    obtain ⟨out, now, rfl⟩ := hs.rendered hf .committing
    exact generation_entryOf _ _ _ _
  · intro g o' y p hg hover
    -- the flight that commits is the only one under way
    obtain rfl : g = f := (hs.oneFlight.of_transition ht).unique
      (flying_iff.mpr ⟨o', y, p, hg, hover⟩) (flying_of_getElem? hf' rfl)
    cases hf'.symm.trans hg
    exact ⟨rfl, rfl⟩
  · intro c y p' hc hover
    obtain hc₀ | ⟨-, rfl, -⟩ | ⟨p, hc₀, hstep⟩ := ht.call hc
    · exact (h.calls hc₀ hover).commit e
    · trivial
    · exact (h.callFits hs.valid hfresh hc₀ hstep).commit e
  · intro c y found g o' z result hc hg
    exact (h.waits_of_transition hs ht hc hg).commit e

/-! ## What a call returns -/

/-- What is served of what has been read is the entry at the start or the one committed. -/
theorem matches_of_read {found : Option Entry} {e : Entry} {out : Served}
    (hfound : found = start ∨ found = nowHeld σ start committed) (he : found = some e)
    (hout : out.Matches e) :
    (∃ e, start = some e ∧ out.Matches e) ∨ ∃ e, committed = some e ∧ out.Matches e := by
  subst he
  rcases hfound with hstart | hnow
  · exact .inl ⟨e, hstart.symm, hout⟩
  · cases committed with
    | none => exact .inl ⟨e, hnow.symm, hout⟩
    | some e₁ =>
      obtain rfl : e = kept σ e₁ := Option.some.inj hnow
      exact .inr ⟨e₁, rfl, hout.1.trans (body_kept e₁), hout.2.trans (generation_kept e₁)⟩

/-- A call that boards a flight and is finished serves what it has read. -/
theorem matches_of_boarded {fr : Freshness} {found : Option Entry} {f : FlightId} {out : Served}
    (h : Call.boarded fr found f = .finished (.ok out)) : ∃ e, found = some e ∧ out.Matches e := by
  unfold Call.boarded at h
  cases found with
  | none => cases h
  | some e =>
    simp only at h
    split at h
    · cases h
    · cases h
      exact ⟨e, rfl, rfl, rfl⟩

/-- What a waiting call serves is the entry of its flight or what it has read. -/
theorem matches_of_received {found : Option Entry} {result : Except LookupError Entry}
    {out : Served} (h : (receive found result).1 = .ok out) :
    (∃ e, result = .ok e ∧ out.Matches e) ∨ ∃ e, found = some e ∧ out.Matches e := by
  cases found with
  | none =>
    cases result with
    | ok e =>
      cases h
      exact .inl ⟨e, rfl, rfl, rfl⟩
    | error err => cases h
  | some e₀ =>
    cases result with
    | ok e =>
      cases h
      exact .inl ⟨e, rfl, rfl, rfl⟩
    | error err =>
      cases h
      exact .inr ⟨e₀, rfl, rfl, rfl⟩

/-- **Returning.** What a call returns is the entry at the start or the one committed. -/
theorem RenderPhase.returned (h : RenderPhase σ start committed k s st) (hs : Standing s st)
    (ht : Transition s st m s' st') (hfresh : FindsFresh σ committed s k m) {c : TaskId} {x : ρ}
    {p : Call} {out : Served} (hc : s.tasks[c]? = some (.call k x p))
    (hover : (Task.call k x p).isOver = false)
    (hc' : s'.tasks[c]? = some (.call k x (.finished (.ok out)))) :
    (∃ e, start = some e ∧ out.Matches e) ∨ ∃ e, committed = some e ∧ out.Matches e := by
  obtain hsame | ⟨-, hp, -⟩ | ⟨p₀, hc₀, hstep⟩ := ht.call hc'
  · cases hc.symm.trans hsame
    cases hover
  · cases hp
  · cases hc.symm.trans hc₀
    generalize hp' : Call.finished (.ok out) = p' at hstep
    cases hstep with
    | advanced ha =>
      cases ha with
      | callServed _ =>
        cases hp'
        exact matches_of_read (h.calls hc rfl) rfl ⟨rfl, rfl⟩
      | callJoined hn _ =>
        obtain ⟨e, he, hout⟩ := matches_of_boarded hp'.symm
        have hstart := eq_start_of_not_fresh hfresh (.of_call hc _) hn (h.calls hc rfl)
        exact .inl ⟨e, hstart ▸ he, hout⟩
      | @callReceived _ _ found f result _ hr =>
        have hfound : found = start := h.calls hc rfl
        obtain ⟨o, y, q, hf⟩ := hs.awaited hc
        obtain ⟨_, _, _, hf'⟩ := flightResult?_eq_some_iff.mp hr
        cases hf.symm.trans hf'
        have hfits := h.waits hc hf
        rcases matches_of_received (Call.finished.inj hp').symm with ⟨e, rfl, hout⟩ | ⟨e, he, hout⟩
        · obtain ⟨e', he', hbody, hgen⟩ := hfits
          exact .inr ⟨e', he', hout.1.trans hbody, hout.2.trans hgen⟩
        · exact .inl ⟨e, hfound ▸ he, hout⟩
      | callRead _ | callUnread _ | callAbandoned _ => cases hp'
    | led _ hn _ =>
      obtain ⟨e, he, hout⟩ := matches_of_boarded hp'.symm
      have hstart := eq_start_of_not_fresh hfresh (.of_call hc _) hn (h.calls hc rfl)
      exact .inl ⟨e, hstart ▸ he, hout⟩

/-! ## One move of an undisturbed run -/

/-- **One move** keeps the invariant, or a flight of the key commits and leads from the phase before
to the phase after. -/
theorem RenderPhase.of_transition (h : RenderPhase σ start committed k s st) (hs : Standing s st)
    (ht : Transition s st m s' st') (hfresh : FindsFresh σ committed s k m)
    (hstays : held st k ≠ none → held st' k ≠ none) :
    RenderPhase σ start committed k s' st' ∨
      committed = none ∧ ∃ (f : FlightId) (o : Option Generation) (x : ρ) (e : Entry),
        s.tasks[f]? = some (.flight k o x (.committing e)) ∧
        s'.tasks[f]? = some (.flight k o x (.committed e)) ∧
        RenderPhase σ start (some e) k s' st' := by
  by_cases hno : NoCommit s s' k
  · exact .inl (h.keeps hs ht hfresh hstays hno)
  · unfold NoCommit at hno
    push Not at hno
    obtain ⟨f, o, x, e, hf', hf⟩ := hno
    obtain hf₀ | ⟨hf₀, -⟩ := ht.committed hf'
    · exact absurd hf₀ hf
    · obtain ⟨hnone, hphase⟩ := h.commits hs ht hfresh hf₀ hf'
      exact .inr ⟨hnone, f, o, x, e, hf₀, hf', hphase⟩

/-- A flight that is about to store its entry stays so until it has stored it. -/
theorem RenderPhase.writes (h : RenderPhase σ start committed k s st) (hs : Standing s st)
    (ht : Transition s st m s' st') (hfresh : FindsFresh σ committed s k m)
    (hm : m.fails = false) (hnext : Fits σ ((start.map Entry.generation).getD 0 + 1))
    {f : FlightId} {o : Option Generation} {x : ρ} {e : Entry}
    (hf : s.tasks[f]? = some (.flight k o x (.committing e))) :
    s'.tasks[f]? = some (.flight k o x (.committing e)) ∨
      s'.tasks[f]? = some (.flight k o x (.committed e)) := by
  obtain ⟨p', hf', -, -⟩ := (later_of_transition ht).flight hf
  obtain hsame | ⟨rfl, -⟩ | ⟨p, hf₀, hstep⟩ := ht.flight hf'
  · cases hf.symm.trans hsame
    exact .inl hf'
  · exact absurd (List.getElem?_eq_some_iff.mp hf).1 (Nat.lt_irrefl _)
  · cases hf.symm.trans hf₀
    have hfits : (∀ e, p' ≠ .committed e) → FlightFits σ start committed p' :=
      h.flightFits hs hfresh hf hstep
    have hnone : committed = none := (h.flights hf rfl).2
    subst hnone
    cases hstep with
    | stored _ => exact .inr hf'
    | advanced ha =>
      cases ha with
      | putRefused _ =>
        -- what is refused would have to be the entry committed
        obtain ⟨_, he, -⟩ := hfits (fun _ h => by cases h)
        cases he
      | putFailed hask =>
        obtain ⟨-, -, rfl | ⟨hunfit, -⟩⟩ := ask_put_error hs.valid hask
        · cases hm
        · -- the entry has the generation after the one at the start
          obtain ⟨out, now, rfl⟩ := hs.rendered hf .committing
          rw [generation_entryOf, (h.flights hf rfl).1] at hunfit
          exact absurd hnext hunfit

/-! ## Whole runs -/

namespace MoveRun

/-- At the event `i` a render of the key succeeds, that of the flight `f`. -/
structure Succeeds (r : MoveRun ρ σ) (k : Key) (i : Nat) (f : FlightId) (out : RenderOutput) :
    Prop where
  /-- the event is part of the run -/
  lt : i < r.length
  /-- it is the end of the render -/
  ends : ∃ now, r.event i = .render f (.output out) now
  /-- which is one of the key -/
  rendering : ∃ x, (r.state i).1.Rendering f k x

/-- At the event `i` the entry of a flight of the key is written. -/
structure Commits (r : MoveRun ρ σ) (k : Key) (i : Nat) (f : FlightId) (e : Entry) : Prop where
  /-- the event is part of the run -/
  lt : i < r.length
  /-- the entry is still to be written before it and is written after it -/
  writes : ∃ o x, (r.state i).1.tasks[f]? = some (.flight k o x (.committing e)) ∧
    (r.state (i + 1)).1.tasks[f]? = some (.flight k o x (.committed e))

/-- At the event `i` a call of the key returns what it serves. -/
structure Returns (r : MoveRun ρ σ) (k : Key) (i : Nat) (c : TaskId) (out : Served) : Prop where
  /-- the event is part of the run -/
  lt : i < r.length
  /-- the call is under way before it and over after it -/
  returns : ∃ x p, (r.state i).1.tasks[c]? = some (.call k x p) ∧
    (Task.call k x p).isOver = false ∧
    (r.state (i + 1)).1.tasks[c]? = some (.call k x (.finished (.ok out)))

/-- **Undisturbed.** From the position `a` on, at which nobody is busy with the key and there is a
further generation for it, no store call fails, the key does not leave the store, and what is committed
of it is found fresh. -/
structure Undisturbed (r : MoveRun ρ σ) (a : Nat) (k : Key) : Prop where
  /-- the position is part of the run -/
  le : a ≤ r.length
  /-- no call of the key is under way -/
  calls : ∀ ⦃c : TaskId⦄ ⦃x p⦄, (r.state a).1.tasks[c]? = some (.call k x p) →
    (Task.call k x p).isOver = true
  /-- no flight of the key is under way -/
  flights : ∀ ⦃f : FlightId⦄ ⦃o x p⦄, (r.state a).1.tasks[f]? = some (.flight k o x p) →
    (Task.flight k o x p).isOver = true
  /-- the store can keep the generation that comes next -/
  next : Fits σ (((held (r.state a).2).generation k).getD 0 + 1)
  /-- no store call fails -/
  unfailed : ∀ i, a ≤ i → i < r.length → (r.event i).fails = false
  /-- the key does not leave the store -/
  stays : ∀ i, a ≤ i → i < r.length → held (r.state i).2 k ≠ none →
    held (r.state (i + 1)).2 k ≠ none
  /-- who judges what has been committed finds it fresh -/
  fresh : ∀ j f e, a ≤ j → Commits r k j f e → ∀ i, j < i → i < r.length →
    ∀ now, Judges (r.state i).1 k (r.event i) now →
      (r.state i).1.policy.classify (some (kept σ e)) now = .fresh

/-- **Rendered once.** -/
structure RenderedOnce (r : MoveRun ρ σ) (a : Nat) (k : Key) : Prop where
  /-- at most one render of the key succeeds -/
  once : ∀ i j f g out out', a ≤ i → a ≤ j → Succeeds r k i f out → Succeeds r k j g out' →
    i = j ∧ f = g ∧ out = out'
  /-- none is at work after the commit -/
  none_after : ∀ j f e, a ≤ j → Commits r k j f e → ∀ i, j < i → i ≤ r.length → ∀ g x,
    ¬ (r.state i).1.Rendering g k x
  /-- what a call returns is the entry held at first, or that of the one render -/
  returned : ∀ i c out, a ≤ i → Returns r k i c out →
    (∃ e, held (r.state a).2 k = some e ∧ out.Matches e) ∨
      ∃ j f o, a ≤ j ∧ j < i ∧ Succeeds r k j f o ∧ out.body = o.body ∧
        out.generation = ((held (r.state a).2).generation k).getD 0 + 1
  /-- if there was no entry, all calls return the same body, with the first generation -/
  alike : held (r.state a).2 k = none → ∃ body, ∀ i c out, a ≤ i → Returns r k i c out →
    out.body = body ∧ out.generation = 1

variable {r : MoveRun ρ σ} {a i j : Nat} {f g : FlightId} {o : Option Generation} {x : ρ}
  {e : Entry} {out : RenderOutput}

omit [LawfulStore σ] in
/-- A render that succeeds leaves its flight with an entry to be written. -/
theorem Succeeds.committing (h : Succeeds r k i f out) :
    ∃ o x e, (r.state (i + 1)).1.tasks[f]? = some (.flight k o x (.committing e)) := by
  obtain ⟨now, hevent⟩ := h.ends
  obtain ⟨x, o, hf⟩ := h.rendering
  have ht := Transition.of_moved (r.step i h.lt)
  rw [hevent] at ht
  exact ⟨o, x, _, ht.renderSucceeds hf⟩

/-- A commit leads from the phase before to the phase after. -/
theorem Commits.phase (hc : Commits r k j f e) (hs : Standing (r.state j).1 (r.state j).2)
    (h : RenderPhase σ start committed k (r.state j).1 (r.state j).2)
    (hfresh : FindsFresh σ committed (r.state j).1 k (r.event j)) :
    committed = none ∧
      RenderPhase σ start (some e) k (r.state (j + 1)).1 (r.state (j + 1)).2 := by
  obtain ⟨o, x, hf, hf'⟩ := hc.writes
  exact h.commits hs (.of_moved (r.step j hc.lt)) hfresh hf hf'

/-! ### An undisturbed run -/

/-- What is committed has been rendered, by a render that succeeded. -/
theorem Undisturbed.exists_succeeds (h : Undisturbed r a k) (haj : a ≤ j)
    (hc : Commits r k j f e) :
    ∃ i out, a ≤ i ∧ i < j ∧ Succeeds r k i f out ∧ e.body = out.body := by
  have hj := hc.lt
  obtain ⟨o, x, hf, -⟩ := hc.writes
  obtain ⟨i, hai, hij, hn, hf'⟩ := r.exists_change
    (P := fun y => y.1.tasks[f]? = some (.flight k o x (.committing e))) haj
    (fun hf₀ => by cases h.flights hf₀) hf
  obtain hf₀ | ⟨hf₀, out, now, hevent, rfl⟩ :=
    (Transition.of_moved (r.step i (by omega))).committing hf'
  · exact absurd hf₀ hn
  · exact ⟨i, out, hai, hij, ⟨by omega, ⟨now, hevent⟩, x, o, hf₀⟩, rfl⟩

/-- The invariant holds at the position at which nobody is busy with the key. -/
theorem Undisturbed.renderPhase_start (h : Undisturbed r a k) :
    RenderPhase σ (held (r.state a).2 k) none k (r.state a).1 (r.state a).2 where
  holds := rfl
  generation := by
    intro e he
    cases he
  flights := by
    intro f o x p hf hover
    cases hover.symm.trans (h.flights hf)
  calls := by
    intro c x p hc hover
    cases hover.symm.trans (h.calls hc)
  waits := by
    intro c x found f o y result hc _
    cases h.calls hc

/-- Whoever judges what has been committed before finds it fresh. -/
theorem Undisturbed.findsFresh (h : Undisturbed r a k) (hi : i < r.length)
    (hcommit : ∀ e, committed = some e → ∃ j f, a ≤ j ∧ j < i ∧ Commits r k j f e) :
    FindsFresh σ committed (r.state i).1 k (r.event i) := by
  intro e he now hj
  obtain ⟨j, f, haj, hji, hc⟩ := hcommit e he
  exact h.fresh j f e haj hc i hji hi now hj

section

variable (h : Undisturbed r a k) (hs : ∀ i ≤ r.length, Standing (r.state i).1 (r.state i).2)

include h hs

/-- **Throughout.** The invariant holds all along, and what it takes for committed has been
committed. -/
theorem Undisturbed.renderPhase :
    ∀ i, a ≤ i → i ≤ r.length → ∃ committed,
      RenderPhase σ (held (r.state a).2 k) committed k (r.state i).1 (r.state i).2 ∧
        ∀ e, committed = some e → ∃ j f, a ≤ j ∧ j < i ∧ Commits r k j f e := by
  intro i hai
  induction i, hai using Nat.le_induction with
  | base =>
    intro _
    exact ⟨none, h.renderPhase_start, fun e he => by cases he⟩
  | succ i hai ih =>
    intro hi
    obtain ⟨committed, hphase, hcommit⟩ := ih (by omega)
    have ht := Transition.of_moved (r.step i hi)
    have hfresh := h.findsFresh hi hcommit
    obtain hphase' | ⟨-, f, o, x, e, hf, hf', hphase'⟩ :=
      hphase.of_transition (hs i (by omega)) ht hfresh (h.stays i hai hi)
    · refine ⟨committed, hphase', fun e he => ?_⟩
      obtain ⟨j, f, haj, hji, hc⟩ := hcommit e he
      exact ⟨j, f, haj, by omega, hc⟩
    · refine ⟨some e, hphase', fun e' he => ?_⟩
      obtain rfl := Option.some.inj he
      exact ⟨i, f, hai, Nat.lt_succ_self i, hi, o, x, hf, hf'⟩

/-- **After a commit** it is the phase after it for good. -/
theorem Undisturbed.renderPhase_after (haj : a ≤ j) (hc : Commits r k j f e) :
    ∀ i, j < i → i ≤ r.length →
      RenderPhase σ (held (r.state a).2 k) (some e) k (r.state i).1 (r.state i).2 := by
  have hj := hc.lt
  refine r.stays (P := fun y => RenderPhase σ (held (r.state a).2 k) (some e) k y.1 y.2) ?_ ?_
  · obtain ⟨committed, hphase, hcommit⟩ := h.renderPhase hs j haj (by omega)
    exact (hc.phase (hs j (by omega)) hphase (h.findsFresh hj hcommit)).2
  · intro i hji hi hphase
    have hfresh : FindsFresh σ (some e) (r.state i).1 k (r.event i) := by
      refine h.findsFresh hi fun e' he => ?_
      obtain rfl := Option.some.inj he
      exact ⟨j, f, haj, hji, hc⟩
    -- a second commit would have to find nothing committed
    obtain hphase' | ⟨hnone, -⟩ :=
      hphase.of_transition (hs i (by omega)) (.of_moved (r.step i hi)) hfresh
        (h.stays i (by omega) hi)
    · exact hphase'
    · cases hnone

/-- **No render after a commit.** -/
theorem Undisturbed.not_rendering (haj : a ≤ j) (hc : Commits r k j f e) (hji : j < i)
    (hi : i ≤ r.length) (g : FlightId) (x : ρ) : ¬ (r.state i).1.Rendering g k x := by
  rintro ⟨o, hg⟩
  have hfits := ((h.renderPhase_after hs haj hc i hji hi).flights hg rfl).2
  cases (show some e = none from hfits)

/-- What a flight is about to write is still to be written or has been committed. -/
theorem Undisturbed.committing_or_commits {n : Nat} (han : a ≤ n)
    (hn : (r.state n).1.tasks[f]? = some (.flight k o x (.committing e))) :
    ∀ i, n ≤ i → i ≤ r.length →
      (r.state i).1.tasks[f]? = some (.flight k o x (.committing e)) ∨
        ∃ j, n ≤ j ∧ j < i ∧ Commits r k j f e := by
  intro i hni
  induction i, hni using Nat.le_induction with
  | base => exact fun _ => .inl hn
  | succ i hni ih =>
    intro hi
    rcases ih (by omega) with hf | ⟨j, hnj, hji, hc⟩
    · obtain ⟨committed, hphase, hcommit⟩ := h.renderPhase hs i (by omega) (by omega)
      have hfresh := h.findsFresh hi hcommit
      rcases hphase.writes (hs i (by omega)) (.of_moved (r.step i hi)) hfresh
        (h.unfailed i (by omega) hi) h.next hf with hf' | hf'
      · exact .inl hf'
      · exact .inr ⟨i, hni, Nat.lt_succ_self i, hi, o, x, hf, hf'⟩
    · exact .inr ⟨j, hnj, by omega, hc⟩

/-- A render that has succeeded is followed by no other success. -/
theorem Undisturbed.not_succeeds_later {out' : RenderOutput} (hai : a ≤ i) (hij : i < j)
    (hi : Succeeds r k i f out) : ¬ Succeeds r k j g out' := by
  intro hj
  have hlt := hj.lt
  obtain ⟨y, hg⟩ := hj.rendering
  obtain ⟨o, x, e, hf⟩ := hi.committing
  rcases h.committing_or_commits hs (by omega) hf j hij (by omega) with hf' | ⟨n, hn, hnj, hc⟩
  · -- both flights are under way, so they are one, which is in two phases
    obtain rfl : g = f := (hs j (by omega)).oneFlight.unique hg.flying (flying_of_getElem? hf' rfl)
    obtain ⟨o', hg⟩ := hg
    cases hf'.symm.trans hg
  · exact h.not_rendering hs (by omega) hc hnj (by omega) g y hg

/-- What a call returns is the entry held at first, or that of a render that has succeeded. -/
theorem Undisturbed.returned {c : TaskId} {out : Served} (hai : a ≤ i) (hr : Returns r k i c out) :
    (∃ e, held (r.state a).2 k = some e ∧ out.Matches e) ∨
      ∃ j f o, a ≤ j ∧ j < i ∧ Succeeds r k j f o ∧ out.body = o.body ∧
        out.generation = ((held (r.state a).2).generation k).getD 0 + 1 := by
  have hi := hr.lt
  obtain ⟨x, p, hc, hover, hc'⟩ := hr.returns
  obtain ⟨committed, hphase, hcommit⟩ := h.renderPhase hs i hai (by omega)
  rcases hphase.returned (hs i (by omega)) (.of_moved (r.step i hi)) (h.findsFresh hi hcommit)
    hc hover hc' with hstart | ⟨e, he, hbody, hgen⟩
  · exact .inl hstart
  · obtain ⟨j, f, haj, hji, hcommits⟩ := hcommit e he
    obtain ⟨n, o, han, hnj, hsucceeds, hout⟩ := h.exists_succeeds haj hcommits
    exact .inr ⟨n, f, o, han, by omega, hsucceeds, hbody.trans hout,
      hgen.trans (hphase.generation e he)⟩

/-- At most one render succeeds. -/
theorem Undisturbed.succeeds_unique {out' : RenderOutput} (hai : a ≤ i) (haj : a ≤ j)
    (hi : Succeeds r k i f out) (hj : Succeeds r k j g out') : i = j ∧ f = g ∧ out = out' := by
  rcases Nat.lt_trichotomy i j with hlt | rfl | hlt
  · exact absurd hj (h.not_succeeds_later hs hai hlt hi)
  · obtain ⟨now, hevent⟩ := hi.ends
    obtain ⟨now', hevent'⟩ := hj.ends
    cases hevent.symm.trans hevent'
    exact ⟨rfl, rfl, rfl⟩
  · exact absurd hi (h.not_succeeds_later hs haj hlt hj)

/-- If there was no entry, all calls return the same body, with the first generation. -/
theorem Undisturbed.alike (hnone : held (r.state a).2 k = none) :
    ∃ body, ∀ i c out, a ≤ i → Returns r k i c out → out.body = body ∧ out.generation = 1 := by
  have hreturned : ∀ i c out, a ≤ i → Returns r k i c out →
      ∃ j f o, a ≤ j ∧ Succeeds r k j f o ∧ out.body = o.body ∧ out.generation = 1 := by
    intro i c out hai hr
    rcases h.returned hs hai hr with ⟨e, he, -⟩ | ⟨j, f, o, haj, -, hj, hbody, hgen⟩
    · cases hnone.symm.trans he
    · rw [Contents.generation, hnone] at hgen
      exact ⟨j, f, o, haj, hj, hbody, hgen⟩
  by_cases hsome : ∃ j f o, a ≤ j ∧ Succeeds r k j f o
  · obtain ⟨j, f, o, haj, hj⟩ := hsome
    refine ⟨o.body, fun i c out hai hr => ?_⟩
    obtain ⟨j', f', o', haj', hj', hbody, hgen⟩ := hreturned i c out hai hr
    obtain ⟨-, -, rfl⟩ := h.succeeds_unique hs haj haj' hj hj'
    exact ⟨hbody, hgen⟩
  · -- without a render nothing is returned
    refine ⟨ByteArray.empty, fun i c out hai hr => ?_⟩
    obtain ⟨j, f, o, haj, hj, -⟩ := hreturned i c out hai hr
    exact absurd ⟨j, f, o, haj, hj⟩ hsome

end

/-- **Rendered once.** While a key is undisturbed and what is committed of it is found fresh, at
most one of its renders succeeds, and calls serve that render or what was held before. -/
theorem rendered_once (r : MoveRun ρ σ) (policy : Policy) (renderTimeout : Duration)
    (h₀ : (r.state 0).1 = new policy renderTimeout) (hv : Valid (r.state 0).2)
    (h : Undisturbed r a k) : RenderedOnce r a k := by
  have hs := r.standing h₀ hv
  refine ⟨?_, ?_, ?_, h.alike hs⟩
  · intro i j f g out out' hai haj hi hj
    exact h.succeeds_unique hs hai haj hi hj
  · intro j f e haj hc i hji hi
    exact h.not_rendering hs haj hc hji hi
  · intro i c out hai hr
    exact h.returned hs hai hr

/-- A static page. -/
def homePage : RenderOutput := .ofBody "home".toUTF8

/-- Whether an entry that the task is about to write is always fresh. -/
def writesStatic : Task Nat → Bool
  | .flight _ _ _ (.committing e) => e.revalidate = .never
  | _ => true

/-- Three lookups find the key absent. The render of the first is not done in time, that of the
third succeeds; only then does the second get to its dispatch, with what it read at the
beginning. -/
def lateDispatch : List (Move Nat) :=
  [.lookup ⟨"home"⟩ 1, .lookup ⟨"home"⟩ 2,
    .storeCall 0 (.get ⟨"home"⟩) none, .storeCall 1 (.get ⟨"home"⟩) none, .proceed 0 .epoch,
    .storeCall 2 (.get ⟨"home"⟩) none, .proceed 2 .epoch, .render 2 .timedOut .epoch,
    .proceed 2 .epoch, .proceed 0 .epoch,
    .lookup ⟨"home"⟩ 3, .storeCall 3 (.get ⟨"home"⟩) none, .proceed 3 .epoch,
    .storeCall 4 (.get ⟨"home"⟩) none, .proceed 4 .epoch, .render 4 (.output homePage) .epoch,
    .storeCall 4 (.put (entryOf ⟨"home"⟩ none homePage .epoch) none) none,
    .proceed 4 .epoch, .proceed 4 .epoch, .proceed 3 .epoch,
    .proceed 1 .epoch, .storeCall 5 (.get ⟨"home"⟩) none, .proceed 5 .epoch, .proceed 5 .epoch,
    .proceed 1 .epoch]

/-- The run of these moves over an empty store. -/
def lateDispatchRun : MoveRun Nat MemoryStore :=
  .ofList (new ⟨none⟩ (.ofSecs 5), .unbounded) lateDispatch rfl

theorem rendered_once_dispatched_late :
    Undisturbed lateDispatchRun 0 ⟨"home"⟩ ∧ RenderedOnce lateDispatchRun 0 ⟨"home"⟩ ∧
      Returns lateDispatchRun ⟨"home"⟩ 24 1
        (.ofEntry (entryOf ⟨"home"⟩ none homePage .epoch) .miss) := by
  have hunfailed : ∀ i < 25, (lateDispatchRun.event i).fails = false := by decide +kernel
  have hstays : ∀ i < 25, held (lateDispatchRun.state i).2 ⟨"home"⟩ ≠ none →
      held (lateDispatchRun.state (i + 1)).2 ⟨"home"⟩ ≠ none := by decide +kernel
  have hstatic : ∀ i < 25, (lateDispatchRun.state i).1.tasks.all writesStatic = true := by
    decide +kernel
  have h : Undisturbed lateDispatchRun 0 ⟨"home"⟩ := by
    refine ⟨Nat.zero_le _, ?_, ?_, trivial, fun i _ hi => hunfailed i hi,
      fun i _ hi => hstays i hi, ?_⟩
    · intro c x p hc
      cases hc
    · intro f o x p hf
      cases hf
    · intro j f e _ hcommits i _ _ now _
      obtain ⟨o, x, hf, -⟩ := hcommits.writes
      have hwrites := List.all_eq_true.mp (hstatic j hcommits.lt) _ (List.mem_of_getElem? hf)
      have hnever : e.revalidate = .never := of_decide_eq_true hwrites
      show (lateDispatchRun.state i).1.policy.classify (some e) now = .fresh
      simp only [Policy.classify, hnever]
  exact ⟨h, rendered_once lateDispatchRun ⟨none⟩ (.ofSecs 5) rfl MemoryStore.distinct_unbounded h,
    by decide, 2, _, rfl, rfl, rfl⟩

end MoveRun

end Scheduler

end PageCache
