import PageCache.Proofs.Scheduler.StaticEntry

/-!
# What is served after an invalidation

After a key has been invalidated, what is served of it has been rendered since. A flight that was
started for an entry cannot bring its output in any more, and all other flights render anew. But
such a flight is still on record until it is over, and a call that finds the key absent joins it:
that call receives what the flight has read or rendered from before.

* `Renewed` — the invariant from the deletion of the key on;
* `served_anew` — every call that begins after the invalidation is served what has been rendered
  since, unless it has joined a flight that was under way when the key was deleted;
* `served_old` — a call that has joined such a flight is served what was rendered before.
-/

namespace PageCache

open LawfulStore

/-- Whether the task is a removal of the key that has deleted it. -/
def Task.hasRemoved {ρ : Type} (k : Key) : Task ρ → Bool
  | removal j (.answered _ (.ok _)) | removal j (.finished (.ok _)) => j = k
  | _ => false

/-- The flight has stored the entry. -/
inductive Flight.HasStored (e : Entry) : Flight → Prop where
  /-- its tags are still to be linked -/
  | committed : Flight.HasStored e (.committed e)
  /-- it is still to end -/
  | ending : Flight.HasStored e (.ending (.ok e))
  /-- it is over -/
  | finished : Flight.HasStored e (.finished (.ok e))

namespace Scheduler

variable {ρ σ : Type} [Store σ] {s s' : Scheduler ρ} {st st' : σ} {m : Move ρ}

/-- A removal that has deleted its key had done so before, or the store has just said so. -/
theorem Transition.hasRemoved {i : TaskId} {u : Task ρ} {k : Key} (h : Transition s st m s' st')
    (hu : s'.tasks[i]? = some u) (hr : u.hasRemoved k = true) :
    (∃ u₀, s.tasks[i]? = some u₀ ∧ u₀.hasRemoved k = true) ∨
      ∃ fault removed, m = .storeCall i (.delete k) fault ∧
        ask fault st (Store.delete · k) = (.ok removed, st') := by
  cases h with
  | opened ho =>
    obtain ⟨-, rfl⟩ | hu := of_getElem?_spawn hu
    · cases ho <;> cases hr
    · exact .inl ⟨u, hu, hr⟩
  | forgotten _ | detached _ =>
    obtain ⟨-, rfl⟩ | hu := of_getElem?_spawn hu
    · cases hr
    · exact .inl ⟨u, hu, hr⟩
  | @advanced _ _ _ _ metrics _ hid ha =>
    obtain ⟨rfl, rfl⟩ | hu := of_getElem?_setTask (s := { s with metrics }) hid hu
    · cases ha with
      | removalEnded => exact .inl ⟨_, hid, hr⟩
      | _ => cases hr
    · exact .inl ⟨u, hu, hr⟩
  | led hid _ _ =>
    obtain ⟨-, rfl⟩ | ⟨-, rfl⟩ | hu := of_getElem?_setTask_spawn hid hu
    · cases hr
    · cases hr
    · exact .inl ⟨u, hu, hr⟩
  | removed hid ha =>
    obtain ⟨rfl, rfl⟩ | hu := of_getElem?_setTask hid hu
    · obtain rfl : _ = k := by simpa [Task.hasRemoved] using hr
      exact .inr ⟨_, _, rfl, ha⟩
    · exact .inl ⟨u, hu, hr⟩
  | ended hid | stored hid _ | linked hid | relinked hid | purged hid _ _ | restored hid
  | dropped hid | rebuilt hid =>
    obtain ⟨-, rfl⟩ | hu := of_getElem?_setTask hid hu
    · cases hr
    · exact .inl ⟨u, hu, hr⟩

/-- What a flight has stored it has stored. -/
theorem Transition.hasStored {f : FlightId} {k : Key} {o : Option Generation} {x : ρ} {p : Flight}
    {e : Entry} (h : Transition s st m s' st') (hf : s.tasks[f]? = some (.flight k o x p))
    (hp : p.HasStored e) : ∃ p', s'.tasks[f]? = some (.flight k o x p') ∧ p'.HasStored e := by
  obtain ⟨p', hf', -, -⟩ := (later_of_transition h).flight hf
  refine ⟨p', hf', ?_⟩
  obtain hf₀ | ⟨rfl, -⟩ | ⟨p₀, hf₀, hstep⟩ := h.flight hf'
  · cases hf.symm.trans hf₀
    exact hp
  · exact absurd (List.getElem?_eq_some_iff.mp hf).1 (Nat.lt_irrefl _)
  · cases hf.symm.trans hf₀
    cases hp with
    | committed =>
      cases hstep with
      | advanced ha => cases ha
      | linked => exact .ending
    | ending =>
      cases hstep with
      | advanced ha => cases ha
      | ended => exact .finished
    | finished => cases hstep.not_over

namespace MoveRun

/-! ## What a run says of an invalidation -/

/-- At the event `b` the task deletes the key, and the store says whether it was there. -/
def Deletes (r : MoveRun ρ σ) (b : Nat) (id : TaskId) (k : Key) (removed : Bool) : Prop :=
  ∃ fault, r.event b = .storeCall id (.delete k) fault ∧
    ask fault (r.state b).2 (Store.delete · k) = (.ok removed, (r.state (b + 1)).2)

/-- **Invalidated.** An invalidation begins at the event `a` and has ended well at the position `n`:
one of the key, or one of a tag that has removed the key. -/
structure Invalidated (r : MoveRun ρ σ) (k : Key) (a n : Nat) : Prop where
  /-- it begins first -/
  lt : a < n
  /-- it ends within the run -/
  le : n ≤ r.length
  /-- it has ended well -/
  returned :
    (r.event a = .invalidateKey k ∧ ∃ removed,
      (r.state n).1.tasks[(r.state a).1.tasks.length]? =
        some (.removal k (.finished (.ok removed)))) ∨
    (∃ t b purged, r.event a = .invalidateTag t ∧ a < b ∧ b < n ∧
      r.Deletes b (r.state a).1.tasks.length k true ∧
      (r.state n).1.tasks[(r.state a).1.tasks.length]? = some (.purge (.finished (.ok purged))))

/-- A body and a generation come from a render of the key that was not at work at the position `a`
and has given its output between there and the position `i`. -/
def RenderedSince (r : MoveRun ρ σ) (a i : Nat) (k : Key) (body : ByteArray) (g : Generation) :
    Prop :=
  ∃ j f o x out now, a ≤ j ∧ j < i ∧ r.event j = .render f (.output out) now ∧
    (r.state j).1.tasks[f]? = some (.flight k o x .rendering) ∧
    (∀ y, ¬ (r.state a).1.Rendering f k y) ∧ body = out.body ∧
    g = (entryOf k o out now).generation

/-- The call has found the key absent and waited for a flight that was under way at the position
`p`. -/
def JoinedPending (r : MoveRun ρ σ) (p i : Nat) (k : Key) (c : TaskId) : Prop :=
  ∃ j f x, j ≤ i ∧ (r.state p).1.Flying k f ∧
    (r.state j).1.tasks[c]? = some (.call k x (.waiting none f))

variable {r : MoveRun ρ σ} {a b p i j n : Nat} {k : Key}

theorem RenderedSince.mono {body : ByteArray} {g : Generation} (h : r.RenderedSince a i k body g)
    (hij : i ≤ j) : r.RenderedSince a j k body g := by
  obtain ⟨l, f, o, x, out, now, hal, hli, h⟩ := h
  exact ⟨l, f, o, x, out, now, hal, by omega, h⟩

theorem JoinedPending.mono {c : TaskId} (h : r.JoinedPending p i k c) (hij : i ≤ j) :
    r.JoinedPending p j k c := by
  obtain ⟨l, f, x, hl, h⟩ := h
  exact ⟨l, f, x, by omega, h⟩

/-- A task that is not there yet was not there before. -/
theorem absent_before {c : TaskId} (hij : i ≤ j) (hj : j ≤ r.length)
    (hc : (r.state j).1.tasks[c]? = none) : (r.state i).1.tasks[c]? = none := by
  cases ht : (r.state i).1.tasks[c]? with
  | none => rfl
  | some t =>
    obtain ⟨t', ht', -⟩ := r.later hij hj c t ht
    cases hc.symm.trans ht'

/-- An invalidation that has ended well has deleted the key. -/
theorem Invalidated.exists_deletes (h : Invalidated r k a n) :
    ∃ b removed, a < b ∧ b < n ∧ r.Deletes b (r.state a).1.tasks.length k removed := by
  have hlt := h.lt
  have hle := h.le
  rcases h.returned with ⟨hevent, removed, hn⟩ | ⟨t, b, purged, -, hab, hbn, hb, -⟩
  · have hbegun : (r.state (a + 1)).1.tasks[(r.state a).1.tasks.length]? =
        some (.removal k (.deleting ((r.state a).1.index.tagsForKey k))) := by
      have ht := Transition.of_moved (r.step a (by omega))
      rw [hevent] at ht
      generalize (r.state (a + 1)).1 = s', (r.state (a + 1)).2 = st' at ht
      cases ht with
      | opened ho => cases ho
      | forgotten _ =>
        exact (getElem?_spawn { (r.state a).1 with index := _ } _ _).trans (if_pos rfl)
      | advanced _ ha => cases ha
    obtain ⟨b, hab, hbn, hbefore, u, hu, hr⟩ := r.exists_change
      (P := fun y => ∃ u, y.1.tasks[(r.state a).1.tasks.length]? = some u ∧ u.hasRemoved k = true)
      hlt (by rintro ⟨u, hu, hr⟩; cases hbegun.symm.trans hu; cases hr)
      ⟨_, hn, by simp [Task.hasRemoved]⟩
    obtain hsame | ⟨fault, removed, hm, hask⟩ :=
      (Transition.of_moved (r.step b (by omega))).hasRemoved hu hr
    · exact absurd hsame hbefore
    · exact ⟨b, removed, hab, hbn, fault, hm, hask⟩
  · exact ⟨b, true, hab, hbn, hb⟩

/-- A flight that is under way later on was under way, or has come since. -/
theorem absent_or_flying {f : FlightId} (hij : i ≤ j) (hj : j ≤ r.length)
    (hf : (r.state j).1.Flying k f) :
    (r.state i).1.tasks[f]? = none ∨ (r.state i).1.Flying k f := by
  obtain ⟨o, x, ph, hf, hover⟩ := flying_iff.mp hf
  cases ht : (r.state i).1.tasks[f]? with
  | none => exact .inl rfl
  | some t =>
    refine .inr ?_
    obtain ⟨t', ht', hlater⟩ := r.later hij hj f t ht
    cases ht'.symm.trans hf
    cases hlater with
    | @flight _ _ _ ph₀ _ _ hfin =>
      refine flying_iff.mpr ⟨o, x, ph₀, ht, ?_⟩
      cases ph₀ with
      | finished result =>
        rw [hfin result rfl] at hover
        cases hover
      | _ => rfl
    | upkeep _ hu => cases hu

/-- A flight that is under way at two positions is under way in between. -/
theorem flying_between {f : FlightId} (hpi : p ≤ i) (hij : i ≤ j) (hj : j ≤ r.length)
    (hp : (r.state p).1.Flying k f) (hf : (r.state j).1.Flying k f) : (r.state i).1.Flying k f := by
  rcases absent_or_flying hij hj hf with hnone | hi
  · have hnone' := absent_before hpi (by omega) hnone
    obtain ⟨o, x, ph, ht, -⟩ := flying_iff.mp hp
    cases hnone'.symm.trans ht
  · exact hi

/-- What a render gives that was not at work at the position `a` is rendered since. -/
theorem renderedSince_of_render {f : FlightId} {o : Option Generation} {x : ρ} {out : RenderOutput}
    {now : Instant} (hai : a ≤ i) (hm : r.event i = .render f (.output out) now)
    (hf : (r.state i).1.tasks[f]? = some (.flight k o x .rendering))
    (hidle : ∀ y, ¬ (r.state a).1.Rendering f k y) :
    r.RenderedSince a (i + 1) k (entryOf k o out now).body (entryOf k o out now).generation :=
  ⟨i, f, o, x, out, now, hai, Nat.lt_succ_self i, hm, hf, hidle, rfl, rfl⟩

/-- All flights of the key that are under way at the position `a` were started for an entry. -/
def ObservedSome (r : MoveRun ρ σ) (a : Nat) (k : Key) : Prop :=
  ∀ ⦃f : FlightId⦄ ⦃o x ph⦄, (r.state a).1.tasks[f]? = some (.flight k o x ph) →
    (Task.flight k o x ph).isOver = false → o ≠ none

/-- A flight that is about to write was started for an entry, or has rendered since. -/
theorem committing_since (hpending : r.ObservedSome a k) (hai : a ≤ i) :
    i ≤ r.length → ∀ ⦃f : FlightId⦄ ⦃o x e⦄,
      (r.state i).1.tasks[f]? = some (.flight k o x (.committing e)) →
      o ≠ none ∨ r.RenderedSince a i k e.body e.generation := by
  induction i, hai using Nat.le_induction with
  | base =>
    intro _ f o x e hf
    exact .inl (hpending hf rfl)
  | succ i hai ih =>
    intro hi f o x e hf
    obtain hf₀ | ⟨hf₀, out, now, hm, rfl⟩ :=
      (Transition.of_moved (r.step i (by omega))).committing hf
    · rcases ih (by omega) hf₀ with ho | hsince
      · exact .inl ho
      · exact .inr (hsince.mono (Nat.le_succ i))
    · by_cases hbusy : ∃ y, (r.state a).1.Rendering f k y
      · -- the render was at work before, so its flight was under way
        obtain ⟨y, o', ha⟩ := hbusy
        obtain ⟨ph, hf', -, -⟩ := (r.later hai (by omega)).flight ha
        cases hf'.symm.trans hf₀
        exact .inl (hpending ha rfl)
      · exact .inr (renderedSince_of_render hai hm hf₀ fun y hy => hbusy ⟨y, hy⟩)

/-! ## The invariant -/

/-- The flight has stored an entry that has been rendered since. -/
def CameBack (r : MoveRun ρ σ) (a i : Nat) (k : Key) (f : FlightId) : Prop :=
  ∃ o x ph e, (r.state i).1.tasks[f]? = some (.flight k o x ph) ∧ ph.HasStored e ∧
    r.RenderedSince a i k e.body e.generation

theorem CameBack.succ {f : FlightId} (h : r.CameBack a i k f) (hi : i < r.length) :
    r.CameBack a (i + 1) k f := by
  obtain ⟨o, x, ph, e, hf, hph, hsince⟩ := h
  obtain ⟨ph', hf', hph'⟩ := (Transition.of_moved (r.step i hi)).hasStored hf hph
  exact ⟨o, x, ph', e, hf', hph', hsince.mono (Nat.le_succ i)⟩

variable [LawfulStore σ]

/-- **Renewed.** What is held of the key, and what its flights and calls have of it that have come
since the position `p`, has been rendered since the position `a`. -/
structure Renewed (r : MoveRun ρ σ) (a p : Nat) (k : Key) (i : Nat) : Prop where
  /-- what is held has been rendered since -/
  holds : ∀ ⦃e⦄, held (r.state i).2 k = some e → r.RenderedSince a i k e.body e.generation
  /-- what a new flight has in hand has been rendered since -/
  flights : ∀ ⦃f : FlightId⦄ ⦃o x ph e⦄, (r.state p).1.tasks[f]? = none →
    (r.state i).1.tasks[f]? = some (.flight k o x ph) → ph.inHand? = some e →
    r.RenderedSince a i k e.body e.generation
  /-- while an old flight is under way the key is absent, or that flight has brought it back -/
  pending : ∀ ⦃f⦄, (r.state p).1.Flying k f → (r.state i).1.Flying k f →
    held (r.state i).2 k = none ∨ r.CameBack a i k f
  /-- so what a new call has read has been rendered since -/
  reads : ∀ ⦃c : TaskId⦄ ⦃x e⦄, (r.state p).1.tasks[c]? = none →
    (r.state i).1.tasks[c]? = some (.call k x (.read (some e))) →
    r.RenderedSince a i k e.body e.generation ∧
      ∀ f, (r.state p).1.Flying k f → (r.state i).1.Flying k f → r.CameBack a i k f
  /-- and if it waits for an old flight with an entry in hand, that flight has brought it back -/
  waits : ∀ ⦃c : TaskId⦄ ⦃x found f⦄, (r.state p).1.tasks[c]? = none →
    (r.state i).1.tasks[c]? = some (.call k x (.waiting found f)) →
    ((r.state p).1.tasks[f]? = none ∨ (r.state p).1.Flying k f) ∧
      ∀ e, found = some e → r.RenderedSince a i k e.body e.generation ∧
        ((r.state p).1.Flying k f → r.CameBack a i k f)
  /-- what a new call is served has been rendered since, unless it has joined an old flight -/
  results : ∀ ⦃c : TaskId⦄ ⦃x out⦄, (r.state p).1.tasks[c]? = none →
    (r.state i).1.tasks[c]? = some (.call k x (.finished (.ok out))) →
    r.RenderedSince a i k out.body out.generation ∨ r.JoinedPending p i k c

/-- When the key has just been deleted there is nothing of it. -/
theorem renewed_of_absent (h : held (r.state p).2 k = none) : Renewed r a p k p where
  holds e he := by cases h.symm.trans he
  flights f o x ph e hn hf := by cases hn.symm.trans hf
  pending f _ _ := .inl h
  reads c x e hn hc := by cases hn.symm.trans hc
  waits c x found f hn hc := by cases hn.symm.trans hc
  results c x out hn hc := by cases hn.symm.trans hc

/-- The situation: an invalidation begins at the position `a` and has deleted the key at `p`. -/
structure Setting (r : MoveRun ρ σ) (a p : Nat) (k : Key) : Prop where
  /-- the invalidation begins first -/
  le : a ≤ p
  /-- what always holds holds along the run -/
  standing : ∀ i ≤ r.length, Standing (r.state i).1 (r.state i).2
  /-- the flights under way when it begins were started for an entry -/
  observed : r.ObservedSome a k

/-- An entry that a flight stores has been rendered since. -/
theorem Renewed.stored (h : Renewed r a p k i) (hset : Setting r a p k) (hpi : p ≤ i)
    (hi : i < r.length) {f : FlightId} {o : Option Generation} {x : ρ} {e : Entry}
    (hf : (r.state i).1.tasks[f]? = some (.flight k o x (.committing e)))
    (hg : (held (r.state i).2).generation k = o) : r.RenderedSince a i k e.body e.generation := by
  have hfly : (r.state i).1.Flying k f := flying_of_getElem? hf rfl
  rcases absent_or_flying hpi (by omega) hfly with hnew | hold
  · exact h.flights hnew hf rfl
  · rcases h.pending hold hfly with habsent | ⟨o', x', ph, e', hf', hph, -⟩
    · -- an old flight finds the key absent, and so it has rendered since
      rw [Contents.generation, habsent] at hg
      subst hg
      have hai := Nat.le_trans hset.le hpi
      rcases committing_since hset.observed hai (by omega) hf with ho | hsince
      · exact absurd rfl ho
      · exact hsince
    · cases hf.symm.trans hf'
      cases hph

theorem Renewed.holds_succ (h : Renewed r a p k i) (hset : Setting r a p k) (hpi : p ≤ i)
    (hi : i < r.length) ⦃e : Entry⦄ (he : held (r.state (i + 1)).2 k = some e) :
    r.RenderedSince a (i + 1) k e.body e.generation := by
  obtain he₀ | ⟨f, o, x, e', hf, hg, -, rfl⟩ :=
    (Transition.of_moved (r.step i hi)).held_or_stored (hset.standing i (by omega)) he
  · exact (h.holds he₀).mono (Nat.le_succ i)
  · rw [body_kept, generation_kept]
    exact (h.stored hset hpi hi hf hg).mono (Nat.le_succ i)

theorem Renewed.flights_succ (h : Renewed r a p k i) (hset : Setting r a p k) (hpi : p ≤ i)
    (hi : i < r.length) ⦃f : FlightId⦄ ⦃o : Option Generation⦄ ⦃x : ρ⦄ ⦃ph : Flight⦄ ⦃e : Entry⦄
    (hn : (r.state p).1.tasks[f]? = none)
    (hf : (r.state (i + 1)).1.tasks[f]? = some (.flight k o x ph)) (he : ph.inHand? = some e) :
    r.RenderedSince a (i + 1) k e.body e.generation := by
  obtain ⟨ph₀, hf₀, he₀⟩ | ⟨-, fault, -, hask⟩ | ⟨hf₀, out, now, hm, rfl⟩ :=
    (Transition.of_moved (r.step i hi)).inHand hf he
  · exact (h.flights hn hf₀ he₀).mono (Nat.le_succ i)
  · have hheld := ask_get_ok (hset.standing i (by omega)).valid hask
    exact (h.holds hheld.symm).mono (Nat.le_succ i)
  · refine renderedSince_of_render (Nat.le_trans hset.le hpi) hm hf₀ ?_
    rintro y ⟨o', ha⟩
    cases (absent_before hset.le (by omega) hn).symm.trans ha

theorem Renewed.pending_succ (h : Renewed r a p k i) (hset : Setting r a p k) (hpi : p ≤ i)
    (hi : i < r.length) ⦃f : FlightId⦄ (hp : (r.state p).1.Flying k f)
    (hf : (r.state (i + 1)).1.Flying k f) :
    held (r.state (i + 1)).2 k = none ∨ r.CameBack a (i + 1) k f := by
  have hfi := flying_between hpi (Nat.le_succ i) (by omega) hp hf
  rcases h.pending hp hfi with habsent | hback
  · cases he : held (r.state (i + 1)).2 k with
    | none => exact .inl rfl
    | some e =>
      refine .inr ?_
      obtain he₀ | ⟨g, o, x, e', hg, hgen, hg', rfl⟩ :=
        (Transition.of_moved (r.step i hi)).held_or_stored (hset.standing i (by omega)) he
      · cases habsent.symm.trans he₀
      · -- the flight that stores the key is the one under way
        obtain rfl := (hset.standing i (by omega)).oneFlight.unique hfi (flying_of_getElem? hg rfl)
        exact ⟨o, x, _, e', hg', .committed,
          (h.stored hset hpi hi hg hgen).mono (Nat.le_succ i)⟩
  · exact .inr (hback.succ hi)

theorem Renewed.reads_succ (h : Renewed r a p k i) (hset : Setting r a p k) (hpi : p ≤ i)
    (hi : i < r.length) ⦃c : TaskId⦄ ⦃x : ρ⦄ ⦃e : Entry⦄ (hn : (r.state p).1.tasks[c]? = none)
    (hc : (r.state (i + 1)).1.tasks[c]? = some (.call k x (.read (some e)))) :
    r.RenderedSince a (i + 1) k e.body e.generation ∧
      ∀ f, (r.state p).1.Flying k f → (r.state (i + 1)).1.Flying k f →
        r.CameBack a (i + 1) k f := by
  have hbetween {f : FlightId} (hp : (r.state p).1.Flying k f)
      (hf : (r.state (i + 1)).1.Flying k f) : (r.state i).1.Flying k f :=
    flying_between hpi (Nat.le_succ i) (by omega) hp hf
  obtain hc₀ | ⟨-, fault, -, hask⟩ := (Transition.of_moved (r.step i hi)).nowRead hc
  · obtain ⟨hsince, hback⟩ := h.reads hn hc₀
    refine ⟨hsince.mono (Nat.le_succ i), fun f hp hf => ?_⟩
    exact (hback f hp (hbetween hp hf)).succ hi
  · have hheld := ask_get_ok (hset.standing i (by omega)).valid hask
    refine ⟨(h.holds hheld.symm).mono (Nat.le_succ i), fun f hp hf => ?_⟩
    rcases h.pending hp (hbetween hp hf) with habsent | hback
    · cases hheld.trans habsent
    · exact hback.succ hi

theorem Renewed.waits_succ (h : Renewed r a p k i) (hset : Setting r a p k) (hpi : p ≤ i)
    (hi : i < r.length) ⦃c : TaskId⦄ ⦃x : ρ⦄ ⦃found : Option Entry⦄ ⦃f : FlightId⦄
    (hn : (r.state p).1.tasks[c]? = none)
    (hc : (r.state (i + 1)).1.tasks[c]? = some (.call k x (.waiting found f))) :
    ((r.state p).1.tasks[f]? = none ∨ (r.state p).1.Flying k f) ∧
      ∀ e, found = some e → r.RenderedSince a (i + 1) k e.body e.generation ∧
        ((r.state p).1.Flying k f → r.CameBack a (i + 1) k f) := by
  obtain hc₀ | hb := (Transition.of_moved (r.step i hi)).waiting hc
  · obtain ⟨hf, hback⟩ := h.waits hn hc₀
    refine ⟨hf, fun e he => ?_⟩
    obtain ⟨hsince, hback⟩ := hback e he
    exact ⟨hsince.mono (Nat.le_succ i), fun hp => (hback hp).succ hi⟩
  · -- what has been boarded is on record, so it is under way
    have hfly := ((hset.standing (i + 1) hi).oneFlight k f).mp hb.recorded
    refine ⟨absent_or_flying (by omega) hi hfly, ?_⟩
    rintro e rfl
    obtain ⟨hsince, hback⟩ := h.reads hn hb.read
    refine ⟨hsince.mono (Nat.le_succ i), fun hp => ?_⟩
    exact (hback f hp (flying_between hpi (Nat.le_succ i) hi hp hfly)).succ hi

theorem Renewed.results_succ (h : Renewed r a p k i) (hset : Setting r a p k)
    (hi : i < r.length) ⦃c : TaskId⦄ ⦃x : ρ⦄ ⦃out : Served⦄
    (hn : (r.state p).1.tasks[c]? = none)
    (hc : (r.state (i + 1)).1.tasks[c]? = some (.call k x (.finished (.ok out)))) :
    r.RenderedSince a (i + 1) k out.body out.generation ∨ r.JoinedPending p (i + 1) k c := by
  obtain hc₀ | hfin := (Transition.of_moved (r.step i hi)).finished hc
  · rcases h.results hn hc₀ with hsince | hjoined
    · exact .inl (hsince.mono (Nat.le_succ i))
    · exact .inr (hjoined.mono (Nat.le_succ i))
  · generalize hout : (Except.ok out : Except LookupError Served) = result at hfin
    cases hfin with
    | unread _ _ _ => cases hout
    | hit hread _ _ =>
      cases hout
      exact .inl ((h.reads hn hread).1.mono (Nat.le_succ i))
    | stale hread _ _ _ =>
      cases hout
      exact .inl ((h.reads hn hread).1.mono (Nat.le_succ i))
    | @received found f result now hwait _ hresult =>
      obtain ⟨hf, hback⟩ := h.waits hn hwait
      obtain ⟨o, y, ph, hflight⟩ := (hset.standing i (by omega)).awaited hwait
      obtain ⟨j, o', y', hover⟩ := flightResult?_eq_some_iff.mp hresult
      cases hflight.symm.trans hover
      cases result with
      | ok e =>
        have hsince : (r.state p).1.tasks[f]? = none →
            r.RenderedSince a (i + 1) k e.body e.generation := by
          intro hnew
          exact (h.flights hnew hover rfl).mono (Nat.le_succ i)
        cases found with
        | none =>
          cases hout
          rcases hf with hnew | hold
          · exact .inl (hsince hnew)
          · exact .inr ⟨i, f, x, Nat.le_succ i, hold, hwait⟩
        | some e₀ =>
          cases hout
          rcases hf with hnew | hold
          · exact .inl (hsince hnew)
          · -- the result of an old flight that the call met is the entry that it has brought back
            obtain ⟨-, hback⟩ := hback e₀ rfl
            obtain ⟨_, _, _, e', hf', hph, hsince⟩ := hback hold
            cases hover.symm.trans hf'
            cases hph
            exact .inl (hsince.mono (Nat.le_succ i))
      | error err =>
        cases found with
        | none => cases hout
        | some e₀ =>
          cases hout
          exact .inl ((hback e₀ rfl).1.mono (Nat.le_succ i))

/-- **One event** keeps the key renewed. -/
theorem Renewed.succ (h : Renewed r a p k i) (hset : Setting r a p k) (hpi : p ≤ i)
    (hi : i < r.length) : Renewed r a p k (i + 1) where
  holds := h.holds_succ hset hpi hi
  flights := h.flights_succ hset hpi hi
  pending := h.pending_succ hset hpi hi
  reads := h.reads_succ hset hpi hi
  waits := h.waits_succ hset hpi hi
  results := h.results_succ hset hi

/-! ## The main result -/

/-- **Served anew.** After an invalidation that has ended well, and at whose beginning no flight was
under way that had been started for an absent key, what a call of the key is served that begins
afterwards comes from a render that was not at work when the invalidation began; except that a call
that finds the key absent may wait for a flight that was under way when the key was deleted. -/
theorem served_anew (r : MoveRun ρ σ) (policy : Policy) (renderTimeout : Duration)
    (h₀ : (r.state 0).1 = new policy renderTimeout) (hv : Valid (r.state 0).2)
    (h : Invalidated r k a n) (hobserved : r.ObservedSome a k) :
    ∃ b removed, a < b ∧ b < n ∧ r.Deletes b (r.state a).1.tasks.length k removed ∧
      ∀ (c : TaskId) (x : ρ) (out : Served) (i : Nat), i ≤ r.length →
        (r.state n).1.tasks[c]? = none →
        (r.state i).1.tasks[c]? = some (.call k x (.finished (.ok out))) →
        r.RenderedSince a i k out.body out.generation ∨ r.JoinedPending (b + 1) i k c := by
  have hs := r.standing h₀ hv
  have hle := h.le
  obtain ⟨b, removed, hab, hbn, hdeletes⟩ := h.exists_deletes
  refine ⟨b, removed, hab, hbn, hdeletes, ?_⟩
  have habsent : held (r.state (b + 1)).2 k = none := by
    obtain ⟨fault, -, hask⟩ := hdeletes
    obtain ⟨-, -, hheld⟩ := ask_delete_ok (hs b (by omega)).valid hask
    rw [hheld, Contents.without_self]
  have hset : Setting r a (b + 1) k := ⟨by omega, hs, hobserved⟩
  intro c x out i hi hc hout
  have hni : n ≤ i := by
    by_contra hlt
    cases (absent_before (by omega) hle hc).symm.trans hout
  have hrenewed : Renewed r a (b + 1) k i := by
    have hbi : b + 1 ≤ i := by omega
    clear hout hni
    induction i, hbi using Nat.le_induction with
    | base => exact renewed_of_absent habsent
    | succ i hbi ih => exact (ih (by omega)).succ hset hbi (by omega)
  exact hrenewed.results (absent_before (by omega) hle hc) hout

/-- Every call that begins after an invalidation is served what has been rendered since. -/
def ServesAnew (r : MoveRun ρ σ) : Prop :=
  ∀ (k : Key) (a n : Nat), Invalidated r k a n → r.ObservedSome a k →
    ∀ (c : TaskId) (x : ρ) (out : Served) (i : Nat), i ≤ r.length →
      (r.state n).1.tasks[c]? = none →
      (r.state i).1.tasks[c]? = some (.call k x (.finished (.ok out))) →
      r.RenderedSince a i k out.body out.generation

/-- A page is stored and is stale; a lookup has a flight render behind it, and while that renders,
the page is removed. The next lookup finds the page absent and joins the flight; the one after it
comes when the flight is over, and has the page rendered anew. -/
def joinedLate : List (Move Nat) :=
  [.lookup ⟨"home"⟩ 1, .storeCall 0 (.get ⟨"home"⟩) none, .proceed 0 .epoch,
    .storeCall 1 (.get ⟨"home"⟩) none, .proceed 1 .epoch, .render 1 (.output stalePage) .epoch,
    .storeCall 1 (.put (entryOf ⟨"home"⟩ none stalePage .epoch) none) none,
    .proceed 1 .epoch, .proceed 1 .epoch, .proceed 0 .epoch,
    .lookup ⟨"home"⟩ 2, .storeCall 2 (.get ⟨"home"⟩) none, .proceed 2 .epoch,
    .storeCall 3 (.get ⟨"home"⟩) none, .proceed 3 .epoch,
    .invalidateKey ⟨"home"⟩, .storeCall 4 (.delete ⟨"home"⟩) none, .proceed 4 .epoch,
    .lookup ⟨"home"⟩ 3, .storeCall 5 (.get ⟨"home"⟩) none, .proceed 5 .epoch,
    .render 3 (.output stalePage) .epoch,
    .storeCall 3 (.put (entryOf ⟨"home"⟩ (some 1) stalePage .epoch) (some 1)) none,
    .proceed 3 .epoch, .proceed 5 .epoch,
    .lookup ⟨"home"⟩ 4, .storeCall 6 (.get ⟨"home"⟩) none, .proceed 6 .epoch,
    .storeCall 7 (.get ⟨"home"⟩) none, .proceed 7 .epoch, .render 7 (.output homePage) .epoch,
    .storeCall 7 (.put (entryOf ⟨"home"⟩ none homePage .epoch) none) none,
    .proceed 7 .epoch, .proceed 7 .epoch, .proceed 6 .epoch]

/-- The run of these moves over an empty store. -/
def joinedLateRun : MoveRun Nat MemoryStore :=
  .ofList (new ⟨none⟩ (.ofSecs 5), .unbounded) joinedLate rfl

theorem invalidated_joinedLateRun : Invalidated joinedLateRun ⟨"home"⟩ 15 18 :=
  ⟨by decide, by decide, .inl ⟨rfl, true, rfl⟩⟩

/-- Whether the task is a flight under way that was started for an absent key. -/
def fliesForAbsent : Task Nat → Bool
  | .flight _ none _ p => (Task.flight ⟨""⟩ none 0 p).isOver = false
  | _ => false

theorem observedSome_joinedLateRun : joinedLateRun.ObservedSome 15 ⟨"home"⟩ := by
  have hall : ∀ u ∈ (joinedLateRun.state 15).1.tasks, fliesForAbsent u = false := by
    decide +kernel
  rintro f o x ph hf hover rfl
  have hflies := hall _ (List.mem_of_getElem? hf)
  cases ph with
  | finished result => cases hover
  | _ => cases hflies

theorem served_anew_after_removal :
    Invalidated joinedLateRun ⟨"home"⟩ 15 18 ∧ joinedLateRun.ObservedSome 15 ⟨"home"⟩ ∧
      (joinedLateRun.state 35).1.tasks[6]? = some (.call ⟨"home"⟩ 4 (.finished
        (.ok (.ofEntry (entryOf ⟨"home"⟩ none homePage .epoch) .miss)))) ∧
      ∃ b removed, 15 < b ∧ b < 18 ∧ joinedLateRun.Deletes b 4 ⟨"home"⟩ removed ∧
        (joinedLateRun.RenderedSince 15 35 ⟨"home"⟩ homePage.body 1 ∨
          joinedLateRun.JoinedPending (b + 1) 35 ⟨"home"⟩ 6) := by
  have hout : (joinedLateRun.state 35).1.tasks[6]? = some (.call ⟨"home"⟩ 4 (.finished
      (.ok (.ofEntry (entryOf ⟨"home"⟩ none homePage .epoch) .miss)))) := rfl
  obtain ⟨b, removed, hab, hbn, hdeletes, hserved⟩ := served_anew joinedLateRun ⟨none⟩ (.ofSecs 5)
    rfl MemoryStore.distinct_unbounded invalidated_joinedLateRun observedSome_joinedLateRun
  exact ⟨invalidated_joinedLateRun, observedSome_joinedLateRun, hout, b, removed, hab, hbn,
    hdeletes, hserved 6 4 _ 35 (Nat.le_refl 35) rfl hout⟩

/-- The flight whose render ends in the move. -/
def renderOf? : Move Nat → Option FlightId
  | .render f _ _ => some f
  | _ => none

/-- **What was rendered before can be served**, though no store call fails: to a call that joins the
flight that was under way. -/
theorem served_old :
    ∃ r : MoveRun Nat MemoryStore, r.state 0 = (new ⟨none⟩ (.ofSecs 5), .unbounded) ∧
      (∀ i < r.length, (r.event i).fails = false) ∧ ¬ ServesAnew r := by
  refine ⟨joinedLateRun, rfl, by decide +kernel, fun h => ?_⟩
  obtain ⟨j, f, o, x, out, now, haj, hji, hm, -, hidle, -⟩ := h ⟨"home"⟩ 15 18
    invalidated_joinedLateRun observedSome_joinedLateRun 5 3 _ 25 (by decide) rfl rfl
  -- the only render that ends by then was at work when the removal began
  have honly : ∀ j < 25, 15 ≤ j → renderOf? (joinedLateRun.event j) = none ∨
      renderOf? (joinedLateRun.event j) = some 3 := by
    decide +kernel
  rcases honly j hji haj with hnone | hthree
  · rw [hm] at hnone
    cases hnone
  · rw [hm] at hthree
    cases hthree
    exact hidle 2 ⟨some 1, rfl⟩

end MoveRun

end Scheduler

end PageCache
