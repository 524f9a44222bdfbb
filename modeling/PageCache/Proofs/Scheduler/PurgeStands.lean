import PageCache.Proofs.Scheduler.Standing
import PageCache.Proofs.Store.Memory

/-!
# A purge stands

A flight that was started for an entry must not bring the key back when the entry is taken away
meanwhile. Generations alone do not see to that, since they count from `1` again when a key comes
back: it is the record of the flight that keeps all other flights of the key away, so that the key
is still absent when the flight writes, and its write is refused.

`Overtaken` is the situation and `Stands` the invariant from the removal on; `purge_stands` is the
result for a whole run.
-/

namespace PageCache

open LawfulStore

/-- Whether the move is a write of the flight. -/
def Move.isWriteOf {ρ : Type} (f : FlightId) : Move ρ → Bool
  | .storeCall i (.put _ _) _ => i = f
  | _ => false

namespace Scheduler

variable {ρ σ : Type} [Store σ] [LawfulStore σ]

/-! ## The invariant -/

/-- The flight `f` of the key, which saw the generation `g`, has stored nothing, and until it is
over the key is absent. -/
structure Stands (f : FlightId) (k : Key) (g : Generation) (x : ρ) (s : Scheduler ρ) (st : σ) :
    Prop where
  /-- the flight has stored nothing -/
  unstored : ∃ p, s.tasks[f]? = some (.flight k (some g) x p) ∧ ∀ e, p ≠ .committed e
  /-- the key is absent until the flight is over -/
  absent : held st k = none ∨ ∃ result, s.flightResult? f = some result

variable {s s' : Scheduler ρ} {st st' : σ} {m : Move ρ} {f : FlightId} {k : Key} {g : Generation}
  {x : ρ}

/-- No other flight can store the key, and the flight itself saw something else than is held. -/
theorem Stands.of_transition (h : Stands f k g x s st) (hs : Standing s st)
    (ht : Transition s st m s' st') : Stands f k g x s' st' where
  unstored := by
    obtain ⟨p, hf, hp⟩ := h.unstored
    obtain ⟨p', hf', -, -⟩ := (later_of_transition ht).flight hf
    refine ⟨p', hf', ?_⟩
    rintro e rfl
    obtain hf₀ | ⟨hf₀, fault, -, ha⟩ := ht.committed hf'
    · cases hf.symm.trans hf₀
      exact hp e rfl
    · -- an accepted write would have found the generation that the flight saw
      obtain ⟨-, -, hg, -, -⟩ := ask_put_stored hs.valid ha
      rw [hs.key_of_holds hf₀ .committing] at hg
      rcases h.absent with hk | ⟨result, hr⟩
      · rw [Contents.generation, hk] at hg
        cases hg
      · obtain ⟨_, _, _, hr⟩ := flightResult?_eq_some_iff.mp hr
        cases hf₀.symm.trans hr
  absent := by
    obtain ⟨p, hf, -⟩ := h.unstored
    rcases flying_or_over hf with hfly | ⟨result, hr⟩
    · rcases h.absent with hk | ⟨result, hr⟩
      · left
        cases hk' : held st' k with
        | none => rfl
        | some e' =>
          cases (ht.change hs.valid).2 with
          | nothing hheld => rw [hheld, hk] at hk'; cases hk'
          | deleted hheld =>
            rw [hheld] at hk'
            cases hk.symm.trans (Contents.eq_of_without hk').2
          | @stored f' j o _ e _ hf' hg _ htakes =>
            obtain ⟨hj, -⟩ | ⟨-, hk'⟩ := htakes.eq_or hk'
            · -- the flight that stores the key is the one under way
              rw [key_kept, hs.key_of_holds hf' .committing] at hj
              subst hj
              obtain rfl := hs.oneFlight.unique hfly (flying_of_getElem? hf' rfl)
              cases hf.symm.trans hf'
              rw [hs.key_of_holds hf' .committing, Contents.generation, hk] at hg
              cases hg
            · cases hk.symm.trans hk'
      · exact .inr ⟨result, (later_of_transition ht).flightResult? hr⟩
    · exact .inr ⟨result, (later_of_transition ht).flightResult? hr⟩

/-! ## The flight's own moves -/

/-- A flight that is about to write is not over, so the key is absent. -/
theorem Stands.absent_of_committing {o : Option Generation} {e : Entry} (h : Stands f k g x s st)
    (hf : s.tasks[f]? = some (.flight k o x (.committing e))) : held st k = none := by
  rcases h.absent with hk | ⟨result, hr⟩
  · exact hk
  · obtain ⟨_, _, _, hr⟩ := flightResult?_eq_some_iff.mp hr
    cases hf.symm.trans hr

/-- **The write is refused.** A write that the store answers while the key is absent is told so, and
the flight goes on with its entry. -/
theorem Stands.refused {o : Option Generation} {e : Entry} (h : Stands f k g x s st)
    (hs : Standing s st) (ht : Transition s st (.storeCall f (.put e o) none) s' st') :
    (Store.put st e o).1 = .ok (.conflict none) ∧
      s'.tasks[f]? = some (.flight k (some g) x (.ending (.ok e))) := by
  obtain ⟨p, hf, -⟩ := h.unstored
  obtain ⟨p', hstep⟩ := ht.flightStep rfl hf
  have hf' : ∀ {metrics : Metrics}, ({ s with metrics }.setTask f
      (.flight k (some g) x p')).tasks[f]? = some (.flight k (some g) x p') := by
    intro metrics
    exact getElem?_setTask_self (s := { s with metrics }) hf _
  cases hstep with
  | advanced ha =>
    cases ha with
    | @putRefused _ _ _ _ _ c _ hask =>
      obtain ⟨-, -, hcheck⟩ := ask_put_conflict hs.valid hask
      have hc := eq_of_checkGeneration_conflict hcheck
      rw [hs.key_of_holds hf .committing] at hc
      rw [Contents.generation, h.absent_of_committing hf] at hc
      subst hc
      exact ⟨congrArg Prod.fst hask, hf'⟩
    | putFailed hask =>
      obtain ⟨-, -, hfault | ⟨-, hstored⟩⟩ := ask_put_error hs.valid hask
      · cases hfault
      · -- an accepted write would have found the generation that the flight saw
        have hg := (checkGeneration_eq_stored_iff.mp hstored).1
        rw [hs.key_of_holds hf .committing, Contents.generation, h.absent_of_committing hf] at hg
        cases hg
  | stored _ =>
    obtain ⟨p, hf₁, hp⟩ := (h.of_transition hs ht).unstored
    cases hf'.symm.trans hf₁
    exact absurd rfl (hp e)

/-- **The flight touches nothing.** A move of a flight that stores nothing changes neither what is
held nor what is linked. -/
theorem Transition.untouched_by_flight {o : Option Generation} {p : Flight}
    (ht : Transition s st m s' st') (hv : Valid st) (hm : m.actor? = some f)
    (hf : s.tasks[f]? = some (.flight k o x p))
    (hbefore : ∀ e, s.tasks[f]? ≠ some (.flight k o x (.committed e)))
    (hafter : ∀ e, s'.tasks[f]? ≠ some (.flight k o x (.committed e))) :
    held st' = held st ∧ s'.index = s.index := by
  obtain ⟨p', hstep⟩ := ht.flightStep hm hf
  cases hstep with
  | advanced ha => exact ⟨(ha.contents hv).2, rfl⟩
  | ended => exact ⟨rfl, rfl⟩
  | linked => exact absurd hf (hbefore _)
  | stored _ => exact absurd (getElem?_setTask_self hf _) (hafter _)

/-- **Back only by a new flight.** A key that is absent comes back by the write of a flight that saw
it absent, with the first generation. -/
theorem Transition.comes_back (ht : Transition s st m s' st') (hs : Standing s st)
    (habsent : held st k = none) (hpresent : held st' k ≠ none) :
    ∃ (f' : FlightId) (x' : ρ) (e' : Entry), m = .storeCall f' (.put e' none) none ∧
      s.tasks[f']? = some (.flight k none x' (.committing e')) ∧ e'.generation = 1 ∧
      held st' k = some (kept σ e') := by
  obtain ⟨e, he⟩ := Option.ne_none_iff_exists'.mp hpresent
  cases (ht.change hs.valid).2 with
  | nothing hheld => exact absurd (hheld ▸ habsent) hpresent
  | deleted hheld =>
    rw [hheld] at he
    cases habsent.symm.trans (Contents.eq_of_without he).2
  | @stored f' j o x' e' _ hf' hg hlt htakes =>
    obtain ⟨hk, rfl⟩ | ⟨-, he₀⟩ := htakes.eq_or he
    · rw [key_kept, hs.key_of_holds hf' .committing] at hk
      subst hk
      rw [hs.key_of_holds hf' .committing, Contents.generation, habsent] at hg
      obtain rfl : o = none := hg.symm
      obtain ⟨out, now, rfl⟩ := hs.rendered hf' .committing
      exact ⟨f', x', _, rfl, hf', rfl, he⟩
    · cases habsent.symm.trans he₀

/-! ## Whole runs -/

namespace MoveRun

/-- **Overtaken.** At the event `p` the key leaves the store, while a flight that was started for a
generation of it has not written yet. -/
structure Overtaken (r : MoveRun ρ σ) (p : Nat) (f : FlightId) (k : Key) (g : Generation) (x : ρ) :
    Prop where
  /-- the event is part of the run -/
  lt : p < r.length
  /-- the flight has been started -/
  started : ∃ phase, (r.state p).1.tasks[f]? = some (.flight k (some g) x phase)
  /-- it has not written -/
  unwritten : ∀ i < p, (r.event i).isWriteOf f = false
  /-- the key is held before the event -/
  present : held (r.state p).2 k ≠ none
  /-- it is not held afterwards -/
  absent : held (r.state (p + 1)).2 k = none

variable {r : MoveRun ρ σ} {p : Nat}

/-- The flight is a flight wherever it is there. -/
theorem Overtaken.flight_of_getElem? (h : Overtaken r p f k g x) {i : Nat} (hi : i ≤ r.length)
    {t : Task ρ} (ht : (r.state i).1.tasks[f]? = some t) :
    ∃ phase, t = .flight k (some g) x phase := by
  obtain ⟨phase, hf⟩ := h.started
  rcases Nat.le_total i p with hip | hpi
  · obtain ⟨t', ht', hlater⟩ := r.later hip (Nat.le_of_lt h.lt) f t ht
    cases ht'.symm.trans hf
    cases hlater with
    | flight _ _ => exact ⟨_, rfl⟩
    | upkeep _ hu => cases hu
  · obtain ⟨phase', hf', -, -⟩ := (r.later hpi hi).flight hf
    exact ⟨phase', Option.some.inj (ht.symm.trans hf')⟩

/-- Up to the removal the flight has stored nothing. -/
theorem Overtaken.unstored (h : Overtaken r p f k g x) {policy : Policy} {renderTimeout : Duration}
    (h₀ : (r.state 0).1 = new policy renderTimeout) {i : Nat} (hi : i ≤ p) (e : Entry) :
    (r.state i).1.tasks[f]? ≠ some (.flight k (some g) x (.committed e)) := by
  intro he
  obtain ⟨j, -, hj, hn, hc⟩ := r.exists_change
    (P := fun y => y.1.tasks[f]? = some (.flight k (some g) x (.committed e)))
    (Nat.zero_le i) (by rw [h₀]; simp [new]) he
  have hlt := h.lt
  obtain hc₀ | ⟨-, fault, hevent, -⟩ := (Transition.of_moved (r.step j (by omega))).committed hc
  · exact hn hc₀
  · have hwrite := h.unwritten j (by omega)
    rw [hevent] at hwrite
    simp [Move.isWriteOf] at hwrite

/-- From the removal on the key is absent until the flight is over. -/
theorem Overtaken.stands (h : Overtaken r p f k g x) {policy : Policy} {renderTimeout : Duration}
    (h₀ : (r.state 0).1 = new policy renderTimeout)
    (hs : ∀ i ≤ r.length, Standing (r.state i).1 (r.state i).2) {i : Nat} (hpi : p < i)
    (hi : i ≤ r.length) : Stands f k g x (r.state i).1 (r.state i).2 := by
  have hlt := h.lt
  refine r.stays (P := fun y => Stands f k g x y.1 y.2) ⟨?_, .inl h.absent⟩ ?_ i hpi hi
  · obtain ⟨phase, hf⟩ := h.started
    obtain ⟨phase', hf', -, -⟩ := (r.later (Nat.le_succ p) h.lt).flight hf
    refine ⟨phase', hf', ?_⟩
    rintro e rfl
    obtain hf₀ | ⟨hf₀, fault, -, ha⟩ := (Transition.of_moved (r.step p h.lt)).committed hf'
    · exact h.unstored h₀ (Nat.le_refl p) e hf₀
    · -- a write that is accepted leaves the key held
      have hstanding := hs p (by omega)
      obtain ⟨-, -, -, -, htakes⟩ := ask_put_stored hstanding.valid ha
      have hheld := htakes.1
      rw [key_kept, hstanding.key_of_holds hf₀ .committing, h.absent] at hheld
      cases hheld
  · intro j hj hjr hstands
    exact hstands.of_transition (hs j (by omega)) (.of_moved (r.step j hjr))

/-- The flight never stores anything. -/
theorem Overtaken.never_stored (h : Overtaken r p f k g x) {policy : Policy}
    {renderTimeout : Duration} (h₀ : (r.state 0).1 = new policy renderTimeout)
    (hs : ∀ i ≤ r.length, Standing (r.state i).1 (r.state i).2) {i : Nat} (hi : i ≤ r.length)
    (e : Entry) : (r.state i).1.tasks[f]? ≠ some (.flight k (some g) x (.committed e)) := by
  rcases Nat.lt_or_ge p i with hpi | hip
  · intro he
    obtain ⟨phase, hf, hphase⟩ := (h.stands h₀ hs hpi hi).unstored
    cases he.symm.trans hf
    exact hphase e rfl
  · exact h.unstored h₀ hip e

/-- No move of the flight changes what is held or linked. -/
theorem Overtaken.untouched (h : Overtaken r p f k g x) {policy : Policy} {renderTimeout : Duration}
    (h₀ : (r.state 0).1 = new policy renderTimeout)
    (hs : ∀ i ≤ r.length, Standing (r.state i).1 (r.state i).2) {i : Nat} (hi : i < r.length)
    (hm : (r.event i).actor? = some f) :
    held (r.state (i + 1)).2 = held (r.state i).2 ∧
      (r.state (i + 1)).1.index = (r.state i).1.index := by
  have ht := Transition.of_moved (r.step i hi)
  obtain ⟨t, hf⟩ := ht.exists_actor hm
  obtain ⟨phase, rfl⟩ := h.flight_of_getElem? (Nat.le_of_lt hi) hf
  exact ht.untouched_by_flight (hs i (Nat.le_of_lt hi)).valid hm hf
    (h.never_stored h₀ hs (Nat.le_of_lt hi)) (h.never_stored h₀ hs hi)

/-- The flight writes after the removal, if it does at all. -/
theorem Overtaken.lt_of_put (h : Overtaken r p f k g x) {policy : Policy} {renderTimeout : Duration}
    (h₀ : (r.state 0).1 = new policy renderTimeout)
    (hs : ∀ i ≤ r.length, Standing (r.state i).1 (r.state i).2) {j : Nat} (hj : j < r.length)
    {e : Entry} {o : Option Generation} (he : r.event j = .storeCall f (.put e o) none) :
    p < j := by
  rcases Nat.lt_trichotomy p j with hlt | rfl | hlt
  · exact hlt
  · -- the removal itself is no write of the flight
    have hactor : (r.event p).actor? = some f := by
      rw [he]
      rfl
    have hheld := (h.untouched h₀ hs hj hactor).1
    exact absurd (hheld ▸ h.absent) h.present
  · have hwrite := h.unwritten j hlt
    rw [he] at hwrite
    simp [Move.isWriteOf] at hwrite

omit [LawfulStore σ] in
/-- A flight that is ending at a position ends with its result and stays so. -/
theorem ends {r : MoveRun ρ σ} {n : Nat} {o : Option Generation}
    {result : Except LookupError Entry}
    (hn : (r.state n).1.tasks[f]? = some (.flight k o x (.ending result))) :
    ∀ i, n ≤ i → i ≤ r.length →
      (r.state i).1.tasks[f]? = some (.flight k o x (.ending result)) ∨
        (r.state i).1.flightResult? f = some result := by
  refine r.stays (P := fun y => y.1.tasks[f]? = some (.flight k o x (.ending result)) ∨
    y.1.flightResult? f = some result) (.inl hn) ?_
  intro i _ hi h
  have ht := Transition.of_moved (r.step i hi)
  rcases h with hending | hover
  · rcases ht.ending hending with hf | hf
    · exact .inl hf
    · exact .inr (flightResult?_eq_some_iff.mpr ⟨k, o, x, hf⟩)
  · exact .inr ((later_of_transition ht).flightResult? hover)

/-! ## The main result -/

/-- **The purge stands.** -/
structure PurgeStands (r : MoveRun ρ σ) (p : Nat) (f : FlightId) (k : Key) (g : Generation)
    (x : ρ) : Prop where
  /-- a write of the flight that the store answers is refused, the key being absent -/
  refused : ∀ j < r.length, ∀ e o, r.event j = .storeCall f (.put e o) none →
    (Store.put (r.state j).2 e o).1 = .ok (.conflict none)
  /-- the flight then ends with its entry, and when it has ended its waiters can receive it, body and
  generation, and nothing is wrong about it -/
  delivered : ∀ j < r.length, ∀ e o, r.event j = .storeCall f (.put e o) none →
    ∀ i, j < i → i ≤ r.length →
      ((r.state i).1.tasks[f]? = some (.flight k (some g) x (.ending (.ok e))) ∧
        ∀ now, ∃ y, moved (r.state i) (.proceed f now) = some y ∧
          y.1.flightResult? f = some (.ok e)) ∨
      ((r.state i).1.flightResult? f = some (.ok e) ∧
        ∀ (c : TaskId) j y found now,
          (r.state i).1.tasks[c]? = some (.call j y (.waiting found f)) →
          ∃ z served, moved (r.state i) (.proceed c now) = some z ∧
            z.1.tasks[c]? = some (.call j y (.finished (.ok served))) ∧
            served.IsOf e (if found.isSome then .expired else .miss) false none)
  /-- whatever a waiter of the flight receives is its entry -/
  received : ∀ j < r.length, ∀ e o, r.event j = .storeCall f (.put e o) none →
    ∀ i < r.length, ∀ (c : TaskId) j y found out,
      (r.state i).1.tasks[c]? = some (.call j y (.waiting found f)) →
      (r.state (i + 1)).1.tasks[c]? = some (.call j y (.finished out)) →
      ∃ served, out = .ok served ∧
        served.IsOf e (if found.isSome then .expired else .miss) false none
  /-- no move of the flight changes what is held or linked -/
  untouched : ∀ i < r.length, (r.event i).actor? = some f →
    held (r.state (i + 1)).2 = held (r.state i).2 ∧
      (r.state (i + 1)).1.index = (r.state i).1.index
  /-- the key stays absent until a flight that saw it absent stores it with the first generation -/
  absent_until : ∀ q, p < q → q ≤ r.length →
    (∀ i, p < i → i ≤ q → held (r.state i).2 k = none) ∨
    ∃ n, p < n ∧ n < q ∧ (∀ i, p < i → i ≤ n → held (r.state i).2 k = none) ∧
      ∃ (f' : FlightId) (x' : ρ) (e' : Entry), r.event n = .storeCall f' (.put e' none) none ∧
        (r.state n).1.tasks[f']? = some (.flight k none x' (.committing e')) ∧
        e'.generation = 1 ∧ held (r.state (n + 1)).2 k = some (kept σ e')

/-- After the removal the key is absent up to the write that brings it back. -/
theorem Overtaken.absent_until (h : Overtaken r p f k g x)
    (hs : ∀ i ≤ r.length, Standing (r.state i).1 (r.state i).2) :
    ∀ q, p < q → q ≤ r.length →
    (∀ i, p < i → i ≤ q → held (r.state i).2 k = none) ∨
    ∃ n, p < n ∧ n < q ∧ (∀ i, p < i → i ≤ n → held (r.state i).2 k = none) ∧
      ∃ (f' : FlightId) (x' : ρ) (e' : Entry), r.event n = .storeCall f' (.put e' none) none ∧
        (r.state n).1.tasks[f']? = some (.flight k none x' (.committing e')) ∧
        e'.generation = 1 ∧ held (r.state (n + 1)).2 k = some (kept σ e') := by
  intro q hpq
  induction q, hpq using Nat.le_induction with
  | base =>
    intro _
    refine .inl fun i hpi hi => ?_
    obtain rfl : i = p + 1 := by omega
    exact h.absent
  | succ q hpq ih =>
    intro hq
    rcases ih (by omega) with habsent | ⟨n, hpn, hnq, hback⟩
    · by_cases hk : held (r.state (q + 1)).2 k = none
      · refine .inl fun i hpi hi => ?_
        rcases Nat.lt_or_ge i (q + 1) with hlt | hge
        · exact habsent i hpi (by omega)
        · obtain rfl : i = q + 1 := by omega
          exact hk
      · exact .inr ⟨q, hpq, Nat.lt_succ_self q, habsent,
          (Transition.of_moved (r.step q (by omega))).comes_back (hs q (by omega))
            (habsent q hpq (Nat.le_refl q)) hk⟩
    · exact .inr ⟨n, hpn, by omega, hback⟩

/-- **A purge stands.** When a key leaves the store while a flight that was started for a generation
of it has not written yet, the flight does not bring it back. -/
theorem purge_stands (r : MoveRun ρ σ) (policy : Policy) (renderTimeout : Duration)
    (h₀ : (r.state 0).1 = new policy renderTimeout) (hv : Valid (r.state 0).2)
    (h : Overtaken r p f k g x) : PurgeStands r p f k g x := by
  have hs := r.standing h₀ hv
  have hput : ∀ j < r.length, ∀ e o, r.event j = .storeCall f (.put e o) none →
      (Store.put (r.state j).2 e o).1 = .ok (.conflict none) ∧
        (r.state (j + 1)).1.tasks[f]? = some (.flight k (some g) x (.ending (.ok e))) := by
    intro j hj e o he
    have hstands := h.stands h₀ hs (h.lt_of_put h₀ hs hj he) (Nat.le_of_lt hj)
    have ht := Transition.of_moved (r.step j hj)
    rw [he] at ht
    exact hstands.refused (hs j (Nat.le_of_lt hj)) ht
  refine ⟨fun j hj e o he => (hput j hj e o he).1, ?_, ?_, fun i hi hm => h.untouched h₀ hs hi hm,
    h.absent_until hs⟩
  · intro j hj e o he i hji hi
    rcases ends (hput j hj e o he).2 i hji hi with hending | hover
    · exact .inl ⟨hending, exists_ended hending⟩
    · refine .inr ⟨hover, fun c j y found now hc => ?_⟩
      obtain ⟨z, hz, hc'⟩ : ∃ z, moved (r.state i) (.proceed c now) = some z ∧ _ :=
        exists_received hc hover now
      obtain ⟨served, hserved, hof⟩ := (delivers_receive found (.ok e)).entry e rfl
      exact ⟨z, served, hz, hserved ▸ hc', hof⟩
  · intro j hj e o he i hi c j' y found out hc hc'
    obtain ⟨result, hr, rfl⟩ := (Transition.of_moved (r.step i hi)).received hc hc'
    have hlast := (r.later (Nat.le_of_lt hi) (Nat.le_refl _)).flightResult? hr
    rcases ends (hput j hj e o he).2 r.length hj (Nat.le_refl _) with hending | hover
    · obtain ⟨_, _, _, hover⟩ := flightResult?_eq_some_iff.mp hlast
      cases hending.symm.trans hover
    · cases hlast.symm.trans hover
      exact (delivers_receive found (.ok e)).entry e rfl

/-- A page that expires two seconds after it was rendered. -/
def shortLived : RenderOutput :=
  (RenderOutput.ofBody "home".toUTF8).withRevalidate (.after (.ofSecs 1))

/-- Five seconds after the epoch. -/
def fiveSeconds : Instant := ⟨5000000000, by decide, by decide⟩

/-- A page is stored and expires; a lookup waits for the flight that regenerates it, and while that
renders, the page is removed. -/
def removedMeanwhile : List (Move Nat) :=
  [.lookup ⟨"home"⟩ 1, .storeCall 0 (.get ⟨"home"⟩) none, .proceed 0 .epoch,
    .storeCall 1 (.get ⟨"home"⟩) none, .proceed 1 .epoch, .render 1 (.output shortLived) .epoch,
    .storeCall 1 (.put (entryOf ⟨"home"⟩ none shortLived .epoch) none) none,
    .proceed 1 .epoch, .proceed 1 .epoch, .proceed 0 .epoch,
    .lookup ⟨"home"⟩ 2, .storeCall 2 (.get ⟨"home"⟩) none, .proceed 2 fiveSeconds,
    .storeCall 3 (.get ⟨"home"⟩) none, .proceed 3 fiveSeconds,
    .render 3 (.output shortLived) fiveSeconds,
    .invalidateKey ⟨"home"⟩, .storeCall 4 (.delete ⟨"home"⟩) none, .proceed 4 fiveSeconds,
    .storeCall 3 (.put (entryOf ⟨"home"⟩ (some 1) shortLived fiveSeconds) (some 1)) none,
    .proceed 3 fiveSeconds, .proceed 2 fiveSeconds]

/-- The run of these moves over an empty store. -/
def removedMeanwhileRun : MoveRun Nat MemoryStore :=
  .ofList (new ⟨none⟩ (.ofSecs 5), .unbounded) removedMeanwhile rfl

theorem purge_stands_removed_meanwhile :
    Overtaken removedMeanwhileRun 17 3 ⟨"home"⟩ 1 2 ∧
      PurgeStands removedMeanwhileRun 17 3 ⟨"home"⟩ 1 2 ∧
      removedMeanwhileRun.event 19 =
        .storeCall 3 (.put (entryOf ⟨"home"⟩ (some 1) shortLived fiveSeconds) (some 1)) none ∧
      held (removedMeanwhileRun.state 22).2 ⟨"home"⟩ = none := by
  have h : Overtaken removedMeanwhileRun 17 3 ⟨"home"⟩ 1 2 := by
    refine ⟨by decide +kernel,
      ⟨.committing (entryOf ⟨"home"⟩ (some 1) shortLived fiveSeconds), rfl⟩,
      by decide +kernel, ?_, rfl⟩
    exact Option.ne_none_iff_exists'.mpr ⟨entryOf ⟨"home"⟩ none shortLived .epoch, rfl⟩
  exact ⟨h,
    purge_stands removedMeanwhileRun ⟨none⟩ (.ofSecs 5) rfl MemoryStore.distinct_unbounded h,
    rfl, rfl⟩

end MoveRun

end Scheduler

end PageCache
