import PageCache.Proofs.Scheduler.RenderedOnce

/-!
# How long a static entry stays

An entry that never expires is not regenerated by anyone who reads it. But a call may have read the
key before, and a generation does not tell which entry it belongs to: it counts from `1` again when a
key comes back after a removal. So a call that read an earlier entry of the same generation, and
gets to its dispatch only after the static entry has been stored, starts a flight that takes the
static entry for the one it was started for, and replaces it.

* `static_entry_stays` — a static entry stays until it is removed, unless such a late call is left
  over from before it was stored;
* `static_entry_replaced` — with such a call it is replaced, by a scheduler whose store nobody else
  writes to.
-/

namespace PageCache

open LawfulStore

/-- An entry that never expires is always fresh. -/
theorem Policy.classify_of_never (p : Policy) {e : Entry} (h : e.revalidate = .never)
    (now : Instant) : p.classify (some e) now = .fresh := by
  simp only [classify, h]

namespace Scheduler

variable {ρ σ : Type} [Store σ]

/-! ## One move -/

section

variable {s s' : Scheduler ρ} {st st' : σ} {m : Move ρ} {k : Key} {x : ρ}

/-- A flight that is under way was under way before, or has just been led. -/
theorem Transition.underWay {f : FlightId} {o : Option Generation} {p' : Flight}
    (h : Transition s st m s' st') (hf : s'.tasks[f]? = some (.flight k o x p'))
    (hover : (Task.flight k o x p').isOver = false) :
    (∃ p, s.tasks[f]? = some (.flight k o x p) ∧ (Task.flight k o x p).isOver = false) ∨
      s.tasks[f]? = none ∧ p' = .checking ∧
        ∃ c found, Boarding s m c k x found f s' ∧ o = found.map Entry.generation := by
  obtain hf₀ | ⟨rfl, hp, -, -, hb⟩ | ⟨p, hf₀, hstep⟩ := h.flight hf
  · exact .inl ⟨p', hf₀, hover⟩
  · exact .inr ⟨List.getElem?_eq_none (Nat.le_refl _), hp, hb⟩
  · exact .inl ⟨p, hf₀, hstep.not_over⟩

variable [LawfulStore σ]

/-- A call that has read holds what it held before, or what is held. -/
theorem Transition.read {c : TaskId} {found : Option Entry} (h : Transition s st m s' st')
    (hv : Valid st) (hc : s'.tasks[c]? = some (.call k x (.read found))) :
    s.tasks[c]? = some (.call k x (.read found)) ∨ found = held st k := by
  obtain hc₀ | ⟨-, fault, -, hask⟩ := h.nowRead hc
  · exact .inl hc₀
  · exact .inr (ask_get_ok hv hask)

/-- An entry that is held stays, or leaves the store, or is replaced by the write of a flight that
was started for its generation. -/
theorem Transition.stays_or {e : Entry} (h : Transition s st m s' st') (hs : Standing s st)
    (hheld : held st k = some e) :
    held st' k = some e ∨ held st' k = none ∨
      ∃ f x e', s.tasks[f]? = some (.flight k (some e.generation) x (.committing e')) ∧
        m = .storeCall f (.put e' (some e.generation)) none ∧ held st' k = some (kept σ e') := by
  obtain ⟨-, hchange⟩ := h.change hs.valid
  cases hchange with
  | nothing hst => exact .inl (hst ▸ hheld)
  | @stored f j o x e' _ ht hgen _ htakes =>
    obtain rfl := hs.key_of_holds ht .committing
    by_cases hk : k = e'.key
    · subst hk
      rw [Contents.generation, hheld] at hgen
      subst hgen
      have hwritten := htakes.1
      rw [key_kept] at hwritten
      exact .inr (.inr ⟨f, x, e', ht, rfl, hwritten⟩)
    · rcases htakes.2 k (by rwa [key_kept]) with hst | hst
      · exact .inl (hst.trans hheld)
      · exact .inr (.inl hst)
  | @deleted _ j _ _ hst =>
    by_cases hk : k = j
    · subst hk
      exact .inr (.inl (by rw [hst, Contents.without_self]))
    · exact .inl (by rw [hst, Contents.without_of_ne _ hk, hheld])

end

/-! ## Runs -/

namespace MoveRun

/-- At the event `p` a flight `f` of the key is led by a call that is late for the entry `e`: it had
read the key when `e` was stored, at the event `j`, and holds another entry of the same
generation. -/
structure LedLate (r : MoveRun ρ σ) (j p : Nat) (k : Key) (e : Entry) (f : FlightId) (x : ρ) :
    Prop where
  /-- the flight is led after the entry has been stored -/
  lt : j < p
  /-- the call had read before, an entry that can expire -/
  read : ∃ c now e₀, r.event p = .proceed c now ∧
    (r.state (j + 1)).1.tasks[c]? = some (.call k x (.read (some e₀))) ∧
    e₀.generation = e.generation ∧ e₀.revalidate ≠ .never
  /-- the flight is new -/
  fresh : (r.state p).1.tasks[f]? = none
  /-- it is started for the generation that the two entries share -/
  started : (r.state (p + 1)).1.tasks[f]? = some (.flight k (some e.generation) x .checking)

variable [LawfulStore σ]

/-- At the event `n` the entry `e`, which was stored at the event `j`, is replaced by the write of a
flight that a late call has led. -/
structure ReplacedLate (r : MoveRun ρ σ) (j n : Nat) (k : Key) (e : Entry) : Prop where
  /-- the entry is held before the event -/
  holds : held (r.state n).2 k = some e
  /-- the event is the write of a flight that was led late, and its entry is held afterwards -/
  written : ∃ f x e' p, p < n ∧ LedLate r j p k e f x ∧
    r.event n = .storeCall f (.put e' (some e.generation)) none ∧
    held (r.state (n + 1)).2 k = some (kept σ e')

/-- At the event `n` the entry `e` leaves the store. -/
def Removed (r : MoveRun ρ σ) (n : Nat) (k : Key) (e : Entry) : Prop :=
  held (r.state n).2 k = some e ∧ held (r.state (n + 1)).2 k = none

/-- Nothing but a removal takes a static entry away. -/
def StaticStays (r : MoveRun ρ σ) : Prop :=
  ∀ (j : Nat) (k : Key) (f : FlightId) (e : Entry),
    Commits r k j f e → (kept σ e).revalidate = .never → ∀ i, j < i → i ≤ r.length →
      held (r.state i).2 k = some (kept σ e) ∨
        ∃ n, j < n ∧ n < i ∧ Removed r n k (kept σ e)

/-- **The invariant** from the event `j` on, at which the entry `e` is stored. -/
structure StaticPhase (r : MoveRun ρ σ) (j : Nat) (k : Key) (e : Entry) (i : Nat) : Prop where
  /-- the entry is held -/
  holds : held (r.state i).2 k = some e
  /-- a call that has read an entry of this generation has read this one, or had read before -/
  calls : ∀ ⦃c : TaskId⦄ ⦃x : ρ⦄ ⦃e' : Entry⦄,
    (r.state i).1.tasks[c]? = some (.call k x (.read (some e'))) → e'.generation = e.generation →
    e' = e ∨ (r.state (j + 1)).1.tasks[c]? = some (.call k x (.read (some e')))
  /-- a flight that was started for this generation was led by a late call -/
  flights : ∀ ⦃f : FlightId⦄ ⦃x : ρ⦄ ⦃p : Flight⦄,
    (r.state i).1.tasks[f]? = some (.flight k (some e.generation) x p) →
    (Task.flight k (some e.generation) x p).isOver = false → ∃ n < i, LedLate r j n k e f x

variable {r : MoveRun ρ σ} {i j : Nat} {k : Key} {e : Entry} {f : FlightId}

/-- What has just been stored is held, and its own flight is the only one under way. -/
theorem Commits.staticPhase (hc : Commits r k j f e)
    (hs : ∀ i ≤ r.length, Standing (r.state i).1 (r.state i).2) :
    StaticPhase r j k (kept σ e) (j + 1) := by
  have hj := hc.lt
  obtain ⟨o, x, hf, hf'⟩ := hc.writes
  have hstanding := hs j (Nat.le_of_lt hj)
  obtain ⟨out, now, rfl⟩ := hstanding.rendered hf .committing
  refine ⟨?_, fun c y e' hread _ => .inr hread, ?_⟩
  · obtain hf₀ | ⟨-, fault, -, ha⟩ := (Transition.of_moved (r.step j hj)).committed hf'
    · cases hf.symm.trans hf₀
    · obtain ⟨-, -, -, -, htakes⟩ := ask_put_stored hstanding.valid ha
      have hheld := htakes.1
      rw [key_kept, key_entryOf] at hheld
      exact hheld
  · intro g y p hg hover
    obtain rfl : g = f := (hs (j + 1) hj).oneFlight.unique
      (flying_iff.mpr ⟨_, y, p, hg, hover⟩) (flying_of_getElem? hf' rfl)
    -- the flight that stores the entry was started for the generation before it
    have ho : o = some (kept σ (entryOf k o out now)).generation :=
      (Task.flight.inj (Option.some.inj (hf'.symm.trans hg))).2.1
    rw [generation_kept, generation_entryOf] at ho
    cases o with
    | none => cases ho
    | some g => exact absurd (Option.some.inj ho) (Nat.ne_of_lt (Nat.lt_succ_self g))

/-- A flight that comes to be started for the generation of a static entry was led late. -/
theorem StaticPhase.ledLate (h : StaticPhase r j k e i) (hji : j < i)
    (hnever : e.revalidate = .never) {m : Move ρ} (hm : r.event i = m) {c : TaskId} {x : ρ}
    {found : Option Entry} (hb : Boarding (r.state i).1 m c k x found f (r.state (i + 1)).1)
    (hnew : (r.state i).1.tasks[f]? = none)
    (hfound : found.map Entry.generation = some e.generation)
    (hf : (r.state (i + 1)).1.tasks[f]? = some (.flight k (some e.generation) x .checking)) :
    LedLate r j i k e f x := by
  obtain ⟨e₀, rfl, hgen⟩ := Option.map_eq_some_iff.mp hfound
  obtain ⟨now, rfl, hn⟩ := hb.goes_on
  have hexpires : e₀.revalidate ≠ .never :=
    fun h₀ => hn (Policy.classify_of_never _ h₀ now)
  obtain rfl | hread := h.calls hb.read hgen
  · exact absurd hnever hexpires
  · exact ⟨hji, ⟨c, now, e₀, hm, hread, hgen, hexpires⟩, hnew, hf⟩

/-- **One event** keeps a static entry, or it is removed, or a flight replaces it that was led
late. -/
theorem StaticPhase.succ (h : StaticPhase r j k e i) (hji : j < i) (hi : i < r.length)
    (hs : Standing (r.state i).1 (r.state i).2) (hnever : e.revalidate = .never) :
    StaticPhase r j k e (i + 1) ∨ Removed r i k e ∨ ReplacedLate r j i k e := by
  have ht := Transition.of_moved (r.step i hi)
  rcases ht.stays_or hs h.holds with hstays | hleaves | ⟨f, x, e', hf, hm, hwritten⟩
  · refine .inl ⟨hstays, ?_, ?_⟩
    · intro c x e' hc hgen
      obtain hc₀ | hfound := ht.read hs.valid hc
      · exact h.calls hc₀ hgen
      · exact .inl (Option.some.inj (hfound.trans h.holds))
    · intro f x p hf hover
      obtain ⟨p₀, hf₀, hover₀⟩ | ⟨hnone, rfl, c, found, hb, hfound⟩ := ht.underWay hf hover
      · obtain ⟨n, hn, hled⟩ := h.flights hf₀ hover₀
        exact ⟨n, by omega, hled⟩
      · exact ⟨i, Nat.lt_succ_self i, h.ledLate hji hnever rfl hb hnone hfound.symm hf⟩
  · exact .inr (.inl ⟨h.holds, hleaves⟩)
  · obtain ⟨n, hn, hled⟩ := h.flights hf rfl
    exact .inr (.inr ⟨h.holds, f, x, e', n, hn, hled, hm, hwritten⟩)

/-- **A static entry stays**: at each later position it is held, unless it has been removed by then,
or been replaced by a flight that was led late. -/
theorem static_entry_stays (r : MoveRun ρ σ) (policy : Policy) (renderTimeout : Duration)
    (h₀ : (r.state 0).1 = new policy renderTimeout) (hv : Valid (r.state 0).2)
    (hc : Commits r k j f e) (hnever : (kept σ e).revalidate = .never) :
    ∀ i, j < i → i ≤ r.length →
      held (r.state i).2 k = some (kept σ e) ∨
        ∃ n, j < n ∧ n < i ∧ (Removed r n k (kept σ e) ∨ ReplacedLate r j n k (kept σ e)) := by
  have hs := r.standing h₀ hv
  have hphase : ∀ i, j < i → i ≤ r.length → StaticPhase r j k (kept σ e) i ∨
      ∃ n, j < n ∧ n < i ∧ (Removed r n k (kept σ e) ∨ ReplacedLate r j n k (kept σ e)) := by
    intro i hji
    induction i, hji using Nat.le_induction with
    | base => exact fun _ => .inl (hc.staticPhase hs)
    | succ i hji ih =>
      intro hi
      rcases ih (by omega) with h | ⟨n, hjn, hni, hend⟩
      · rcases h.succ hji (by omega) (hs i (by omega)) hnever with h' | hend
        · exact .inl h'
        · exact .inr ⟨i, hji, Nat.lt_succ_self i, hend⟩
      · exact .inr ⟨n, hjn, by omega, hend⟩
  intro i hji hi
  rcases hphase i hji hi with h | hend
  · exact .inl h.holds
  · exact .inr hend

/-- A lookup reads a stale page. Before it gets to its dispatch, the page is removed and another
lookup brings it back as a static page, with the first generation again. The flight that the first
lookup leads takes the static page for the one it is to regenerate. -/
def lateForStatic : List (Move Nat) :=
  [.lookup ⟨"home"⟩ 1, .storeCall 0 (.get ⟨"home"⟩) none, .proceed 0 .epoch,
    .storeCall 1 (.get ⟨"home"⟩) none, .proceed 1 .epoch, .render 1 (.output stalePage) .epoch,
    .storeCall 1 (.put (entryOf ⟨"home"⟩ none stalePage .epoch) none) none,
    .proceed 1 .epoch, .proceed 1 .epoch, .proceed 0 .epoch,
    .lookup ⟨"home"⟩ 2, .storeCall 2 (.get ⟨"home"⟩) none,
    .invalidateKey ⟨"home"⟩, .storeCall 3 (.delete ⟨"home"⟩) none, .proceed 3 .epoch,
    .lookup ⟨"home"⟩ 3, .storeCall 4 (.get ⟨"home"⟩) none, .proceed 4 .epoch,
    .storeCall 5 (.get ⟨"home"⟩) none, .proceed 5 .epoch, .render 5 (.output homePage) .epoch,
    .storeCall 5 (.put (entryOf ⟨"home"⟩ none homePage .epoch) none) none,
    .proceed 5 .epoch, .proceed 5 .epoch, .proceed 4 .epoch,
    .proceed 2 .epoch,
    .storeCall 6 (.get ⟨"home"⟩) none, .proceed 6 .epoch, .render 6 (.output stalePage) .epoch,
    .storeCall 6 (.put (entryOf ⟨"home"⟩ (some 1) stalePage .epoch) (some 1)) none,
    .proceed 6 .epoch, .proceed 6 .epoch]

/-- The run of these moves over an empty store. -/
def lateForStaticRun : MoveRun Nat MemoryStore :=
  .ofList (new ⟨none⟩ (.ofSecs 5), .unbounded) lateForStatic rfl

theorem static_entry_stays_until_late_write :
    Commits lateForStaticRun ⟨"home"⟩ 21 5 (entryOf ⟨"home"⟩ none homePage .epoch) ∧
      (held (lateForStaticRun.state 30).2 ⟨"home"⟩ =
          some (entryOf ⟨"home"⟩ none homePage .epoch) ∨
        ∃ n, 21 < n ∧ n < 30 ∧
          (Removed lateForStaticRun n ⟨"home"⟩ (entryOf ⟨"home"⟩ none homePage .epoch) ∨
            ReplacedLate lateForStaticRun 21 n ⟨"home"⟩
              (entryOf ⟨"home"⟩ none homePage .epoch))) := by
  have hc : Commits lateForStaticRun ⟨"home"⟩ 21 5 (entryOf ⟨"home"⟩ none homePage .epoch) :=
    ⟨by decide, none, 3, rfl, rfl⟩
  exact ⟨hc, static_entry_stays lateForStaticRun ⟨none⟩ (.ofSecs 5) rfl
    MemoryStore.distinct_unbounded hc rfl 30 (by decide) (by decide)⟩

/-- **A static entry can be replaced** without a removal, by a flight that was led late. -/
theorem static_entry_replaced :
    ∃ r : MoveRun Nat MemoryStore,
      r.state 0 = (new ⟨none⟩ (.ofSecs 5), .unbounded) ∧ ¬ StaticStays r := by
  refine ⟨lateForStaticRun, rfl, fun h => ?_⟩
  have hc : Commits lateForStaticRun ⟨"home"⟩ 21 5 (entryOf ⟨"home"⟩ none homePage .epoch) :=
    ⟨by decide, none, 3, rfl, rfl⟩
  have hstays : ∀ n < 31, 21 < n → held (lateForStaticRun.state n).2 ⟨"home"⟩ ≠ none := by
    decide +kernel
  rcases h 21 ⟨"home"⟩ 5 _ hc rfl 30 (by decide) (by decide) with hheld | ⟨n, hn, hlt, -, hgone⟩
  · have hreplaced : held (lateForStaticRun.state 30).2 ⟨"home"⟩ =
        some (entryOf ⟨"home"⟩ (some 1) stalePage .epoch) := rfl
    exact absurd (hreplaced.symm.trans hheld) (by decide +kernel)
  · exact hstays (n + 1) (by omega) (by omega) hgone

end MoveRun

end Scheduler

end PageCache
