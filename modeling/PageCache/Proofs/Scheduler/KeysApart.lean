import PageCache.Proofs.Scheduler.Apart
import PageCache.Proofs.Scheduler.LinkedTags

/-!
# Keys apart

Keys share the tag index, the table of flights and the sweeps, and still none of them can tell
whether there are others. Take a run over a memory store without a limit that does not fail, and
leave out what is of other keys: their lookups, their flights, their removals, and the visits of
sweeps to them. What remains (`remaining`) is a run again, and at each position it is as the whole
run as far as the key is concerned (`Alike`): the same entry is stored, the key has the same tags
and the same flight, and every call of it is in the same phase, or has the same result.
-/

namespace PageCache

open LawfulStore

/-- The key that a call, a flight or a removal is of. -/
def Task.key? {ρ : Type} : Task ρ → Option Key
  | call k _ _ | flight k _ _ _ | removal k _ => some k
  | _ => none

namespace Scheduler

namespace EventRun

variable {ρ : Type}

/-- The number that a task has among those that concern the key. -/
def place (r : EventRun ρ MemoryStore) (k : Key) (i : TaskId) : TaskId :=
  ((r.state r.length).1.tasks.take i).countP (·.concerns k)

/-- What remains of the first events of a run when those of other keys are left out. -/
def remaining (r : EventRun ρ MemoryStore) (k : Key) (n : Nat) : List (Event ρ) :=
  (List.range n).filterMap fun i =>
    if (r.event i).isOf k (r.state i).1 then some ((r.event i).renamed (r.place k)) else none

/-- Two states that are the same as far as the key is concerned, when tasks have other numbers in
the second one. -/
structure Alike (k : Key) (place : TaskId → TaskId) (y y' : Scheduler ρ × MemoryStore) : Prop where
  /-- the same entry is stored -/
  entry : y'.2.find k = y.2.find k
  /-- the key has the same tags -/
  tags : y'.1.index.tagsForKey k = y.1.index.tagsForKey k
  /-- the same tags have the key -/
  linked : ∀ t, y'.1.index.Linked t k ↔ y.1.index.Linked t k
  /-- the same flight is on record -/
  record : y'.1.flights.records.get? k = (y.1.flights.records.get? k).map place
  /-- every call is in the same phase, or has the same result -/
  call : ∀ (c : TaskId) x p, y.1.tasks[c]? = some (.call k x p) →
    y'.1.tasks[place c]? = some (.call k x (p.renamed place))
  /-- every flight is in the same phase, or has the same result -/
  flight : ∀ (f : FlightId) o x p, y.1.tasks[f]? = some (.flight k o x p) →
    y'.1.tasks[place f]? = some (.flight k o x p)
  /-- every removal is in the same phase, or has the same result -/
  removal : ∀ (i : TaskId) p, y.1.tasks[i]? = some (.removal k p) →
    y'.1.tasks[place i]? = some (.removal k p)

/-- **Keys apart.** -/
structure KeysApart (r : EventRun ρ MemoryStore) (k : Key) : Prop where
  /-- no event of a task of the key is left out -/
  whole : ∀ i < r.length, ∀ (id : TaskId) t, (r.event i).actor? = some id →
    (r.state i).1.tasks[id]? = some t → t.key? = some k → (r.event i).isOf k (r.state i).1 = true
  /-- all events of tasks of other keys are left out -/
  alone : ∀ i < r.length, ∀ (id : TaskId) t j, (r.event i).actor? = some id →
    (r.state i).1.tasks[id]? = some t → t.key? = some j → j ≠ k →
    (r.event i).isOf k (r.state i).1 = false
  /-- what remains is a run, and leads to where the key is as in the whole run -/
  remains : ∀ n ≤ r.length, ∃ y,
    (r.remaining k n).foldlM happen ((r.state 0).1, (r.state 0).2.only k) = some y ∧
      Alike k (r.place k) (r.state n) y

/-! ## What remains -/

variable {r : EventRun ρ MemoryStore} {k : Key} {n : Nat}

theorem remaining_succ_of_isOf (h : (r.event n).isOf k (r.state n).1 = true) :
    r.remaining k (n + 1) = r.remaining k n ++ [(r.event n).renamed (r.place k)] := by
  simp [remaining, List.range_succ, h]

theorem remaining_succ_of_not_isOf (h : (r.event n).isOf k (r.state n).1 = false) :
    r.remaining k (n + 1) = r.remaining k n := by
  simp [remaining, List.range_succ, h]

/-- The numbers of tasks count those that concern the key, all along the run. -/
theorem numbers_place (r : EventRun ρ MemoryStore) (k : Key) (hn : n ≤ r.length) :
    Numbers k (r.place k) (r.state n).1 := by
  have hlast : Numbers k (r.place k) (r.state r.length).1 := by
    intro i t ht
    have hlt := (List.getElem?_eq_some_iff.mp ht).1
    simp only [place, List.take_add_one, ht, List.countP_append, Option.toList_some,
      List.countP_singleton]
  refine hlast.of_concerns ?_
  refine r.stays (P := fun y => ∀ ⦃i : TaskId⦄ ⦃t : Task ρ⦄, (r.state n).1.tasks[i]? = some t →
    ∃ u, y.1.tasks[i]? = some u ∧ u.concerns k = t.concerns k) ?_ ?_ r.length hn (Nat.le_refl _)
  · intro i t ht
    exact ⟨t, ht, rfl⟩
  · intro j _ hj hP i t ht
    obtain ⟨u, hu, huc⟩ := hP ht
    obtain ⟨v, hv, hvc⟩ := (Occurs.of_happen (r.step j hj)).concerns hu k
    exact ⟨v, hv, hvc.trans huc⟩

/-- The store has no limit, all along the run. -/
theorem capacity_eq_none (r : EventRun ρ MemoryStore) (h : (r.state 0).2.capacity = none) :
    ∀ i ≤ r.length, (r.state i).2.capacity = none := by
  refine r.invariant (P := fun y => y.2.capacity = none) h ?_
  intro y e y' he hy
  exact (capacity_of_happen he).trans hy

/-- A scheduler and its cut are the same as far as the key is concerned. -/
theorem alike_of_cutTo {place : TaskId → TaskId} {s s' : Scheduler ρ} (h : CutTo k place s s')
    (st : MemoryStore) : Alike k place (s, st) (s', st.only k) where
  entry := st.find_only_self k
  tags := h.index.tagsForKey
  linked t := h.index.linked.trans (and_iff_right rfl)
  record := (h.flights k).trans (if_pos rfl)
  call c x p hc := by
    obtain ⟨t', ht', hcut⟩ := h.task hc (by simp [Task.concerns])
    cases hcut
    exact ht'
  flight f o x p hf := by
    obtain ⟨t', ht', hcut⟩ := h.task hf (by simp [Task.concerns])
    cases hcut
    exact ht'
  removal i p hi := by
    obtain ⟨t', ht', hcut⟩ := h.task hi (by simp [Task.concerns])
    cases hcut
    exact ht'

/-- **A whole run.** What remains leads to the cut, up to each position. -/
theorem exists_cutTo (hs : ∀ i ≤ r.length, Standing (r.state i).1 (r.state i).2)
    (hcap : ∀ i ≤ r.length, (r.state i).2.capacity = none)
    (hf : ∀ i < r.length, (r.event i).fails = false)
    (h₀ : CutTo k (r.place k) (r.state 0).1 (r.state 0).1) (hn : n ≤ r.length) :
    ∃ s', (r.remaining k n).foldlM happen ((r.state 0).1, (r.state 0).2.only k) =
        some (s', (r.state n).2.only k) ∧
      CutTo k (r.place k) (r.state n).1 s' := by
  induction n with
  | zero => exact ⟨_, rfl, h₀⟩
  | succ n ih =>
    obtain ⟨s', hrun, hcut⟩ := ih (by omega)
    have hnumbers := r.numbers_place k hn
    cases hof : (r.event n).isOf k (r.state n).1 with
    | true =>
      obtain ⟨s₁', hhappen, hcut'⟩ := happen_kept (r.step n hn) hcut (hs n (by omega))
        (hcap n (by omega)) hnumbers (hf n hn) hof
      refine ⟨s₁', ?_, hcut'⟩
      rw [remaining_succ_of_isOf hof, List.foldlM_append, hrun]
      simpa using hhappen
    | false =>
      obtain ⟨hcut', hstore⟩ := happen_skipped (r.step n hn) hcut (hs n (by omega))
        (hcap n (by omega)) hnumbers (hf n hn) hof
      refine ⟨s', ?_, hcut'⟩
      rw [remaining_succ_of_not_isOf hof, hrun, hstore]

/-- A task of a key calls the store for the key only. -/
theorem isFor_of_mem_storeCalls {t : Task ρ} {call : StoreCall} (hkey : t.key? = some k)
    (hcall : call ∈ t.storeCalls) (id : TaskId) (fault : Option StoreError) :
    (Move.storeCall id call fault : Move ρ).isFor k = true := by
  cases t with
  | call j x p | flight j o x p | removal j p =>
    cases hkey
    cases p <;> simp [Task.storeCalls] at hcall <;> simp [hcall, Move.isFor]
  | _ => cases hkey

/-- An event of a task of the key is of the key. -/
theorem isOf_of_key {y y' : Scheduler ρ × MemoryStore} {e : Event ρ} {id : TaskId} {t : Task ρ}
    (he : happen y e = some y') (hactor : e.actor? = some id) (ht : y.1.tasks[id]? = some t)
    (hkey : t.key? = some k) : e.isOf k y.1 = true := by
  have hat : t.isAt k = true := by
    cases t <;> cases hkey <;> simp [Task.isAt, Task.concerns]
  cases e with
  | breakDown i message => simp [Event.isOf, hactor, ht, hat]
  | move m =>
    rw [Event.isOf_move hactor ht, hat, Bool.and_true]
    cases m with
    | storeCall i call fault =>
      cases hactor
      obtain ⟨t', ht', hcall⟩ := mem_storeCalls_of_step he
      cases ht.symm.trans ht'
      exact isFor_of_mem_storeCalls hkey hcall id fault
    | lookup j x => cases hactor
    | invalidateKey j => cases hactor
    | _ => rfl

/-- An event of a task of another key is not of the key. -/
theorem not_isOf_of_key {s : Scheduler ρ} {e : Event ρ} {id : TaskId} {t : Task ρ} {j : Key}
    (hactor : e.actor? = some id) (ht : s.tasks[id]? = some t) (hkey : t.key? = some j)
    (hj : j ≠ k) : e.isOf k s = false := by
  have hat : t.isAt k = false := by
    cases t <;> cases hkey <;> simp [Task.isAt, Task.concerns, hj]
  simp [Event.isOf, hactor, ht, hat]

/-! ## The main result -/

/-- **Keys apart.** Over a memory store without a limit that does not fail, a key is as if there
were no others. -/
theorem keys_apart (r : EventRun ρ MemoryStore) (policy : Policy) (renderTimeout : Duration)
    (h₀ : (r.state 0).1 = new policy renderTimeout) (hv : Valid (r.state 0).2)
    (hroom : (r.state 0).2.capacity = none) (hf : ∀ i < r.length, (r.event i).fails = false)
    (k : Key) : KeysApart r k where
  whole i hi id t hactor ht hkey := isOf_of_key (r.step i hi) hactor ht hkey
  alone i hi id t j hactor ht hkey hj := not_isOf_of_key hactor ht hkey hj
  remains n hn := by
    have hcut : CutTo k (r.place k) (r.state 0).1 (r.state 0).1 := by
      rw [h₀]
      exact cutTo_new k policy renderTimeout rfl
    obtain ⟨s', hrun, hcut'⟩ :=
      exists_cutTo (r.standing h₀ hv) (r.capacity_eq_none hroom) hf hcut hn
    exact ⟨_, hrun, alike_of_cutTo hcut' _⟩

/-- Two pages are looked up together and get the same tag, and a purge of the tag deletes both. -/
def sharedTag : List (Event Nat) :=
  [.move (.lookup ⟨"home"⟩ 1), .move (.lookup ⟨"about"⟩ 2),
    .move (.storeCall 1 (.get ⟨"about"⟩) none), .move (.storeCall 0 (.get ⟨"home"⟩) none),
    .move (.proceed 1 .epoch), .move (.proceed 0 .epoch),
    .move (.storeCall 2 (.get ⟨"about"⟩) none), .move (.storeCall 3 (.get ⟨"home"⟩) none),
    .move (.proceed 3 .epoch), .move (.proceed 2 .epoch),
    .move (.render 2 (.output newsPage) .epoch), .move (.render 3 (.output newsPage) .epoch),
    .move (.storeCall 2 (.put (entryOf ⟨"about"⟩ none newsPage .epoch) none) none),
    .move (.storeCall 3 (.put (entryOf ⟨"home"⟩ none newsPage .epoch) none) none),
    .move (.proceed 2 .epoch), .move (.proceed 3 .epoch), .move (.proceed 2 .epoch),
    .move (.proceed 3 .epoch), .move (.proceed 1 .epoch), .move (.proceed 0 .epoch),
    .move (.invalidateTag "news"), .move (.storeCall 4 (.delete ⟨"about"⟩) none),
    .move (.proceed 4 .epoch), .move (.storeCall 4 (.delete ⟨"home"⟩) none),
    .move (.proceed 4 .epoch), .move (.proceed 4 .epoch)]

/-- The run of these events over an empty store. -/
def sharedTagRun : EventRun Nat MemoryStore :=
  .ofList (new ⟨none⟩ (.ofSecs 5), .unbounded) sharedTag rfl

/-- Without the other page, half of the events remain, and the purge deletes the one page. -/
theorem keys_apart_shared_tag :
    KeysApart sharedTagRun ⟨"home"⟩ ∧ sharedTagRun.length = 26 ∧
      (sharedTagRun.remaining ⟨"home"⟩ 26).length = 14 ∧
      (sharedTagRun.state 20).2.find ⟨"home"⟩ = some (entryOf ⟨"home"⟩ none newsPage .epoch) ∧
      (sharedTagRun.state 26).2.find ⟨"home"⟩ = none := by
  have hf : ∀ i < sharedTagRun.length, (sharedTagRun.event i).fails = false := by decide +kernel
  exact ⟨keys_apart sharedTagRun ⟨none⟩ (.ofSecs 5) rfl MemoryStore.distinct_unbounded rfl hf _,
    rfl, by decide +kernel, rfl, rfl⟩

end EventRun

end Scheduler

end PageCache
