import PageCache.Proofs.Scheduler.Progress
import PageCache.Proofs.TagIndex.OneKey

/-!
# One key of the scheduler

A scheduler serves all its keys at once, but it could serve one key alone. `s.CutTo k place s'` says
that `s'` is `s` cut down to the key `k`: it has the calls, the flights and the removals of the key,
in the same phases, and all sweeps, with what they have to do with the key.

* **numbers** — without the tasks of other keys, tasks have other numbers: `place` says which, and
  `Numbers` that it counts the tasks that concern the key;
* **sweeps** — while a sweep is at another key, its cut is where it was before, so `Purge.CutTo` and
  `Compaction.CutTo` each have a case for skipping; what a sweep counts is left open;
* **changes** — `CutTo.setTask`, `CutTo.spawn` and what follows: a change on both sides, or on the
  left alone.
-/

namespace PageCache

/-! ## Tasks -/

namespace Task

variable {ρ : Type}

/-- Whether a task is about the key, or about no key in particular. -/
def concerns (k : Key) : Task ρ → Bool
  | call j _ _ | flight j _ _ _ | removal j _ => j = k
  | _ => true

/-- Whether what a task is at now is about the key, or about no key in particular. -/
def isAt (k : Key) : Task ρ → Bool
  | purge (.answered _ _ _ j _) => j = k
  | compaction (.missing j _ _) => j = k
  | t => t.concerns k

end Task

/-- A call in a scheduler where tasks have other numbers. -/
def Call.renamed (place : TaskId → TaskId) : Call → Call
  | .waiting found f => .waiting found (place f)
  | p => p

theorem Call.renamed_boarded (place : TaskId → TaskId) (fr : Freshness) (found : Option Entry)
    (f : FlightId) : (Call.boarded fr found f).renamed place = .boarded fr found (place f) := by
  unfold Call.boarded
  cases found with
  | none => rfl
  | some e =>
    simp only
    split <;> rfl

/-- What is left of a purge of a tag when only one key is looked at. -/
inductive Purge.CutTo (k : Key) : Purge → Purge → Prop where
  /-- it goes over its keys -/
  | deleting {t due due' n n'} : due.CutTo k due' →
      CutTo k (.deleting t due n) (.deleting t due' n')
  /-- it has deleted the key -/
  | visiting {t due due' n n' removed} : due.CutTo k due' →
      CutTo k (.answered t due n k (.ok removed)) (.answered t due' n' k (.ok removed))
  /-- it has deleted another key -/
  | skipping {t due due' n n' j removed} : j ≠ k → due.CutTo k due' →
      CutTo k (.answered t due n j (.ok removed)) (.deleting t due' n')
  /-- it is over -/
  | finished {n n'} : CutTo k (.finished (.ok n)) (.finished (.ok n'))

/-- What is left of a survey of a tag when only one key is looked at. -/
inductive Survey.CutTo (k : Key) : Survey → Survey → Prop where
  /-- it goes over its keys -/
  | reading {t due due' live live'} : due.CutTo k due' → live.CutTo k live' →
      CutTo k (.reading t due live) (.reading t due' live')
  /-- it is over -/
  | finished {live live'} : live.CutTo k live' →
      CutTo k (.finished (.ok live)) (.finished (.ok live'))

/-- What is left of a compaction when only one key is looked at. -/
inductive Compaction.CutTo (k : Key) : Compaction → Compaction → Prop where
  /-- it goes over its keys -/
  | reading {due due' n n'} : due.CutTo k due' → CutTo k (.reading due n) (.reading due' n')
  /-- it has found the key missing -/
  | missing {due due' n n'} : due.CutTo k due' → CutTo k (.missing k due n) (.missing k due' n')
  /-- it has found another key missing -/
  | skipping {due due' n n' j} : j ≠ k → due.CutTo k due' →
      CutTo k (.missing j due n) (.reading due' n')
  /-- it is over -/
  | finished {n n'} : CutTo k (.finished (.ok n)) (.finished (.ok n'))

/-- What is left of a rebuild when only one key is looked at. -/
inductive Rebuild.CutTo (k : Key) : Rebuild → Rebuild → Prop where
  /-- it has still to list the keys -/
  | listing : CutTo k .listing .listing
  /-- it goes over the keys -/
  | reading {due built built'} : built.CutTo k built' →
      CutTo k (.reading due built) (.reading (due.filter (· = k)) built')
  /-- it is over -/
  | finished {n n'} : CutTo k (.finished (.ok n)) (.finished (.ok n'))

/-- What is left of a task when only one key is looked at. -/
inductive Task.CutTo {ρ : Type} (k : Key) (place : TaskId → TaskId) : Task ρ → Task ρ → Prop where
  /-- a call of the key waits for the same flight -/
  | call {x p} : CutTo k place (.call k x p) (.call k x (p.renamed place))
  /-- a flight of the key is the same -/
  | flight {o x p} : CutTo k place (.flight k o x p) (.flight k o x p)
  /-- a removal of the key is the same -/
  | removal {p} : CutTo k place (.removal k p) (.removal k p)
  /-- a purge -/
  | purge {p p'} : p.CutTo k p' → CutTo k place (.purge p) (.purge p')
  /-- a survey -/
  | survey {p p'} : p.CutTo k p' → CutTo k place (.survey p) (.survey p')
  /-- a compaction -/
  | compaction {c c'} : c.CutTo k c' → CutTo k place (.compaction c) (.compaction c')
  /-- a rebuild -/
  | rebuild {r r'} : r.CutTo k r' → CutTo k place (.rebuild r) (.rebuild r')

variable {k j : Key}

/-- Only tasks that concern the key have a cut. -/
theorem Task.CutTo.concerns {ρ : Type} {place : TaskId → TaskId} {t t' : Task ρ}
    (h : t.CutTo k place t') : t.concerns k = true := by
  cases h <;> simp [Task.concerns]

/-- A task and its cut are over at the same time, unless the task skips another key. -/
theorem Task.CutTo.isOver {ρ : Type} {place : TaskId → TaskId} {t t' : Task ρ}
    (h : t.CutTo k place t') : t'.isOver = t.isOver := by
  cases h with
  | @call x p => cases p <;> rfl
  | flight | removal => rfl
  | purge h | survey h | compaction h | rebuild h => cases h <;> rfl

/-! ## Visits of sweeps -/

theorem Survey.CutTo.mem_due {p p' : Survey} (h : p.CutTo k p') (hk : k ∈ p.due) : k ∈ p'.due := by
  cases h with
  | reading hdue _ => exact (hdue k).mpr ⟨rfl, hk⟩
  | finished _ => exact absurd hk (SortedSet.not_mem_empty k)

/-- Reading the key is the same for the cut. -/
theorem Survey.CutTo.visit {p p' q : Survey} {found : Option Entry} (h : p.CutTo k p')
    (hv : p.visit k (.ok found) = some q) :
    ∃ q', p'.visit k (.ok found) = some q' ∧ q.CutTo k q' := by
  cases h with
  | @reading t due due' live live' hdue hlive =>
    simp only [Survey.visit] at hv ⊢
    split at hv
    · rename_i hk
      rw [if_pos ((hdue k).mpr ⟨rfl, hk⟩)]
      cases hv
      refine ⟨_, rfl, ?_⟩
      cases found with
      | none => exact .reading hdue.erase hlive
      | some e =>
        by_cases ht : e.hasTag t = true
        · simp only [if_pos ht]
          exact .reading hdue.erase hlive.insert
        · simp only [if_neg ht]
          exact .reading hdue.erase hlive
    · cases hv
  | finished _ => cases hv

/-- Reading another key is nothing for the cut. -/
theorem Survey.CutTo.skip {p p' q : Survey} {found : Option Entry} (h : p.CutTo k p')
    (hj : j ≠ k) (hv : p.visit j (.ok found) = some q) : q.CutTo k p' := by
  cases h with
  | @reading t due due' live live' hdue hlive =>
    simp only [Survey.visit] at hv
    split at hv
    · cases hv
      cases found with
      | none => exact .reading (hdue.erase_of_ne hj) hlive
      | some e =>
        by_cases ht : e.hasTag t = true
        · simp only [if_pos ht]
          exact .reading (hdue.erase_of_ne hj) (hlive.insert_of_ne hj)
        · simp only [if_neg ht]
          exact .reading (hdue.erase_of_ne hj) hlive
    · cases hv
  | finished _ => cases hv

/-- A survey that ends ends for the cut. -/
theorem Survey.CutTo.proceed {p p' q : Survey} (h : p.CutTo k p') (hp : p.proceed = some q) :
    ∃ q', p'.proceed = some q' ∧ q.CutTo k q' := by
  cases h with
  | reading hdue hlive =>
    simp only [Survey.proceed] at hp ⊢
    split at hp
    · rename_i hempty
      rw [if_pos (hdue.isEmpty hempty)]
      cases hp
      exact ⟨_, rfl, .finished hlive⟩
    · cases hp
  | finished _ => cases hp

theorem Compaction.CutTo.mem_due {c c' : Compaction} (h : c.CutTo k c') (hk : k ∈ c.due) :
    k ∈ c'.due := by
  cases h with
  | reading hdue => exact (hdue k).mpr ⟨rfl, hk⟩
  | missing _ | skipping _ _ | finished => exact absurd hk (SortedSet.not_mem_empty k)

/-- Reading the key is the same for the cut. -/
theorem Compaction.CutTo.visit {c c' q : Compaction} {found : Option Entry} (h : c.CutTo k c')
    (hv : c.visit k (.ok found) = some q) :
    ∃ q', c'.visit k (.ok found) = some q' ∧ q.CutTo k q' := by
  cases h with
  | reading hdue =>
    simp only [Compaction.visit] at hv ⊢
    split at hv
    · rename_i hk
      rw [if_pos ((hdue k).mpr ⟨rfl, hk⟩)]
      cases hv
      refine ⟨_, rfl, ?_⟩
      cases found with
      | none => exact .missing hdue.erase
      | some e => exact .reading hdue.erase
    · cases hv
  | missing _ | skipping _ _ | finished => cases hv

/-- Reading another key is nothing for the cut. -/
theorem Compaction.CutTo.skip {c c' q : Compaction} {found : Option Entry} (h : c.CutTo k c')
    (hj : j ≠ k) (hv : c.visit j (.ok found) = some q) : q.CutTo k c' := by
  cases h with
  | reading hdue =>
    simp only [Compaction.visit] at hv
    split at hv
    · cases hv
      cases found with
      | none => exact .skipping hj (hdue.erase_of_ne hj)
      | some e => exact .reading (hdue.erase_of_ne hj)
    · cases hv
  | missing _ | skipping _ _ | finished => cases hv

/-- A listing is the same for the cut, with the one key. -/
theorem Rebuild.CutTo.listed {r r' q : Rebuild} {keys : List Key} (h : r.CutTo k r')
    (hl : r.listed (.ok keys) = some q) :
    ∃ q', r'.listed (.ok (keys.filter (· = k))) = some q' ∧ q.CutTo k q' := by
  cases h with
  | listing =>
    cases hl
    exact ⟨_, rfl, .reading (TagIndex.cutTo_empty k)⟩
  | reading _ | finished => cases hl

/-- Reading the key is the same for the cut. -/
theorem Rebuild.CutTo.visit {due : List Key} {built : TagIndex} {r' q : Rebuild}
    {found : Option Entry} (h : (Rebuild.reading (k :: due) built).CutTo k r')
    (hv : (Rebuild.reading (k :: due) built).visit (.ok found) = some q) :
    ∃ due' built' q', r' = .reading (k :: due') built' ∧ r'.visit (.ok found) = some q' ∧
      q.CutTo k q' := by
  cases h with
  | @reading _ _ built' hbuilt =>
    have hdue : (k :: due).filter (· = k) = k :: due.filter (· = k) := by simp
    rw [hdue]
    cases found with
    | none =>
      cases hv
      exact ⟨_, _, _, rfl, rfl, .reading hbuilt⟩
    | some e =>
      cases hv
      exact ⟨_, _, _, rfl, rfl, .reading (hbuilt.addEntry e.tags)⟩

/-- Reading another key is nothing for the cut. -/
theorem Rebuild.CutTo.skip {due : List Key} {built : TagIndex} {r' q : Rebuild}
    {found : Option Entry} (h : (Rebuild.reading (j :: due) built).CutTo k r') (hj : j ≠ k)
    (hv : (Rebuild.reading (j :: due) built).visit (.ok found) = some q) : q.CutTo k r' := by
  cases h with
  | @reading _ _ built' hbuilt =>
    have hdue : (j :: due).filter (· = k) = due.filter (· = k) := by simp [hj]
    rw [hdue]
    cases found with
    | none =>
      cases hv
      exact .reading hbuilt
    | some e =>
      cases hv
      exact .reading (hbuilt.addEntry_of_ne hj e.tags)

namespace Scheduler

variable {ρ : Type} {place : TaskId → TaskId} {s s' : Scheduler ρ} {i id : TaskId}
  {t t' u u' : Task ρ}

/-! ## Numbers -/

/-- The number counts the tasks before that concern the key. -/
def Numbers (k : Key) (place : TaskId → TaskId) (s : Scheduler ρ) : Prop :=
  ∀ ⦃i : TaskId⦄ ⦃t : Task ρ⦄, s.tasks[i]? = some t →
    place (i + 1) = place i + if t.concerns k then 1 else 0

theorem Numbers.le (h : Numbers k place s) (hij : i ≤ id) (hid : id ≤ s.tasks.length) :
    place i ≤ place id := by
  induction id, hij using Nat.le_induction with
  | base => exact Nat.le_refl _
  | succ n _ ih =>
    rw [h (List.getElem?_eq_getElem hid)]
    exact Nat.le_add_right_of_le (ih (Nat.le_of_succ_le hid))

/-- Tasks that concern the key have different numbers. -/
theorem Numbers.ne (h : Numbers k place s) (hi : s.tasks[i]? = some t)
    (hid : s.tasks[id]? = some u) (ht : t.concerns k = true) (hu : u.concerns k = true)
    (hne : i ≠ id) : place i ≠ place id := by
  have hlt {a b : TaskId} {v w : Task ρ} (ha : s.tasks[a]? = some v) (hb : s.tasks[b]? = some w)
      (hv : v.concerns k = true) (hab : a < b) : place a < place b := by
    have hle := h.le (show a + 1 ≤ b from hab) (Nat.le_of_lt (List.getElem?_eq_some_iff.mp hb).1)
    rw [h ha, if_pos hv] at hle
    exact hle
  rcases Nat.lt_or_gt_of_ne hne with hi' | hi'
  · exact Nat.ne_of_lt (hlt hi hid ht hi')
  · exact Nat.ne_of_gt (hlt hid hi hu hi')

/-! ## The scheduler -/

/-- The scheduler `s'` is `s` cut down to the key. -/
structure CutTo (k : Key) (place : TaskId → TaskId) (s s' : Scheduler ρ) : Prop where
  /-- entries age in the same way -/
  policy : s'.policy = s.policy
  /-- renders may take as long -/
  renderTimeout : s'.renderTimeout = s.renderTimeout
  /-- it has the links of the key -/
  index : s.index.CutTo k s'.index
  /-- it has the record of the key -/
  flights : ∀ j, s'.flights.records.get? j =
    if j = k then (s.flights.records.get? k).map place else none
  /-- the next task has the next number -/
  size : s'.tasks.length = place s.tasks.length
  /-- it has the tasks that concern the key -/
  task : ∀ ⦃i : TaskId⦄ ⦃t : Task ρ⦄, s.tasks[i]? = some t → t.concerns k = true →
    ∃ t', s'.tasks[place i]? = some t' ∧ t.CutTo k place t'

theorem cutTo_new (k : Key) (policy : Policy) (renderTimeout : Duration) (h : place 0 = 0) :
    CutTo k place (new policy renderTimeout : Scheduler ρ) (new policy renderTimeout) where
  policy := rfl
  renderTimeout := rfl
  index := TagIndex.cutTo_empty k
  flights j := by
    show (∅ : SortedMap Key FlightId).get? j = if _ then (SortedMap.get? ∅ k).map place else none
    simp
  size := h.symm
  task i t ht := by cases ht

/-- The index changes in both. -/
theorem CutTo.withIndex (h : CutTo k place s s') {x x' : TagIndex} (hx : x.CutTo k x') :
    CutTo k place { s with index := x } { s' with index := x' } :=
  ⟨h.policy, h.renderTimeout, hx, h.flights, h.size, h.task⟩

/-- What is counted makes no difference. -/
theorem CutTo.withMetrics (h : CutTo k place s s') (metrics metrics' : Metrics) :
    CutTo k place { s with metrics } { s' with metrics := metrics' } :=
  ⟨h.policy, h.renderTimeout, h.index, h.flights, h.size, h.task⟩

/-- The flights change in both. -/
theorem CutTo.withFlights (h : CutTo k place s s') {x x' : FlightTable}
    (hx : ∀ j, x'.records.get? j = if j = k then (x.records.get? k).map place else none) :
    CutTo k place { s with flights := x } { s' with flights := x' } :=
  ⟨h.policy, h.renderTimeout, h.index, hx, h.size, h.task⟩

/-- A task changes in both. -/
theorem CutTo.setTask (h : CutTo k place s s') (hn : Numbers k place s)
    (ht : s.tasks[id]? = some t) (hc : t.concerns k = true) (hu : u.CutTo k place u') :
    CutTo k place (s.setTask id u) (s'.setTask (place id) u') where
  policy := h.policy
  renderTimeout := h.renderTimeout
  index := h.index
  flights := h.flights
  size := by simpa using h.size
  task i v hv hcv := by
    obtain ⟨t', ht', -⟩ := h.task ht hc
    rw [getElem?_setTask ht] at hv
    rw [getElem?_setTask ht']
    by_cases hi : i = id
    · subst hi
      rw [if_pos rfl] at hv
      cases hv
      exact ⟨u', if_pos rfl, hu⟩
    · rw [if_neg hi] at hv
      rw [if_neg (hn.ne hv ht hcv hc hi)]
      exact h.task hv hcv

/-- A task changes, and its cut does not. -/
theorem CutTo.setTask_left (h : CutTo k place s s') (ht : s.tasks[id]? = some t)
    (hu : u.concerns k = true → t.concerns k = true ∧
      ∀ t', t.CutTo k place t' → u.CutTo k place t') :
    CutTo k place (s.setTask id u) s' where
  policy := h.policy
  renderTimeout := h.renderTimeout
  index := h.index
  flights := h.flights
  size := by simpa using h.size
  task i v hv hcv := by
    rw [getElem?_setTask ht] at hv
    by_cases hi : i = id
    · subst hi
      rw [if_pos rfl] at hv
      cases hv
      obtain ⟨hc, hcut⟩ := hu hcv
      obtain ⟨t', ht', hT⟩ := h.task ht hc
      exact ⟨t', ht', hcut t' hT⟩
    · rw [if_neg hi] at hv
      exact h.task hv hcv

/-- A task of another key changes. -/
theorem CutTo.setTask_other (h : CutTo k place s s') (ht : s.tasks[id]? = some t)
    (hu : u.concerns k = false) : CutTo k place (s.setTask id u) s' := by
  refine h.setTask_left ht fun hc => ?_
  rw [hu] at hc
  cases hc

/-- A task comes in both. -/
theorem CutTo.spawn (h : CutTo k place s s') (hn : Numbers k place (s.spawn u))
    (hu : u.CutTo k place u') : CutTo k place (s.spawn u) (s'.spawn u') where
  policy := h.policy
  renderTimeout := h.renderTimeout
  index := h.index
  flights := h.flights
  size := by
    have hlast := hn (i := s.tasks.length) ((getElem?_spawn s u _).trans (if_pos rfl))
    rw [if_pos hu.concerns] at hlast
    simp [hlast, h.size]
  task i v hv hcv := by
    rw [getElem?_spawn]
    obtain ⟨rfl, rfl⟩ | hv := of_getElem?_spawn hv
    · exact ⟨u', if_pos h.size.symm, hu⟩
    · obtain ⟨v', hv', hcut⟩ := h.task hv hcv
      have hlt := (List.getElem?_eq_some_iff.mp hv').1
      rw [if_neg (Nat.ne_of_lt hlt)]
      exact ⟨v', hv', hcut⟩

/-- A task comes that is of another key. -/
theorem CutTo.spawn_left (h : CutTo k place s s') (hn : Numbers k place (s.spawn u))
    (hu : u.concerns k = false) : CutTo k place (s.spawn u) s' where
  policy := h.policy
  renderTimeout := h.renderTimeout
  index := h.index
  flights := h.flights
  size := by
    have hlast := hn (i := s.tasks.length) ((getElem?_spawn s u _).trans (if_pos rfl))
    simp only [hu, Bool.false_eq_true, if_false, Nat.add_zero] at hlast
    simp [hlast, h.size]
  task i v hv hcv := by
    obtain ⟨rfl, rfl⟩ | hv := of_getElem?_spawn hv
    · rw [hu] at hcv
      cases hcv
    · exact h.task hv hcv

/-- A flight of the key has its result in both. -/
theorem CutTo.flightResult? (h : CutTo k place s s') {f : FlightId} {o : Option Generation} {x : ρ}
    {result : Except LookupError Entry}
    (hf : s.tasks[f]? = some (.flight k o x (.finished result))) :
    s'.flightResult? (place f) = some result := by
  obtain ⟨t', ht', hcut⟩ := h.task hf (by simp [Task.concerns])
  cases hcut
  exact flightResult?_eq_some_iff.mpr ⟨k, o, x, ht'⟩

end Scheduler

end PageCache
