import PageCache.Proofs.Scheduler.OneKey
import PageCache.Proofs.Scheduler.Moves
import PageCache.Proofs.Scheduler.Standing
import PageCache.Proofs.Store.OneKey

/-!
# One step for one key

An event is of a key if it is about the key, or about no key in particular (`Event.isOf`). Over a
memory store without a limit that does not fail, a scheduler and its cut to a key go together:

* **kept** — an event of the key happens in the cut too, under its other number, and leads to the
  cut of what it leads to (`Transition.kept_in_cut`, `happen_kept`);
* **skipped** — any other event leaves the cut as it is (`Transition.skipped`, `happen_skipped`).
-/

namespace PageCache

/-- Whether a move names the key, or no key. -/
def Move.isFor {ρ : Type} (k : Key) : Move ρ → Bool
  | .lookup j _ | .invalidateKey j => j = k
  | .storeCall _ (.get j) _ | .storeCall _ (.delete j) _ => j = k
  | _ => true

/-- A move in a scheduler where tasks have other numbers. -/
def Move.renamed {ρ : Type} (place : TaskId → TaskId) : Move ρ → Move ρ
  | .storeCall id call fault => .storeCall (place id) call fault
  | .proceed id now => .proceed (place id) now
  | .render f ending now => .render (place f) ending now
  | .abandon id => .abandon (place id)
  | m => m

namespace Event

variable {ρ : Type}

/-- Whether an event is of the key: neither it nor what its task is at is about another key. -/
def isOf (k : Key) (s : Scheduler ρ) (e : Event ρ) : Bool :=
  (match e with
    | .move m => m.isFor k
    | .breakDown _ _ => true) &&
  match e.actor? with
    | some id => s.tasks[id]?.any (·.isAt k)
    | none => true

/-- Whether the store fails. -/
def fails : Event ρ → Bool
  | .move m => m.fails
  | .breakDown _ _ => false

/-- An event in a scheduler where tasks have other numbers. -/
def renamed (place : TaskId → TaskId) : Event ρ → Event ρ
  | .move m => .move (m.renamed place)
  | .breakDown id message => .breakDown (place id) message

/-- A move of a task is of the key if both are. -/
theorem isOf_move {s : Scheduler ρ} {k : Key} {m : Move ρ} {id : TaskId} {t : Task ρ}
    (hm : m.actor? = some id) (ht : s.tasks[id]? = some t) :
    (Event.move m).isOf k s = (m.isFor k && t.isAt k) := by
  simp [isOf, Event.actor?, hm, ht]

end Event

/-- What a task is at concerns the key only if the task does. -/
theorem Task.concerns_of_isAt {ρ : Type} {k : Key} {t : Task ρ} (h : t.isAt k = true) :
    t.concerns k = true := by
  cases t with
  | call _ _ _ | flight _ _ _ _ | removal _ _ => exact h
  | _ => rfl

namespace Scheduler

variable {ρ : Type}

/-! ## Answers of the store -/

section

variable {st st₁ : MemoryStore} {k j : Key}

/-- A call on the store that does not fail is answered by the store. -/
theorem fault_eq_none {id : TaskId} {call : StoreCall} {fault : Option StoreError}
    (h : (Move.storeCall id call fault : Move ρ).fails = false) : fault = none := by
  cases fault with
  | none => rfl
  | some e => cases h

theorem ask_get_only {answer : Except StoreError (Option Entry)}
    (h : ask none st (Store.get · k) = (answer, st₁)) :
    (∃ found, answer = .ok found) ∧
      ask none (st.only k) (Store.get · k) = (answer, st₁.only k) := by
  cases h
  refine ⟨⟨_, rfl⟩, ?_⟩
  show (Except.ok ((st.only k).get k).1, ((st.only k).get k).2) = _
  rw [st.get_only k]
  rfl

theorem ask_put_only {e : Entry} {o : Option Generation} {answer : Except StoreError PutOutcome}
    (hcap : st.capacity = none) (he : e.key = k)
    (h : ask none st (Store.put · e o) = (answer, st₁)) :
    ask none (st.only k) (Store.put · e o) = (answer, st₁.only k) := by
  cases h
  show (Except.ok ((st.only k).put e o).1, ((st.only k).put e o).2) = _
  rw [MemoryStore.put_only hcap he]
  rfl

theorem ask_delete_only {answer : Except StoreError Bool}
    (h : ask none st (Store.delete · k) = (answer, st₁)) :
    ask none (st.only k) (Store.delete · k) = (answer, st₁.only k) := by
  cases h
  show (Except.ok ((st.only k).delete k).1, ((st.only k).delete k).2) = _
  rw [st.delete_only k]
  rfl

theorem ask_list_only {answer : Except StoreError (List Key)} (k : Key)
    (h : ask none st (Store.list · "") = (answer, st₁)) :
    ∃ keys, answer = .ok keys ∧
      ask none (st.only k) (Store.list · "") = (.ok (keys.filter (· = k)), st₁.only k) := by
  cases h
  refine ⟨_, rfl, ?_⟩
  show (Except.ok ((st.only k).list ""), st.only k) = _
  rw [st.list_only k]

theorem only_of_ask_get {fault : Option StoreError} {answer : Except StoreError (Option Entry)}
    (hj : j ≠ k) (h : ask fault st (Store.get · j) = (answer, st₁)) : st₁.only k = st.only k := by
  cases fault with
  | none =>
    cases h
    exact st.only_get hj
  | some e =>
    cases h
    rfl

theorem only_of_ask_put {fault : Option StoreError} {e : Entry} {o : Option Generation}
    {answer : Except StoreError PutOutcome} (hcap : st.capacity = none) (he : e.key ≠ k)
    (h : ask fault st (Store.put · e o) = (answer, st₁)) : st₁.only k = st.only k := by
  cases fault with
  | none =>
    cases h
    exact st.only_put hcap he o
  | some e =>
    cases h
    rfl

theorem only_of_ask_delete {fault : Option StoreError} {answer : Except StoreError Bool}
    (hj : j ≠ k) (h : ask fault st (Store.delete · j) = (answer, st₁)) :
    st₁.only k = st.only k := by
  cases fault with
  | none =>
    cases h
    exact st.only_delete hj
  | some e =>
    cases h
    rfl

end

variable {place : TaskId → TaskId} {s s₁ s' : Scheduler ρ} {st st₁ : MemoryStore} {k : Key}
  {id : TaskId} {t u t' : Task ρ} {m : Move ρ}

/-! ## Tasks that advance -/

/-- A verdict is the same in the cut. -/
theorem CutTo.superseded (h : CutTo k place s s') {o : Option Generation} {found : Option Entry}
    {now : Instant} : s'.Superseded o found now ↔ s.Superseded o found now := by
  unfold Superseded
  rw [h.policy]

/-- A render ends in the same way in the cut. -/
theorem CutTo.rendered (h : CutTo k place s s') (o : Option Generation) (ending : RenderEnd)
    (now : Instant) : (s'.rendered k o ending now).1 = (s.rendered k o ending now).1 := by
  cases ending <;> simp [Scheduler.rendered, h.renderTimeout]

/-- A task of the key advances in the cut too. -/
theorem Advance.kept_in_cut {metrics : Metrics} (ha : Advance s st id m t u metrics st₁)
    (h : CutTo k place s s') (hs : Standing s st) (hcap : st.capacity = none)
    (ht : s.tasks[id]? = some t) (hcut : t.CutTo k place t') (hm : m.fails = false)
    (hfor : m.isFor k = true) (hat : t.isAt k = true) :
    ∃ u' metrics', Advance s' (st.only k) (place id) (m.renamed place) t' u' metrics' (st₁.only k) ∧
      u.CutTo k place u' := by
  cases ha with
  | callRead ha =>
    obtain rfl := fault_eq_none hm
    cases hcut
    exact ⟨_, _, .callRead (ask_get_only ha).2, .call⟩
  | callUnread ha =>
    obtain rfl := fault_eq_none hm
    cases hcut
    exact ⟨_, _, .callUnread (ask_get_only ha).2, .call⟩
  | callServed hf =>
    cases hcut
    exact ⟨_, _, .callServed (h.policy ▸ hf), .call⟩
  | @callJoined _ x found now f hf hk =>
    cases hcut
    have hk' : s'.flights.records.get? k = some (place f) := by
      rw [h.flights k, if_pos rfl, hk]
      rfl
    refine ⟨_, _, .callJoined (h.policy ▸ hf) hk', ?_⟩
    rw [h.policy, ← Call.renamed_boarded]
    exact .call
  | @callReceived _ x found f result now hr =>
    cases hcut
    obtain ⟨o, y, p, hf⟩ := hs.awaited ht
    obtain ⟨_, _, _, hf'⟩ := flightResult?_eq_some_iff.mp hr
    cases hf.symm.trans hf'
    exact ⟨_, _, .callReceived (h.flightResult? hf), .call⟩
  | callAbandoned hover =>
    cases hcut
    refine ⟨_, _, .callAbandoned ?_, .call⟩
    rw [Task.CutTo.isOver (t := .call _ _ _) .call]
    exact hover
  | flightRead ha =>
    obtain rfl := fault_eq_none hm
    cases hcut
    exact ⟨_, _, .flightRead (ask_get_only ha).2, .flight⟩
  | flightUnread ha =>
    obtain rfl := fault_eq_none hm
    cases hcut
    exact ⟨_, _, .flightUnread (ask_get_only ha).2, .flight⟩
  | flightSuperseded hsup =>
    cases hcut
    exact ⟨_, _, .flightSuperseded (h.superseded.mpr hsup), .flight⟩
  | renderStarted hsup =>
    cases hcut
    exact ⟨_, _, .renderStarted (mt h.superseded.mp hsup), .flight⟩
  | renderSucceeded =>
    cases hcut
    exact ⟨_, _, .renderSucceeded, .flight⟩
  | renderFailed hn he =>
    cases hcut
    exact ⟨_, _, .renderFailed hn ((h.rendered _ _ _).trans he), .flight⟩
  | putRefused ha =>
    obtain rfl := fault_eq_none hm
    cases hcut
    exact ⟨_, _, .putRefused (ask_put_only hcap (hs.key_of_holds ht .committing) ha), .flight⟩
  | putFailed ha =>
    obtain rfl := fault_eq_none hm
    cases hcut
    exact ⟨_, _, .putFailed (ask_put_only hcap (hs.key_of_holds ht .committing) ha), .flight⟩
  | removalFailed ha =>
    obtain rfl := fault_eq_none hm
    cases hcut
    exact ⟨_, _, .removalFailed (ask_delete_only ha), .removal⟩
  | removalEnded =>
    cases hcut
    exact ⟨_, _, .removalEnded, .removal⟩
  | purgeFailed _ ha =>
    obtain rfl := fault_eq_none hm
    cases ha
  | purgeWentOn =>
    cases hcut with
    | purge hp =>
      cases hp with
      | visiting hdue => exact ⟨_, _, .purgeWentOn, .purge (.deleting hdue)⟩
      | skipping hj _ => exact absurd (by simpa [Task.isAt] using hat) hj
  | purgeEnded hempty =>
    cases hcut with
    | purge hp =>
      cases hp with
      | deleting hdue => exact ⟨_, _, .purgeEnded (hdue.isEmpty hempty), .purge .finished⟩
  | surveyed hk ha hv =>
    obtain rfl := fault_eq_none hm
    obtain rfl : _ = k := by simpa [Move.isFor] using hfor
    cases hcut with
    | survey hp =>
      obtain ⟨⟨found, rfl⟩, ha'⟩ := ask_get_only ha
      obtain ⟨q', hv', hq⟩ := hp.visit hv
      exact ⟨_, _, .surveyed (hp.mem_due hk) ha' hv', .survey hq⟩
  | surveyEnded hp =>
    cases hcut with
    | survey hcut =>
      obtain ⟨q', hp', hq⟩ := hcut.proceed hp
      exact ⟨_, _, .surveyEnded hp', .survey hq⟩
  | compacted hk ha hv =>
    obtain rfl := fault_eq_none hm
    obtain rfl : _ = k := by simpa [Move.isFor] using hfor
    cases hcut with
    | compaction hc =>
      obtain ⟨⟨found, rfl⟩, ha'⟩ := ask_get_only ha
      obtain ⟨q', hv', hq⟩ := hc.visit hv
      exact ⟨_, _, .compacted (hc.mem_due hk) ha' hv', .compaction hq⟩
  | compactionEnded hempty =>
    cases hcut with
    | compaction hc =>
      cases hc with
      | reading hdue => exact ⟨_, _, .compactionEnded (hdue.isEmpty hempty), .compaction .finished⟩
  | listed ha hl =>
    obtain rfl := fault_eq_none hm
    cases hcut with
    | rebuild hr =>
      obtain ⟨keys, rfl, ha'⟩ := ask_list_only k ha
      obtain ⟨q', hl', hq⟩ := hr.listed hl
      exact ⟨_, _, .listed ha' hl', .rebuild hq⟩
  | rebuilding ha hv =>
    obtain rfl := fault_eq_none hm
    obtain rfl : _ = k := by simpa [Move.isFor] using hfor
    cases hcut with
    | rebuild hr =>
      obtain ⟨⟨found, rfl⟩, ha'⟩ := ask_get_only ha
      obtain ⟨due', built', q', rfl, hv', hq⟩ := hr.visit hv
      exact ⟨_, _, .rebuilding ha' hv', .rebuild hq⟩

/-- A task that is at another key advances, and its cut does not. -/
theorem Advance.skipped {metrics : Metrics} (ha : Advance s st id m t u metrics st₁)
    (hs : Standing s st) (hcap : st.capacity = none) (ht : s.tasks[id]? = some t)
    (hm : m.fails = false) (hof : (m.isFor k && t.isAt k) = false) :
    st₁.only k = st.only k ∧ (u.concerns k = true → t.concerns k = true ∧
      ∀ t' : Task ρ, t.CutTo k place t' → u.CutTo k place t') := by
  cases ha with
  | @callRead j _ _ _ _ ha | @callUnread j _ _ _ _ ha | @flightRead j _ _ _ _ _ ha
  | @flightUnread j _ _ _ _ _ ha =>
    have hj : j ≠ k := by simpa [Move.isFor, Task.isAt, Task.concerns] using hof
    exact ⟨only_of_ask_get hj ha, fun hu => absurd (by simpa [Task.concerns] using hu) hj⟩
  | @putRefused j _ _ _ _ _ _ ha | @putFailed j _ _ _ _ _ _ ha =>
    have hj : j ≠ k := by simpa [Move.isFor, Task.isAt, Task.concerns] using hof
    refine ⟨only_of_ask_put hcap ?_ ha, fun hu => absurd (by simpa [Task.concerns] using hu) hj⟩
    rw [hs.key_of_holds ht .committing]
    exact hj
  | @removalFailed j _ _ _ _ ha =>
    have hj : j ≠ k := by simpa [Move.isFor, Task.isAt, Task.concerns] using hof
    exact ⟨only_of_ask_delete hj ha, fun hu => absurd (by simpa [Task.concerns] using hu) hj⟩
  | callServed _ | callJoined _ _ | callReceived _ | callAbandoned _ | flightSuperseded _
  | renderStarted _ | renderSucceeded | renderFailed _ _ | removalEnded =>
    refine ⟨rfl, fun hu => absurd hu ?_⟩
    simpa [Move.isFor, Task.isAt, Task.concerns] using hof
  | purgeFailed _ ha =>
    obtain rfl := fault_eq_none hm
    cases ha
  | @purgeWentOn _ _ _ j _ _ =>
    have hj : j ≠ k := by simpa [Move.isFor, Task.isAt] using hof
    refine ⟨rfl, fun _ => ⟨rfl, fun t' hcut => ?_⟩⟩
    cases hcut with
    | purge hp =>
      cases hp with
      | visiting _ => exact absurd rfl hj
      | skipping _ hdue => exact .purge (.deleting hdue)
  | @surveyed _ _ j _ _ _ _ ha hv =>
    obtain rfl := fault_eq_none hm
    have hj : j ≠ k := by simpa [Move.isFor, Task.isAt, Task.concerns] using hof
    refine ⟨only_of_ask_get hj ha, fun _ => ⟨rfl, fun t' hcut => ?_⟩⟩
    cases hcut with
    | survey hp =>
      obtain ⟨⟨found, rfl⟩, -⟩ := ask_get_only ha
      exact .survey (hp.skip hj hv)
  | @compacted c _ j _ _ _ _ ha hv =>
    obtain rfl := fault_eq_none hm
    cases c with
    | reading due n =>
      have hj : j ≠ k := by simpa [Move.isFor, Task.isAt, Task.concerns] using hof
      refine ⟨only_of_ask_get hj ha, fun _ => ⟨rfl, fun t' hcut => ?_⟩⟩
      cases hcut with
      | compaction hc =>
        obtain ⟨⟨found, rfl⟩, -⟩ := ask_get_only ha
        exact .compaction (hc.skip hj hv)
    | missing _ _ _ => cases hv
    | finished _ => cases hv
  | @rebuilding j _ _ _ _ _ _ ha hv =>
    obtain rfl := fault_eq_none hm
    have hj : j ≠ k := by simpa [Move.isFor, Task.isAt, Task.concerns] using hof
    refine ⟨only_of_ask_get hj ha, fun _ => ⟨rfl, fun t' hcut => ?_⟩⟩
    cases hcut with
    | rebuild hr =>
      obtain ⟨⟨found, rfl⟩, -⟩ := ask_get_only ha
      exact .rebuild (hr.skip hj hv)
  | purgeEnded _ | surveyEnded _ | compactionEnded _ | listed _ _ =>
    -- nothing of another key is at stake here
    simp [Move.isFor, Task.isAt, Task.concerns] at hof

/-! ## Numbers -/

/-- A task that stays of its key leaves all tasks of theirs. -/
theorem concerns_setTask {i : TaskId} {v w : Task ρ} (hv : s.tasks[id]? = some v)
    (hw : w.concerns k = v.concerns k) (ht : s.tasks[i]? = some t) :
    ∃ u, (s.setTask id w).tasks[i]? = some u ∧ u.concerns k = t.concerns k := by
  rw [getElem?_setTask hv]
  by_cases hi : i = id
  · subst hi
    cases hv.symm.trans ht
    exact ⟨w, if_pos rfl, hw⟩
  · exact ⟨t, (if_neg hi).trans ht, rfl⟩

/-- A new task leaves all tasks of their keys. -/
theorem concerns_spawn {i : TaskId} (u : Task ρ) (ht : s.tasks[i]? = some t) :
    ∃ v, (s.spawn u).tasks[i]? = some v ∧ v.concerns k = t.concerns k :=
  ⟨t, getElem?_spawn_of_some ht u, rfl⟩

/-- An event leaves the tasks that are there of the keys that they are of. -/
theorem Occurs.concerns {e : Event ρ} {i : TaskId} (h : Occurs s st e s₁ st₁)
    (ht : s.tasks[i]? = some t) (k : Key) :
    ∃ u, s₁.tasks[i]? = some u ∧ u.concerns k = t.concerns k := by
  cases h with
  | moved ht₁ =>
    cases ht₁ with
    | opened _ | forgotten _ | detached _ => exact concerns_spawn (s := s) _ ht
    | @advanced _ _ _ _ metrics _ hid ha =>
      refine concerns_setTask (s := { s with metrics }) hid ?_ ht
      cases ha <;> rfl
    | @led id j x found now hid _ _ =>
      -- first the flight comes into being, then the call boards it
      let flight : Task ρ := .flight j (found.map Entry.generation) x .checking
      have hid' := getElem?_spawn_of_some hid flight
      obtain ⟨v, hv, hvc⟩ := concerns_spawn (k := k) flight ht
      obtain ⟨w, hw, hwc⟩ := concerns_setTask (k := k) hid'
        (w := .call j x (.boarded (s.policy.classify found now) found s.tasks.length)) rfl hv
      exact ⟨w, hw, hwc.trans hvc⟩
    | ended hid => exact concerns_setTask (s := { s with flights := _ }) hid rfl ht
    | linked hid => exact concerns_setTask (s := { s with index := _, metrics := _ }) hid rfl ht
    | restored hid => exact concerns_setTask (s := { s with index := _, metrics := _ }) hid rfl ht
    | relinked hid | dropped hid | rebuilt hid =>
      exact concerns_setTask (s := { s with index := _ }) hid rfl ht
    | stored hid _ | removed hid _ | purged hid _ _ => exact concerns_setTask hid rfl ht
  | flightBroke hid _ | callBroke hid _ => exact concerns_setTask hid rfl ht
  | otherBroke _ _ => exact ⟨t, ht, rfl⟩

/-- Numbers are numbers before. -/
theorem Numbers.of_concerns (h : Numbers k place s₁)
    (hc : ∀ ⦃i : TaskId⦄ ⦃t : Task ρ⦄, s.tasks[i]? = some t →
      ∃ u, s₁.tasks[i]? = some u ∧ u.concerns k = t.concerns k) : Numbers k place s := by
  intro i t ht
  obtain ⟨u, hu, huc⟩ := hc ht
  rw [h hu, huc]

/-- A task that stays of its key leaves the numbers. -/
theorem Numbers.of_setTask (h : Numbers k place (s.setTask id u)) (ht : s.tasks[id]? = some t)
    (hu : u.concerns k = t.concerns k) : Numbers k place s :=
  h.of_concerns fun _ _ hi => concerns_setTask ht hu hi

theorem Numbers.of_occurs {e : Event ρ} (h : Numbers k place s₁) (he : Occurs s st e s₁ st₁) :
    Numbers k place s := h.of_concerns fun _ _ ht => he.concerns ht k

/-- The limit of the store stays. -/
theorem capacity_of_happen {e : Event ρ} (h : happen (s, st) e = some (s₁, st₁)) :
    st₁.capacity = st.capacity := by
  rw [store_of_happen h]
  cases e with
  | breakDown _ _ => rfl
  | move m =>
    cases m with
    | storeCall id call fault =>
      cases fault with
      | some e => rfl
      | none =>
        cases call with
        | get j => exact st.capacity_get j
        | put e o => exact st.capacity_put e o
        | delete j => rfl
        | list => rfl
    | _ => rfl

/-! ## One move -/

/-- **Kept.** A move of the key is made in the cut too, and leads to the cut. -/
theorem Transition.kept_in_cut (ht : Transition s st m s₁ st₁) (h : CutTo k place s s')
    (hs : Standing s st) (hcap : st.capacity = none) (hn₁ : Numbers k place s₁)
    (hm : m.fails = false) (hof : (Event.move m).isOf k s = true) :
    ∃ s₁', Transition s' (st.only k) (m.renamed place) s₁' (st₁.only k) ∧
      CutTo k place s₁ s₁' := by
  have hn : Numbers k place s := hn₁.of_occurs (.moved ht)
  -- the task that makes the move has its cut, which is in the same phase
  have hactor {id : TaskId} {t : Task ρ} (hid : s.tasks[id]? = some t) (hm : m.actor? = some id) :
      ∃ t', s'.tasks[place id]? = some t' ∧ t.CutTo k place t' ∧ t.concerns k = true ∧
        m.isFor k = true ∧ t.isAt k = true := by
    rw [Event.isOf_move hm hid, Bool.and_eq_true] at hof
    have hc := Task.concerns_of_isAt hof.2
    obtain ⟨t', ht', hcut⟩ := h.task hid hc
    exact ⟨t', ht', hcut, hc, hof.1, hof.2⟩
  cases ht with
  | opened ho =>
    cases ho with
    | call j x =>
      obtain rfl : j = k := by simpa [Event.isOf, Move.isFor, Event.actor?, Move.actor?] using hof
      exact ⟨_, .opened (.call j x), h.spawn hn₁ .call⟩
    | survey t =>
      exact ⟨_, .opened (.survey t),
        h.spawn hn₁ (.survey (.reading (h.index.keys t) (SortedSet.cutTo_empty k)))⟩
    | compaction =>
      exact ⟨_, .opened .compaction, h.spawn hn₁ (.compaction (.reading h.index.tagged))⟩
    | rebuild => exact ⟨_, .opened .rebuild, h.spawn hn₁ (.rebuild .listing)⟩
  | forgotten j =>
    obtain rfl : j = k := by simpa [Event.isOf, Move.isFor, Event.actor?, Move.actor?] using hof
    refine ⟨_, .forgotten j, (h.withIndex h.index.forget).spawn hn₁ ?_⟩
    rw [h.index.tagsForKey]
    exact .removal
  | detached t =>
    exact ⟨_, .detached t,
      (h.withIndex (h.index.detach t)).spawn hn₁ (.purge (.deleting (h.index.keys t)))⟩
  | advanced hid ha =>
    obtain ⟨t', ht', hcut, hc, hfor, hat⟩ := hactor hid ha.actor
    obtain ⟨u', metrics', ha', hcut'⟩ := ha.kept_in_cut h hs hcap hid hcut hm hfor hat
    exact ⟨_, .advanced ht' ha', (h.withMetrics _ metrics').setTask hn hid hc hcut'⟩
  | @led id j x found now hid hf hk =>
    obtain ⟨t', ht', hcut, hc, -, -⟩ := hactor hid rfl
    cases hcut
    have hk' : s'.flights.records.get? k = none := by
      rw [h.flights k, if_pos rfl, hk]
      rfl
    refine ⟨_, .led ht' (h.policy ▸ hf) hk', ?_⟩
    have hflights : ∀ i, (s'.flights.records.insert k s'.tasks.length).get? i =
        if i = k then ((s.flights.records.insert k s.tasks.length).get? k).map place else none := by
      intro i
      rw [SortedMap.get?_insert, SortedMap.get?_insert, if_pos rfl, h.flights i, h.size]
      by_cases hi : i = k
      · simp [hi]
      · simp [hi, Ne.symm hi]
    -- first the flight comes into being, then the call boards it
    have hid' := getElem?_spawn_of_some hid (.flight k (found.map Entry.generation) x .checking)
    have hn' := hn₁.of_setTask hid' rfl
    refine (((h.withFlights hflights).withMetrics _ _).spawn hn' .flight).setTask hn' hid' hc ?_
    rw [h.policy, h.size, ← Call.renamed_boarded]
    exact .call
  | @ended id j o x result now hid =>
    obtain ⟨t', ht', hcut, hc, -, -⟩ := hactor hid rfl
    cases hcut
    refine ⟨_, .ended ht', (h.withFlights ?_).setTask hn hid hc .flight⟩
    -- the record of the key is that of the flight, on both sides
    have hrec := (hs.oneFlight k id).mpr (flying_of_getElem? hid rfl)
    have hrec' : s'.flights.records.get? k = some (place id) := by
      rw [h.flights k, if_pos rfl, hrec]
      rfl
    intro i
    simp only [FlightTable.clear, if_pos hrec, if_pos hrec', SortedMap.get?_erase, h.flights i]
    by_cases hi : i = k
    · simp [hi]
    · simp [hi, Ne.symm hi]
  | stored hid ha =>
    obtain rfl := fault_eq_none hm
    obtain ⟨t', ht', hcut, hc, -, -⟩ := hactor hid rfl
    cases hcut
    exact ⟨_, .stored ht' (ask_put_only hcap (hs.key_of_holds hid .committing) ha),
      h.setTask hn hid hc .flight⟩
  | linked hid =>
    obtain ⟨t', ht', hcut, hc, -, -⟩ := hactor hid rfl
    cases hcut
    exact ⟨_, .linked ht',
      ((h.withIndex (h.index.replaceTags _)).withMetrics _ _).setTask hn hid hc .flight⟩
  | removed hid ha =>
    obtain rfl := fault_eq_none hm
    obtain ⟨t', ht', hcut, hc, -, -⟩ := hactor hid rfl
    cases hcut
    exact ⟨_, .removed ht' (ask_delete_only ha), h.setTask hn hid hc .removal⟩
  | relinked hid =>
    obtain ⟨t', ht', hcut, hc, -, -⟩ := hactor hid rfl
    cases hcut
    exact ⟨_, .relinked ht', (h.withIndex (h.index.linkTags _)).setTask hn hid hc .removal⟩
  | purged hid hk ha =>
    obtain rfl := fault_eq_none hm
    obtain ⟨t', ht', hcut, hc, hfor, -⟩ := hactor hid rfl
    obtain rfl : _ = k := by simpa [Move.isFor] using hfor
    cases hcut with
    | purge hp =>
      cases hp with
      | deleting hdue =>
        exact ⟨_, .purged ht' ((hdue _).mpr ⟨rfl, hk⟩) (ask_delete_only ha),
          h.setTask hn hid hc (.purge (.visiting hdue.erase))⟩
  | restored hid =>
    obtain ⟨t', ht', hcut, -, -, -⟩ := hactor hid rfl
    cases hcut with
    | purge hp => cases hp
  | dropped hid =>
    obtain ⟨t', ht', hcut, hc, -, hat⟩ := hactor hid rfl
    obtain rfl : _ = k := by simpa [Task.isAt] using hat
    cases hcut with
    | compaction hcut =>
      cases hcut with
      | missing hdue =>
        exact ⟨_, .dropped ht',
          (h.withIndex h.index.forget).setTask hn hid hc (.compaction (.reading hdue))⟩
      | skipping hj _ => exact absurd rfl hj
  | rebuilt hid =>
    obtain ⟨t', ht', hcut, hc, -, -⟩ := hactor hid rfl
    cases hcut with
    | rebuild hr =>
      cases hr with
      | reading hbuilt =>
        exact ⟨_, .rebuilt ht', (h.withIndex hbuilt).setTask hn hid hc (.rebuild .finished)⟩

/-- **Skipped.** Any other move leaves the cut as it is. -/
theorem Transition.skipped (ht : Transition s st m s₁ st₁) (h : CutTo k place s s')
    (hs : Standing s st) (hcap : st.capacity = none) (hn₁ : Numbers k place s₁)
    (hm : m.fails = false) (hof : (Event.move m).isOf k s = false) :
    CutTo k place s₁ s' ∧ st₁.only k = st.only k := by
  have hactor {id : TaskId} {t : Task ρ} (hid : s.tasks[id]? = some t) (hm : m.actor? = some id) :
      (m.isFor k && t.isAt k) = false := (Event.isOf_move hm hid).symm.trans hof
  cases ht with
  | opened ho =>
    cases ho with
    | call j x =>
      have hj : j ≠ k := by simpa [Event.isOf, Move.isFor, Event.actor?, Move.actor?] using hof
      exact ⟨h.spawn_left hn₁ (by simp [Task.concerns, hj]), rfl⟩
    | _ => simp [Event.isOf, Move.isFor, Event.actor?, Move.actor?] at hof
  | forgotten j =>
    have hj : j ≠ k := by simpa [Event.isOf, Move.isFor, Event.actor?, Move.actor?] using hof
    refine ⟨(h.withIndex (h.index.forget_of_ne hj)).spawn_left hn₁ ?_, rfl⟩
    simp [Task.concerns, hj]
  | detached t => simp [Event.isOf, Move.isFor, Event.actor?, Move.actor?] at hof
  | advanced hid ha =>
    obtain ⟨hst, hu⟩ := ha.skipped hs hcap hid hm (hactor hid ha.actor)
    exact ⟨(h.withMetrics _ s'.metrics).setTask_left hid hu, hst⟩
  | @led id j x found now hid hf hk =>
    have hj : j ≠ k := by simpa [Move.isFor, Task.isAt, Task.concerns] using hactor hid rfl
    have hflights : ∀ i, s'.flights.records.get? i =
        if i = k then ((s.flights.records.insert j s.tasks.length).get? k).map place else none := by
      intro i
      rw [h.flights i, SortedMap.get?_insert, if_neg hj]
    have hid' := getElem?_spawn_of_some hid (.flight j (found.map Entry.generation) x .checking)
    have hn' := hn₁.of_setTask hid' rfl
    have hspawn := ((h.withFlights hflights).withMetrics
      (Call.countBoarded (s.policy.classify found now) found s.metrics) s'.metrics).spawn_left hn'
        (by simp [Task.concerns, hj])
    exact ⟨hspawn.setTask_other hid' (by simp [Task.concerns, hj]), rfl⟩
  | @ended id j o x result now hid =>
    have hj : j ≠ k := by simpa [Move.isFor, Task.isAt, Task.concerns] using hactor hid rfl
    have hflights : ∀ i, s'.flights.records.get? i =
        if i = k then ((s.flights.clear j id).records.get? k).map place else none := by
      intro i
      rw [h.flights i, FlightTable.clear]
      split_ifs <;> simp [hj]
    exact ⟨(h.withFlights hflights).setTask_other hid (by simp [Task.concerns, hj]), rfl⟩
  | @stored id j o x e fault _ hid ha =>
    have hj : j ≠ k := by simpa [Move.isFor, Task.isAt, Task.concerns] using hactor hid rfl
    refine ⟨h.setTask_other hid (by simp [Task.concerns, hj]), only_of_ask_put hcap ?_ ha⟩
    rw [hs.key_of_holds hid .committing]
    exact hj
  | @linked id j o x e now hid =>
    have hj : j ≠ k := by simpa [Move.isFor, Task.isAt, Task.concerns] using hactor hid rfl
    refine ⟨((h.withIndex (h.index.replaceTags_of_ne hj _)).withMetrics _
      s'.metrics).setTask_other hid ?_, rfl⟩
    simp [Task.concerns, hj]
  | @removed id j u fault removed _ hid ha =>
    have hj : j ≠ k := by simpa [Move.isFor, Task.isAt, Task.concerns] using hactor hid rfl
    exact ⟨h.setTask_other hid (by simp [Task.concerns, hj]), only_of_ask_delete hj ha⟩
  | @relinked id j u err now hid =>
    have hj : j ≠ k := by simpa [Move.isFor, Task.isAt, Task.concerns] using hactor hid rfl
    exact ⟨(h.withIndex (h.index.linkTags_of_ne hj _)).setTask_other hid
      (by simp [Task.concerns, hj]), rfl⟩
  | @purged id t due n j fault removed _ hid hk ha =>
    have hj : j ≠ k := by simpa [Move.isFor, Task.isAt, Task.concerns] using hactor hid rfl
    refine ⟨h.setTask_left hid fun _ => ⟨rfl, fun t' hcut => ?_⟩, only_of_ask_delete hj ha⟩
    cases hcut with
    | purge hp =>
      cases hp with
      | deleting hdue => exact .purge (.skipping hj (hdue.erase_of_ne hj))
  | restored hid =>
    obtain ⟨t', -, hcut⟩ := h.task hid rfl
    cases hcut with
    | purge hp => cases hp
  | @dropped id j due n now hid =>
    have hj : j ≠ k := by simpa [Move.isFor, Task.isAt] using hactor hid rfl
    refine ⟨(h.withIndex (h.index.forget_of_ne hj)).setTask_left hid
      fun _ => ⟨rfl, fun t' hcut => ?_⟩, rfl⟩
    cases hcut with
    | compaction hc =>
      cases hc with
      | missing _ => exact absurd rfl hj
      | skipping _ hdue => exact .compaction (.reading hdue)
  | rebuilt hid =>
    have hof' := hactor hid rfl
    simp [Move.isFor, Task.isAt, Task.concerns] at hof'

/-! ## One event -/

/-- What breaks down is there and not over. -/
theorem of_breakDown {message : String}
    (h : happen (s, st) (.breakDown id message) = some (s₁, st₁)) :
    ∃ t, s.tasks[id]? = some t ∧ t.isOver = false ∧ s₁ = s.breakDown id message ∧ st₁ = st := by
  simp only [happen] at h
  split at h
  · rename_i t ht
    split at h
    · cases h
    · rename_i hover
      cases h
      exact ⟨t, ht, by simpa using hover, rfl, rfl⟩
  · cases h

/-- **Kept.** An event of the key happens in the cut too, and leads to the cut. -/
theorem happen_kept {e : Event ρ} (he : happen (s, st) e = some (s₁, st₁))
    (h : CutTo k place s s') (hs : Standing s st) (hcap : st.capacity = none)
    (hn₁ : Numbers k place s₁) (hf : e.fails = false) (hof : e.isOf k s = true) :
    ∃ s₁', happen (s', st.only k) (e.renamed place) = some (s₁', st₁.only k) ∧
      CutTo k place s₁ s₁' := by
  have hn : Numbers k place s := hn₁.of_occurs (.of_happen he)
  cases e with
  | move m =>
    obtain ⟨s₁', ht', hcut⟩ := (Transition.of_moved he).kept_in_cut h hs hcap hn₁ hf hof
    exact ⟨s₁', ht'.step_eq, hcut⟩
  | breakDown id message =>
    obtain ⟨t, ht, hover, rfl, rfl⟩ := of_breakDown he
    have hat : t.isAt k = true := by simpa [Event.isOf, Event.actor?, ht] using hof
    have hc := Task.concerns_of_isAt hat
    obtain ⟨t', ht', hcut⟩ := h.task ht hc
    refine ⟨s'.breakDown (place id) message, ?_, ?_⟩
    · simp [happen, Event.renamed, ht', hcut.isOver, hover]
    · simp only [breakDown, ht, ht']
      cases hcut with
      | call => exact h.setTask hn ht hc .call
      | flight => exact h.setTask hn ht hc .flight
      | _ => exact h

/-- **Skipped.** Any other event leaves the cut as it is. -/
theorem happen_skipped {e : Event ρ} (he : happen (s, st) e = some (s₁, st₁))
    (h : CutTo k place s s') (hs : Standing s st) (hcap : st.capacity = none)
    (hn₁ : Numbers k place s₁) (hf : e.fails = false) (hof : e.isOf k s = false) :
    CutTo k place s₁ s' ∧ st₁.only k = st.only k := by
  cases e with
  | move m => exact (Transition.of_moved he).skipped h hs hcap hn₁ hf hof
  | breakDown id message =>
    obtain ⟨t, ht, hover, rfl, rfl⟩ := of_breakDown he
    have hat : t.isAt k = false := by simpa [Event.isOf, Event.actor?, ht] using hof
    refine ⟨?_, rfl⟩
    simp only [breakDown, ht]
    cases t with
    | call j x p | flight j o x p =>
      have hj : j ≠ k := by simpa [Task.isAt, Task.concerns] using hat
      exact h.setTask_left ht fun hc => absurd (by simpa [Task.concerns] using hc) hj
    | _ => exact h

end Scheduler

end PageCache
