import PageCache.Proofs.Scheduler.Maintenance
import PageCache.Proofs.TagIndex.Consistent

/-!
# Compacted or rebuilt, the index is the same

The tag index is kept up to date by every flight, removal and purge, and it keeps links of keys that
have left the store behind its back: keys that were evicted, or purged under another tag. A
compaction drops these links, a rebuild forgets the index and reads all entries anew. Here each runs
alone, in any order and over a store that does not fail:

* `compaction_completes` — a compaction leaves the links of the keys that are held, and counts the
  keys that had links and were not;
* `rebuild_completes` — a rebuild links the tags of what is held, and counts the keys that have any;
* `MoveRun.rederived` — after any run without failed deletions these are the same links, so both
  leave the same index.
-/

namespace PageCache

open LawfulStore

/-- Whether the task is a compaction or a rebuild that changes no link by its next move. -/
def Task.gathersNext {ρ : Type} : Task ρ → Bool
  | compaction (.reading ..) => true
  | rebuild .listing => true
  | rebuild (.reading (_ :: _) _) => true
  | _ => false

namespace Scheduler

variable {ρ σ : Type} [Store σ] [LawfulStore σ] {s s' : Scheduler ρ} {st st' : σ} {id : TaskId}
  {m : Move ρ}

/-! ## The index stays consistent -/

/-- **One move** keeps the index consistent while no compaction or rebuild is under way. -/
theorem InStep.consistent_of_transition (h : InStep s st) (hx : s.index.Consistent)
    (ht : Transition s st m s' st') : s'.index.Consistent := by
  cases ht with
  | forgotten k => exact hx.forget k
  | detached t => exact hx.detach t
  | linked _ => exact hx.replaceTags _ _
  | relinked _ => exact hx.linkTags _ _
  | restored _ => exact hx.linkKeys _ _
  | dropped hid | rebuilt hid => cases h.steady hid
  | opened _ | advanced _ _ | led _ _ _ | ended _ | stored _ _ | removed _ _ | purged _ _ _ =>
    exact hx

/-- **A whole run** from the empty index keeps it consistent. -/
theorem MoveRun.consistent (r : MoveRun ρ σ) {policy : Policy} {renderTimeout : Duration} {n : Nat}
    (h₀ : (r.state 0).1 = new policy renderTimeout)
    (hin : ∀ i ≤ r.length, InStep (r.state i).1 (r.state i).2) (hn : n ≤ r.length) :
    (r.state n).1.index.Consistent := by
  refine r.stays (P := fun y => y.1.index.Consistent) ?_ ?_ n (Nat.zero_le n) hn
  · rw [h₀]
    exact .empty
  · intro i _ hi h
    exact (hin i (Nat.le_of_lt hi)).consistent_of_transition h (.of_moved (r.step i hi))

/-! ## Own moves -/

omit [LawfulStore σ] in
/-- An own move of such a task changes nothing that tasks share. -/
theorem Transition.advance_of_gathersNext {u : Task ρ} (h : Transition s st m s' st') (hm : m.IsOwn id)
    (hid : s.tasks[id]? = some u) (hu : u.gathersNext = true) :
    ∃ u' metrics, Advance s st id m u u' metrics st' ∧ s'.index = s.index ∧
      s'.tasks[id]? = some u' := by
  have hactor := actor_of_isOwn hm
  cases h with
  | opened ho => cases ho <;> cases hm
  | forgotten _ | detached _ => cases hm
  | @advanced _ i _ u' metrics _ hi ha =>
    obtain rfl : i = id := Option.some.inj (ha.actor.symm.trans hactor)
    cases hi.symm.trans hid
    exact ⟨u', metrics, ha, rfl, getElem?_setTask_self (s := { s with metrics }) hid u'⟩
  | led hi _ _ | ended hi | stored hi _ | linked hi | removed hi _ | relinked hi | purged hi _ _
  | restored hi | dropped hi | rebuilt hi =>
    cases hactor
    cases hi.symm.trans hid
    cases hu

/-! ## Compactions -/

/-- What a compaction does by its own moves while it reads: it reads a key that is due, or ends when
none is. -/
theorem Transition.compaction_reading {due : SortedSet Key} {n : Nat} (h : Transition s st m s' st')
    (hv : Valid st) (hm : m.IsOwn id)
    (hid : s.tasks[id]? = some (.compaction (.reading due n))) :
    Valid st' ∧ held st' = held st ∧ s'.index = s.index ∧
      ((∃ k ∈ due, (held st k).isSome ∧
          s'.tasks[id]? = some (.compaction (.reading (due.erase k) n))) ∨
        (∃ k ∈ due, held st k = none ∧
          s'.tasks[id]? = some (.compaction (.missing k (due.erase k) n))) ∨
        (due.isEmpty = true ∧ s'.tasks[id]? = some (.compaction (.finished (.ok n))))) := by
  obtain ⟨u', metrics, ha, hindex, hset⟩ := h.advance_of_gathersNext hm hid rfl
  obtain ⟨hv', hheld⟩ := ha.contents hv
  refine ⟨hv', hheld, hindex, ?_⟩
  cases ha with
  | @compacted _ c' k fault answer _ hk hask hvisit =>
    obtain ⟨-, rfl⟩ := hm
    obtain ⟨-, -, ⟨-, rfl⟩ | ⟨e, he, -⟩⟩ := ask_get hv hask
    · have hk' : k ∈ due := hk
      simp only [Compaction.visit, if_pos hk', Option.some.injEq] at hvisit
      subst hvisit
      cases hf : held st k with
      | some e =>
        rw [hf] at hset
        exact .inl ⟨k, hk, by rw [hf]; rfl, hset⟩
      | none =>
        rw [hf] at hset
        exact .inr (.inl ⟨k, hk, hf, hset⟩)
    · cases he
  | compactionEnded hempty => exact .inr (.inr ⟨hempty, hset⟩)

omit [LawfulStore σ] in
/-- What a compaction does by its own moves when a key was missing: it drops the key's links. -/
theorem Transition.compaction_missing {k : Key} {due : SortedSet Key} {n : Nat}
    (h : Transition s st m s' st') (hm : m.IsOwn id)
    (hid : s.tasks[id]? = some (.compaction (.missing k due n))) :
    st' = st ∧ s'.index = (s.index.forget k).2 ∧
      s'.tasks[id]? = some (.compaction (.reading due (n + 1))) := by
  have hactor := actor_of_isOwn hm
  cases h with
  | opened ho => cases ho <;> cases hm
  | forgotten _ | detached _ => cases hm
  | advanced hi ha =>
    obtain rfl := Option.some.inj (ha.actor.symm.trans hactor)
    cases hi.symm.trans hid
    cases ha with
    | compacted _ _ hvisit => cases hvisit
  | dropped hi =>
    obtain rfl := Option.some.inj hactor
    cases hi.symm.trans hid
    exact ⟨rfl, rfl, getElem?_setTask_self (s := { s with index := (s.index.forget k).2 }) hid _⟩
  | led hi _ _ | ended hi | stored hi _ | linked hi | removed hi _ | relinked hi | purged hi _ _
  | restored hi | rebuilt hi =>
    cases hactor
    cases hi.symm.trans hid

/-- A compaction that reads can go on. -/
theorem exists_own_compaction_reading {y : Scheduler ρ × σ} {due : SortedSet Key} {n : Nat}
    (hv : Valid y.2) (hid : y.1.tasks[id]? = some (.compaction (.reading due n))) :
    ∃ m, m.IsOwn id ∧ (moved y m).isSome := by
  cases hempty : due.isEmpty with
  | true =>
    refine ⟨.proceed id default, rfl, ?_⟩
    simp only [moved, step, hid, Option.bind_eq_bind, Option.bind_some, resume, Compaction.proceed,
      if_pos hempty]
    rfl
  | false =>
    obtain ⟨k, hk⟩ := SortedSet.exists_mem_of_isEmpty hempty
    have hcall : StoreCall.get k ∈ (Task.compaction (.reading due n) : Task ρ).storeCalls := by
      simpa [Task.storeCalls, Compaction.due] using hk
    refine ⟨.storeCall id (.get k) none, ⟨rfl, rfl⟩, ?_⟩
    simp only [moved, step, hid, Option.bind_eq_bind, Option.bind_some,
      if_neg (not_not_intro hcall), ask, get_answer k hv, answerGet, Compaction.visit, if_pos hk]
    rfl

omit [LawfulStore σ] in
/-- A compaction can go on when a key was missing. -/
theorem exists_own_compaction_missing {y : Scheduler ρ × σ} {k : Key} {due : SortedSet Key}
    {n : Nat} (hid : y.1.tasks[id]? = some (.compaction (.missing k due n))) :
    ∃ m, m.IsOwn id ∧ (moved y m).isSome := by
  refine ⟨.proceed id default, rfl, ?_⟩
  simp only [moved, step, hid, Option.bind_eq_bind, Option.bind_some, resume, Compaction.proceed]
  rfl

/-- One of the keys that are due and not held has been found missing. -/
theorem encard_missing {c : Contents} {due : SortedSet Key} {k : Key} (hk : k ∈ due)
    (hc : c k = none) :
    {j | j ∈ due ∧ c j = none}.encard = {j | j ∈ due.erase k ∧ c j = none}.encard + 1 := by
  rw [← Set.encard_insert_of_notMem (a := k) (by simp)]
  congr 1
  ext j
  by_cases hj : j = k
  · simp [hj, hk, hc]
  · simp [hj]

/-- **Compacting.** A compaction that is left alone ends well. It keeps the links but for those of the
keys that are due and not held, and it says how many keys these are. -/
theorem compaction_completes {c : Contents} {Kept : Tag → Key → Prop} {total : ℕ∞} (n : Nat) :
    ∀ (y : Scheduler ρ × σ) (due : SortedSet Key) (removed : Nat), due.size = n → Valid y.2 →
      held y.2 = c → y.1.index.Consistent →
      y.1.tasks[id]? = some (.compaction (.reading due removed)) →
      (∀ t k, y.1.index.Linked t k ∧ ¬ (k ∈ due ∧ c k = none) ↔ Kept t k) →
      removed + {k | k ∈ due ∧ c k = none}.encard = total →
      Completes moved (Move.IsOwn id) (fun y => held y.2 = c ∧ y.1.index.Consistent ∧
        (∀ t k, y.1.index.Linked t k ↔ Kept t k) ∧ ∃ removed : Nat, removed = total ∧
          y.1.tasks[id]? = some (.compaction (.finished (.ok removed)))) y := by
  induction n using Nat.strong_induction_on with
  | _ n ih =>
    intro y due removed hn hv hc hx hid hkept htotal
    refine .of_open (exists_own_compaction_reading hv hid) ?_
    intro m y' hm hy'
    obtain ⟨hv', hheld, hindex, ⟨k, hk, hsome, hid'⟩ | ⟨k, hk, hnone, hid'⟩ | ⟨hempty, hid'⟩⟩ :=
      (Transition.of_moved hy').compaction_reading hv hm hid
    · -- the key is held, so it was not among those to be dropped
      rw [hc] at hsome
      have hdue : ∀ j, j ∈ due.erase k ∧ c j = none ↔ j ∈ due ∧ c j = none := by
        intro j
        rw [SortedSet.mem_erase]
        constructor
        · rintro ⟨⟨-, hj⟩, hcj⟩
          exact ⟨hj, hcj⟩
        · rintro ⟨hj, hcj⟩
          refine ⟨⟨?_, hj⟩, hcj⟩
          rintro rfl
          rw [hcj] at hsome
          cases hsome
      refine ih _ (hn ▸ SortedSet.size_erase_lt hk) y' _ removed rfl hv' (hheld.trans hc) ?_ hid'
        (fun t j => ?_) ?_
      · rwa [hindex]
      · rw [hindex, hdue]
        exact hkept t j
      · simp only [hdue]
        exact htotal
    · -- the key was missing, and its links go before the next key is read
      rw [hc] at hnone
      refine .of_open (exists_own_compaction_missing hid') ?_
      intro m' y'' hm' hy''
      obtain ⟨hst, hforget, hid''⟩ := (Transition.of_moved hy'').compaction_missing hm' hid'
      rw [hindex] at hforget
      refine ih _ (hn ▸ SortedSet.size_erase_lt hk) y'' _ (removed + 1) rfl (hst ▸ hv') ?_ ?_ hid''
        (fun t j => ?_) ?_
      · rw [hst, hheld, hc]
      · rw [hforget]
        exact hx.forget k
      · rw [← hkept t j, hforget, TagIndex.linked_forget hx.coherent, SortedSet.mem_erase]
        by_cases hj : j = k
        · subst hj
          simp [hk, hnone]
        · simp [hj]
      · rw [← htotal, encard_missing hk hnone, Nat.cast_add, Nat.cast_one, add_assoc,
          add_comm 1 _]
    · -- nothing is due any more
      have hdue : ∀ j, ¬ (j ∈ due ∧ c j = none) :=
        fun j hj => SortedSet.not_mem_of_isEmpty hempty j hj.1
      refine .done ⟨hheld.trans hc, ?_, fun t k => ?_, removed, ?_, hid'⟩
      · rwa [hindex]
      · rw [hindex, ← hkept t k]
        exact (and_iff_left (hdue k)).symm
      · rw [← htotal]
        simp [hdue]

/-! ## Rebuilds -/

/-- What a rebuild does by its own moves at first: it lists the keys that are held. -/
theorem Transition.rebuild_listing (h : Transition s st m s' st') (hv : Valid st)
    (hm : m.IsOwn id) (hid : s.tasks[id]? = some (.rebuild .listing)) :
    Valid st' ∧ held st' = held st ∧ s'.index = s.index ∧
      ∃ keys : List Key, keys.Nodup ∧ (∀ k, k ∈ keys ↔ (held st k).isSome) ∧
        s'.tasks[id]? = some (.rebuild (.reading keys ∅)) := by
  obtain ⟨u', metrics, ha, hindex, hset⟩ := h.advance_of_gathersNext hm hid rfl
  obtain ⟨hv', hheld⟩ := ha.contents hv
  refine ⟨hv', hheld, hindex, ?_⟩
  cases ha with
  | @listed _ r' fault answer _ hask hlisted =>
    obtain ⟨-, rfl⟩ := hm
    obtain ⟨keys, hkeys, hnodup, hmem⟩ := list_answer (s := st) "" hv
    obtain ⟨hanswer, -⟩ := Prod.mk.inj hask
    obtain rfl := hkeys.symm.trans hanswer
    cases hlisted
    refine ⟨keys, hnodup, fun k => ?_, hset⟩
    rw [hmem k]
    exact and_iff_left rfl

/-- What a rebuild does by its own moves while keys are due: it reads the next one. -/
theorem Transition.rebuild_reading {k : Key} {due : List Key} {built : TagIndex}
    (h : Transition s st m s' st') (hv : Valid st) (hm : m.IsOwn id)
    (hid : s.tasks[id]? = some (.rebuild (.reading (k :: due) built))) :
    Valid st' ∧ held st' = held st ∧ s'.index = s.index ∧
      s'.tasks[id]? = some (.rebuild (.reading due (built.record k (held st k)))) := by
  obtain ⟨u', metrics, ha, hindex, hset⟩ := h.advance_of_gathersNext hm hid rfl
  obtain ⟨hv', hheld⟩ := ha.contents hv
  refine ⟨hv', hheld, hindex, ?_⟩
  cases ha with
  | listed _ hlisted => cases hlisted
  | rebuilding hask hvisit =>
    obtain ⟨-, rfl⟩ := hm
    obtain ⟨-, -, ⟨-, rfl⟩ | ⟨e, he, -⟩⟩ := ask_get hv hask
    · rw [hset]
      cases hf : held st k with
      | none => rw [hf] at hvisit; cases hvisit; rfl
      | some e => rw [hf] at hvisit; cases hvisit; rfl
    · cases he

omit [LawfulStore σ] in
/-- What a rebuild does by its own moves when nothing is due: it puts its index in place. -/
theorem Transition.rebuild_ended {built : TagIndex} (h : Transition s st m s' st')
    (hm : m.IsOwn id) (hid : s.tasks[id]? = some (.rebuild (.reading [] built))) :
    st' = st ∧ s'.index = built ∧
      s'.tasks[id]? = some (.rebuild (.finished (.ok built.keyCount))) := by
  have hactor := actor_of_isOwn hm
  cases h with
  | opened ho => cases ho <;> cases hm
  | forgotten _ | detached _ => cases hm
  | advanced hi ha =>
    obtain rfl := Option.some.inj (ha.actor.symm.trans hactor)
    cases hi.symm.trans hid
    cases ha with
    | listed _ hlisted => cases hlisted
  | rebuilt hi =>
    obtain rfl := Option.some.inj hactor
    cases hi.symm.trans hid
    exact ⟨rfl, rfl, getElem?_setTask_self (s := { s with index := built }) hid _⟩
  | led hi _ _ | ended hi | stored hi _ | linked hi | removed hi _ | relinked hi | purged hi _ _
  | restored hi | dropped hi =>
    cases hactor
    cases hi.symm.trans hid

/-- A rebuild that is not over can go on. -/
theorem exists_own_rebuild {y : Scheduler ρ × σ} {b : Rebuild} (hv : Valid y.2)
    (hid : y.1.tasks[id]? = some (.rebuild b)) (hb : ∀ result, b ≠ .finished result) :
    ∃ m, m.IsOwn id ∧ (moved y m).isSome := by
  cases b with
  | listing =>
    obtain ⟨keys, hkeys, -⟩ := list_answer (s := y.2) "" hv
    refine ⟨.storeCall id .list none, ⟨rfl, rfl⟩, ?_⟩
    simp only [moved, step, hid, Option.bind_eq_bind, Option.bind_some, Task.storeCalls, ask, hkeys,
      answerList, Rebuild.listed, List.mem_singleton, not_true_eq_false, if_false]
    rfl
  | reading due built =>
    cases due with
    | nil =>
      refine ⟨.proceed id default, rfl, ?_⟩
      simp only [moved, step, hid, Option.bind_eq_bind, Option.bind_some, resume, Rebuild.proceed]
      rfl
    | cons k due =>
      refine ⟨.storeCall id (.get k) none, ⟨rfl, rfl⟩, ?_⟩
      simp only [moved, step, hid, Option.bind_eq_bind, Option.bind_some, Task.storeCalls, ask,
        get_answer k hv, answerGet, Rebuild.visit, List.mem_singleton, not_true_eq_false, if_false]
      rfl
  | finished result => exact absurd rfl (hb result)

/-- **Reading.** A rebuild that is left alone while it reads ends well, with the index of what it has
recorded and of the tags of what is held under the keys that are due. -/
theorem rebuild_reading_completes {c : Contents} {Kept : Tag → Key → Prop} (due : List Key) :
    ∀ (y : Scheduler ρ × σ) (built : TagIndex), Valid y.2 → held y.2 = c → built.Consistent →
      built.Records due → y.1.tasks[id]? = some (.rebuild (.reading due built)) →
      (∀ t k, built.Linked t k ∨ (k ∈ due ∧ c.Carries k t) ↔ Kept t k) →
      Completes moved (Move.IsOwn id) (fun y => held y.2 = c ∧ y.1.index.Consistent ∧
        (∀ t k, y.1.index.Linked t k ↔ Kept t k) ∧
        y.1.tasks[id]? = some (.rebuild (.finished (.ok y.1.index.keyCount)))) y := by
  induction due with
  | nil =>
    intro y built hv hc hx _ hid hkept
    refine .of_open (exists_own_rebuild hv hid (by simp)) ?_
    intro m y' hm hy'
    obtain ⟨hst, hindex, hid'⟩ := (Transition.of_moved hy').rebuild_ended hm hid
    refine .done ⟨?_, ?_, fun t k => ?_, ?_⟩
    · rw [hst, hc]
    · rwa [hindex]
    · rw [hindex, ← hkept t k]
      simp
    · rw [hid', hindex]
  | cons k due ih =>
    intro y built hv hc hx hr hid hkept
    refine .of_open (exists_own_rebuild hv hid (by simp)) ?_
    intro m y' hm hy'
    obtain ⟨hv', hheld, -, hid'⟩ := (Transition.of_moved hy').rebuild_reading hv hm hid
    rw [hc] at hid'
    refine ih y' _ hv' (hheld.trans hc) (hx.record hr _) (hr.record _) hid'
      fun t j => ?_
    -- the next key is no longer due, and what is held under it is recorded
    rw [← hkept t j, TagIndex.linked_record, List.mem_cons, or_and_right, or_assoc, or_left_comm]
    refine or_congr_right (or_congr_left (and_congr_right fun hj => ?_))
    rw [hj]
    exact Iff.rfl

/-- **Rebuilding.** A rebuild that is left alone ends well, with the index of the tags of what is held,
and it says how many keys have any. -/
theorem rebuild_completes {c : Contents} {y : Scheduler ρ × σ} (hv : Valid y.2)
    (hc : held y.2 = c) (hid : y.1.tasks[id]? = some (.rebuild .listing)) :
    Completes moved (Move.IsOwn id) (fun y => held y.2 = c ∧ y.1.index.Consistent ∧
      (∀ t k, y.1.index.Linked t k ↔ c.Carries k t) ∧
      y.1.tasks[id]? = some (.rebuild (.finished (.ok y.1.index.keyCount)))) y := by
  refine .of_open (exists_own_rebuild hv hid (by simp)) ?_
  intro m y' hm hy'
  obtain ⟨hv', hheld, -, keys, hnodup, hmem, hid'⟩ :=
    (Transition.of_moved hy').rebuild_listing hv hm hid
  refine rebuild_reading_completes keys y' ∅ hv' (hheld.trans hc) .empty
    (TagIndex.records_empty hnodup) hid' fun t k => ?_
  -- every key that is held is due
  have hnone : ¬ (∅ : TagIndex).Linked t k := SortedSet.not_mem_empty k
  rw [or_iff_right hnone, hmem, hc]
  refine and_iff_right_of_imp ?_
  rintro ⟨e, he, -⟩
  rw [he]
  rfl

/-! ## The main result -/

/-- **The same index either way.** What a compaction and a rebuild that run alone, in any order and
over a store that does not fail, make of the index. -/
structure Rederives (s : Scheduler ρ) (st : σ) (x : TagIndex) : Prop where
  /-- the keys of a tag are those whose entry carries it -/
  keysForTag : ∀ t k, k ∈ x.keysForTag t ↔ (held st).Carries k t
  /-- the tags of a key are those that its entry carries -/
  tagsForKey : ∀ k t, t ∈ x.tagsForKey k ↔ (held st).Carries k t
  /-- a compaction ends with this index, and gives the number of keys that had a link and are not
  held -/
  compacted : ∃ y, moved (s, st) .compact = some y ∧
    Completes moved (Move.IsOwn s.tasks.length) (fun y => held y.2 = held st ∧ y.1.index = x ∧
      ∃ n : Nat, n = {k | (∃ t, t ∈ s.index.tagsForKey k) ∧ held st k = none}.encard ∧
        y.1.tasks[s.tasks.length]? = some (.compaction (.finished (.ok n)))) y
  /-- a rebuild ends with this index, and gives the number of keys that are held and have a tag -/
  rebuilt : ∃ y, moved (s, st) .rebuild = some y ∧
    Completes moved (Move.IsOwn s.tasks.length) (fun y => held y.2 = held st ∧ y.1.index = x ∧
      ∃ n : Nat, n = {k | ∃ e, held st k = some e ∧ ∃ t, t ∈ e.tags}.encard ∧
        y.1.tasks[s.tasks.length]? = some (.rebuild (.finished (.ok n)))) y

/-- A compaction that is begun and left alone. -/
theorem compaction_of_linked (hv : Valid st) (hx : s.index.Consistent)
    (hlinked : ∀ t k, s.index.Linked t k ∧ held st k ≠ none ↔ (held st).Carries k t) :
    ∃ y, moved (s, st) .compact = some y ∧
      Completes moved (Move.IsOwn s.tasks.length) (fun y => held y.2 = held st ∧
        y.1.index.Consistent ∧ (∀ t k, y.1.index.Linked t k ↔ (held st).Carries k t) ∧
        ∃ n : Nat, n = {k | (∃ t, t ∈ s.index.tagsForKey k) ∧ held st k = none}.encard ∧
          y.1.tasks[s.tasks.length]? = some (.compaction (.finished (.ok n)))) y := by
  have hdue : ∀ k, k ∈ SortedSet.ofList s.index.tagsOf.keys ↔ ∃ t, t ∈ s.index.tagsForKey k :=
    fun k => SortedSet.mem_ofList.trans hx.tagsOf.mem_keys_iff
  refine ⟨_, rfl, compaction_completes _ _ _ 0 rfl hv rfl hx
    ((getElem?_spawn s _ _).trans (if_pos rfl)) (fun t k => ?_) ?_⟩
  · rw [← hlinked t k]
    refine and_congr_right fun hl => not_congr (and_iff_right ?_)
    exact (hdue k).mpr ⟨t, (hx.coherent t k).mpr hl⟩
  · simp only [hdue, Nat.cast_zero, zero_add]

/-- **One index.** If the index has the links of what is held, and perhaps links of what is not, then
compacting and rebuilding make it the same. -/
theorem rederives_of_linked (hv : Valid st) (hx : s.index.Consistent)
    (hlinked : ∀ t k, s.index.Linked t k ∧ held st k ≠ none ↔ (held st).Carries k t) :
    ∃ x, Rederives s st x := by
  obtain ⟨y₁, hy₁, hcompaction⟩ := compaction_of_linked hv hx hlinked
  have hrebuild := rebuild_completes (y := (s.spawn (.rebuild .listing), st)) hv rfl
    ((getElem?_spawn s _ _).trans (if_pos rfl))
  obtain ⟨y, -, hy, hlinks, -⟩ := hrebuild.exists_end
  refine ⟨y.1.index, hlinks, fun k t => (hy.coherent t k).trans (hlinks t k),
    ⟨y₁, hy₁, hcompaction.imp ?_⟩, ⟨_, rfl, hrebuild.imp ?_⟩⟩
  · rintro y' ⟨hheld, hx', hlinks', hn⟩
    exact ⟨hheld, hx'.ext hy fun t k => (hlinks' t k).trans (hlinks t k).symm, hn⟩
  · rintro y' ⟨hheld, hx', hlinks', hid⟩
    refine ⟨hheld, hx'.ext hy fun t k => (hlinks' t k).trans (hlinks t k).symm, _, ?_, hid⟩
    -- the keys that it counts are those with a link
    rw [← hx'.encard_linked]
    congr 1
    ext k
    refine (exists_congr fun t => hlinks' t k).trans ?_
    exact ⟨fun ⟨t, e, he, ht⟩ => ⟨e, he, t, ht⟩, fun ⟨e, he, t, ht⟩ => ⟨t, e, he, ht⟩⟩

/-- Exact links are the links of what is held, and perhaps links of what is not. -/
theorem Exact.linked_iff (h : Exact s st) (hin : InStep s st) (hq : Quiet s) (t : Tag) (k : Key) :
    s.index.Linked t k ∧ held st k ≠ none ↔ (held st).Carries k t := by
  constructor
  · rintro ⟨hl, hne⟩
    obtain ⟨e, he⟩ := Option.ne_none_iff_exists'.mp hne
    exact ⟨e, he, ((h.tags_eq hin hq he).2 t).mp hl⟩
  · rintro ⟨e, he, ht⟩
    refine ⟨((h.tags_eq hin hq he).2 t).mpr ht, ?_⟩
    rw [he]
    exact Option.some_ne_none e

/-- **Compacted or rebuilt, the index is the same**: after every run from an empty store in which no
deletion has failed, whenever no flight, removal or purge is under way. -/
theorem MoveRun.rederived (r : MoveRun ρ σ) (policy : Policy) (renderTimeout : Duration)
    (h₀ : (r.state 0).1 = new policy renderTimeout) (hv : Valid (r.state 0).2)
    (hempty : ∀ k, held (r.state 0).2 k = none)
    (hm : ∀ i < r.length, (r.event i).beginsMaintenance = false) {n : Nat} (hn : n ≤ r.length)
    (hd : ∀ i < n, (r.event i).failsToDelete = false) (hq : Quiet (r.state n).1) :
    ∃ x, Rederives (r.state n).1 (r.state n).2 x := by
  have hin := r.inStep h₀ hv hempty hm
  have hexact := r.exact h₀ hempty hin hn hd
  exact rederives_of_linked (hin n hn).standing.valid (r.consistent h₀ hin hn)
    (hexact.linked_iff (hin n hn) hq)

/-- The lookup that is task `c` misses its key, and its flight brings a page in and links it. -/
def bringsPage (c : TaskId) (k : Key) : List (Move Nat) :=
  [.lookup k 1, .storeCall c (.get k) none, .proceed c .epoch, .storeCall (c + 1) (.get k) none,
    .proceed (c + 1) .epoch, .render (c + 1) (.output newsPage) .epoch,
    .storeCall (c + 1) (.put (entryOf k none newsPage .epoch) none) none,
    .proceed (c + 1) .epoch, .proceed (c + 1) .epoch, .proceed c .epoch]

/-- The second page pushes the first one out of a store for one entry, and its link stays. -/
def evictingRun : MoveRun Nat MemoryStore :=
  .ofList (new ⟨none⟩ (.ofSecs 5), .bounded 1) (bringsPage 0 ⟨"home"⟩ ++ bringsPage 2 ⟨"post"⟩)
    (by decide +kernel)

theorem rederived_after_eviction :
    ⟨"home"⟩ ∈ (evictingRun.state 20).1.index.keysForTag "news" ∧
      held (evictingRun.state 20).2 ⟨"home"⟩ = none ∧
      ∃ x, Rederives (evictingRun.state 20).1 (evictingRun.state 20).2 x := by
  have hm : ∀ i < evictingRun.length, (evictingRun.event i).beginsMaintenance = false := by
    decide +kernel
  have hd : ∀ i < 20, (evictingRun.event i).failsToDelete = false := by decide +kernel
  have hq : Quiet (evictingRun.state 20).1 := by
    unfold Quiet
    decide +kernel
  exact ⟨by decide +kernel, by decide +kernel,
    MoveRun.rederived evictingRun ⟨none⟩ (.ofSecs 5) rfl (MemoryStore.distinct_bounded 1)
      (fun _ => rfl) hm (Nat.le_refl 20) hd hq⟩

end Scheduler

end PageCache
