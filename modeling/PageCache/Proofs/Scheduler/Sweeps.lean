import PageCache.Proofs.Scheduler.Contents
import PageCache.Proofs.Scheduler.Progress

/-!
# Sweeps that run alone

A survey or a purge that is left alone, over a store that does not fail, comes to an end whatever
the order in which it visits its keys, since every visit makes fewer keys due:

* `survey_completes` — a survey ends with those of its keys whose entry carries the tag;
* `purge_completes` — a purge ends with none of its keys held.
-/

namespace PageCache

open LawfulStore

/-- The move is made by the task, and the store does not fail in it. -/
def Move.IsOwn {ρ : Type} (id : TaskId) : Move ρ → Prop
  | .storeCall i _ fault => i = id ∧ fault = none
  | .proceed i _ => i = id
  | _ => False

/-- An entry that carries the tag is held under the key. -/
def Contents.Carries (c : Contents) (k : Key) (t : Tag) : Prop := ∃ e, c k = some e ∧ t ∈ e.tags

/-- Whether the task is a sweep that does nothing next but advance by itself. -/
def Task.onlyAdvances {ρ : Type} : Task ρ → Bool
  | survey _ => true
  | purge (.answered _ _ _ _ (.ok _)) => true
  | _ => false

namespace Scheduler

variable {ρ σ : Type} [Store σ] [LawfulStore σ] {s s' : Scheduler ρ} {st st' : σ} {id : TaskId}

omit [Store σ] [LawfulStore σ] in
/-- An own move is about the task. -/
theorem actor_of_isOwn {m : Move ρ} (h : m.IsOwn id) : m.actor? = some id := by
  cases m with
  | storeCall i call fault => exact congrArg some h.1
  | proceed i now => exact congrArg some h
  | _ => exact h.elim

omit [LawfulStore σ] in
/-- An own move of such a task is an advance of it. -/
theorem Transition.advance {m : Move ρ} {t : Task ρ} (h : Transition s st m s' st')
    (hm : m.IsOwn id) (hid : s.tasks[id]? = some t) (ht : t.onlyAdvances = true) :
    ∃ t' metrics, Advance s st id m t t' metrics st' ∧ s'.tasks[id]? = some t' := by
  have hactor := actor_of_isOwn hm
  cases h with
  | opened ho => cases ho <;> cases hm
  | forgotten _ | detached _ => cases hm
  | @advanced _ i _ t' metrics _ hi ha =>
    obtain rfl : i = id := Option.some.inj (ha.actor.symm.trans hactor)
    cases hi.symm.trans hid
    exact ⟨t', metrics, ha, getElem?_setTask_self (s := { s with metrics }) hid t'⟩
  | led hi _ _ | ended hi | stored hi _ | linked hi | removed hi _ | relinked hi | purged hi _ _
  | restored hi | dropped hi | rebuilt hi =>
    -- what else a task may do, such a task does not
    cases hactor
    cases hi.symm.trans hid
    cases ht

/-! ## Surveys -/

/-- The keys found live after one more has been read. -/
def liveAfter (t : Tag) (k : Key) (live : SortedSet Key) : Option Entry → SortedSet Key
  | some e => if e.hasTag t then live.insert k else live
  | none => live

omit [Store σ] [LawfulStore σ] in
/-- The key that has been read is live if its entry carries the tag. -/
theorem mem_liveAfter {c : Contents} {t : Tag} {k j : Key} {live : SortedSet Key} :
    j ∈ liveAfter t k live (c k) ↔ j ∈ live ∨ j = k ∧ c.Carries k t := by
  unfold liveAfter Contents.Carries
  cases c k with
  | none => simp
  | some e =>
    have htag : e.hasTag t = true ↔ t ∈ e.tags := Iff.rfl
    by_cases ht : e.hasTag t = true
    · simp [← htag, ht, or_comm]
    · simp [← htag, ht]

/-- What a survey does by its own moves: it reads a key that is due, or ends when none is. -/
theorem Transition.survey {m : Move ρ} {t : Tag} {due live : SortedSet Key}
    (h : Transition s st m s' st') (hv : Valid st) (hm : m.IsOwn id)
    (hid : s.tasks[id]? = some (.survey (.reading t due live))) :
    Valid st' ∧ held st' = held st ∧
      ((∃ k ∈ due, s'.tasks[id]? =
          some (.survey (.reading t (due.erase k) (liveAfter t k live (held st k))))) ∨
        (due.isEmpty = true ∧ s'.tasks[id]? = some (.survey (.finished (.ok live))))) := by
  obtain ⟨u', metrics, ha, hset⟩ := h.advance hm hid rfl
  obtain ⟨hv', hheld⟩ := ha.contents hv
  refine ⟨hv', hheld, ?_⟩
  cases ha with
  | @surveyed _ p' k fault answer _ hk hask hvisit =>
    obtain ⟨-, rfl⟩ := hm
    obtain ⟨-, -, ⟨-, rfl⟩ | ⟨e, he, -⟩⟩ := ask_get hv hask
    · refine .inl ⟨k, hk, ?_⟩
      have hk' : k ∈ due := hk
      simp only [Survey.visit, if_pos hk', Option.some.injEq] at hvisit
      subst hvisit
      rw [hset]
      cases held st k <;> rfl
    · cases he
  | surveyEnded hp =>
    simp only [Survey.proceed] at hp
    split at hp
    · rename_i hempty
      cases hp
      exact .inr ⟨hempty, hset⟩
    · cases hp

/-- A survey that is not over can go on. -/
theorem exists_own_survey {y : Scheduler ρ × σ} {t : Tag} {due live : SortedSet Key}
    (hv : Valid y.2) (hid : y.1.tasks[id]? = some (.survey (.reading t due live))) :
    ∃ m, m.IsOwn id ∧ (moved y m).isSome := by
  cases hempty : due.isEmpty with
  | true =>
    refine ⟨.proceed id default, rfl, ?_⟩
    simp only [moved, step, hid, Option.bind_eq_bind, Option.bind_some, resume, Survey.proceed,
      if_pos hempty]
    rfl
  | false =>
    obtain ⟨k, hk⟩ := SortedSet.exists_mem_of_isEmpty hempty
    have hcall : StoreCall.get k ∈ (Task.survey (.reading t due live) : Task ρ).storeCalls := by
      simpa [Task.storeCalls, Survey.due] using hk
    refine ⟨.storeCall id (.get k) none, ⟨rfl, rfl⟩, ?_⟩
    simp only [moved, step, hid, Option.bind_eq_bind, Option.bind_some,
      if_neg (not_not_intro hcall), ask, get_answer k hv, answerGet, Survey.visit, if_pos hk]
    rfl

/-- **Surveying.** A survey that is left alone ends with the keys found so far and those due whose
entry carries the tag. -/
theorem survey_completes {t : Tag} {c : Contents} {Live : Key → Prop} (n : Nat) :
    ∀ (y : Scheduler ρ × σ) (due live : SortedSet Key), due.size = n → Valid y.2 → held y.2 = c →
      y.1.tasks[id]? = some (.survey (.reading t due live)) →
      (∀ k, k ∈ live ∨ k ∈ due ∧ c.Carries k t ↔ Live k) →
      Completes moved (Move.IsOwn id) (fun y => held y.2 = c ∧ ∃ live : SortedSet Key,
        y.1.tasks[id]? = some (.survey (.finished (.ok live))) ∧ ∀ k, k ∈ live ↔ Live k) y := by
  induction n using Nat.strong_induction_on with
  | _ n ih =>
    intro y due live hn hv hc hid hlive
    obtain ⟨m, hm, hopen⟩ := exists_own_survey hv hid
    obtain ⟨y', hy'⟩ := Option.isSome_iff_exists.mp hopen
    refine .more ⟨m, y', hm, hy'⟩ ?_
    intro m y' hm hy'
    obtain ⟨hv', hheld, ⟨k, hk, hid'⟩ | ⟨hempty, hid'⟩⟩ :=
      (Transition.of_moved hy').survey hv hm hid
    · -- one key fewer is due
      refine ih _ (hn ▸ SortedSet.size_erase_lt hk) y' _ _ rfl hv' (hheld.trans hc) hid' fun j => ?_
      rw [← hlive j, hc, mem_liveAfter, SortedSet.mem_erase]
      by_cases hj : j = k
      · subst hj
        tauto
      · tauto
    · refine .done ⟨hheld.trans hc, live, hid', fun k => ?_⟩
      rw [← hlive k]
      have hnot := SortedSet.not_mem_of_isEmpty hempty k
      tauto

/-! ## Purges -/

/-- What a purge does by its own moves while keys are due: it deletes one of them, or ends when none
is. -/
theorem Transition.purge_deleting {m : Move ρ} {t : Tag} {due : SortedSet Key} {n : Nat}
    (h : Transition s st m s' st') (hv : Valid st) (hm : m.IsOwn id)
    (hid : s.tasks[id]? = some (.purge (.deleting t due n))) :
    Valid st' ∧
      ((∃ k ∈ due, held st' = (held st).without k ∧ ∃ removed,
          s'.tasks[id]? = some (.purge (.answered t (due.erase k) n k (.ok removed)))) ∨
        (due.isEmpty = true ∧ held st' = held st ∧
          s'.tasks[id]? = some (.purge (.finished (.ok n))))) := by
  have hactor := actor_of_isOwn hm
  cases h with
  | opened ho => cases ho <;> cases hm
  | forgotten _ | detached _ => cases hm
  | @advanced _ i u u' metrics _ hi ha =>
    obtain rfl : i = id := Option.some.inj (ha.actor.symm.trans hactor)
    cases hi.symm.trans hid
    obtain ⟨hv', hheld⟩ := ha.contents hv
    have hset := getElem?_setTask_self (s := { s with metrics }) hid u'
    refine ⟨hv', ?_⟩
    cases ha with
    | purgeFailed _ hask =>
      obtain ⟨-, rfl⟩ := hm
      obtain ⟨hfault, -⟩ := ask_delete_error hv hask
      cases hfault
    | purgeEnded hempty => exact .inr ⟨hempty, hheld, hset⟩
  | @purged i t' due' n' k fault removed _ hi hk hask =>
    obtain rfl : i = id := Option.some.inj hactor
    cases hi.symm.trans hid
    obtain ⟨-, hv', hheld⟩ := ask_delete_ok hv hask
    exact ⟨hv', .inl ⟨k, hk, hheld, removed, getElem?_setTask_self hid _⟩⟩
  | led hi _ _ | ended hi | stored hi _ | linked hi | removed hi _ | relinked hi | restored hi
  | dropped hi | rebuilt hi =>
    cases hactor
    cases hi.symm.trans hid

/-- What a purge does by its own moves after a deletion: it goes on. -/
theorem Transition.purge_answered {m : Move ρ} {t : Tag} {due : SortedSet Key} {n : Nat} {k : Key}
    {removed : Bool} (h : Transition s st m s' st') (hv : Valid st) (hm : m.IsOwn id)
    (hid : s.tasks[id]? = some (.purge (.answered t due n k (.ok removed)))) :
    Valid st' ∧ held st' = held st ∧
      ∃ n', s'.tasks[id]? = some (.purge (.deleting t due n')) := by
  obtain ⟨u', metrics, ha, hset⟩ := h.advance hm hid rfl
  obtain ⟨hv', hheld⟩ := ha.contents hv
  refine ⟨hv', hheld, ?_⟩
  cases ha with
  | purgeWentOn => exact ⟨_, hset⟩

/-- A purge with keys still due can go on. -/
theorem exists_own_purge_deleting {y : Scheduler ρ × σ} {t : Tag} {due : SortedSet Key} {n : Nat}
    (hv : Valid y.2) (hid : y.1.tasks[id]? = some (.purge (.deleting t due n))) :
    ∃ m, m.IsOwn id ∧ (moved y m).isSome := by
  cases hempty : due.isEmpty with
  | true =>
    refine ⟨.proceed id default, rfl, ?_⟩
    simp only [moved, step, hid, Option.bind_eq_bind, Option.bind_some, resume, Purge.proceed,
      if_pos hempty]
    rfl
  | false =>
    obtain ⟨k, hk⟩ := SortedSet.exists_mem_of_isEmpty hempty
    have hcall : StoreCall.delete k ∈ (Task.purge (.deleting t due n) : Task ρ).storeCalls := by
      simpa [Task.storeCalls, Purge.due] using hk
    refine ⟨.storeCall id (.delete k) none, ⟨rfl, rfl⟩, ?_⟩
    simp only [moved, step, hid, Option.bind_eq_bind, Option.bind_some,
      if_neg (not_not_intro hcall), ask, delete_answer k hv, answerDelete, Purge.visit, if_pos hk]
    rfl

omit [LawfulStore σ] in
/-- A purge can go on after a deletion. -/
theorem exists_own_purge_answered {y : Scheduler ρ × σ} {t : Tag} {due : SortedSet Key} {n : Nat}
    {k : Key} {removed : Bool}
    (hid : y.1.tasks[id]? = some (.purge (.answered t due n k (.ok removed)))) :
    ∃ m, m.IsOwn id ∧ (moved y m).isSome := by
  refine ⟨.proceed id default, rfl, ?_⟩
  simp only [moved, step, hid, Option.bind_eq_bind, Option.bind_some, resume, Purge.proceed]
  rfl

/-- **Purging.** A purge that is left alone ends well, and if all keys that carry the tag were due,
then no key carries it afterwards. -/
theorem purge_completes {t : Tag} (n : Nat) :
    ∀ (y : Scheduler ρ × σ) (due : SortedSet Key) (purged : Nat), due.size = n → Valid y.2 →
      y.1.tasks[id]? = some (.purge (.deleting t due purged)) →
      (∀ k, (held y.2).Carries k t → k ∈ due) →
      Completes moved (Move.IsOwn id) (fun y =>
        (∃ purged, y.1.tasks[id]? = some (.purge (.finished (.ok purged)))) ∧
          ∀ k, ¬ (held y.2).Carries k t) y := by
  induction n using Nat.strong_induction_on with
  | _ n ih =>
    intro y due purged hn hv hid hdue
    obtain ⟨m, hm, hopen⟩ := exists_own_purge_deleting hv hid
    obtain ⟨y', hy'⟩ := Option.isSome_iff_exists.mp hopen
    refine .more ⟨m, y', hm, hy'⟩ ?_
    intro m y' hm hy'
    obtain ⟨hv', ⟨k, hk, hheld, removed, hid'⟩ | ⟨hempty, hheld, hid'⟩⟩ :=
      (Transition.of_moved hy').purge_deleting hv hm hid
    · -- one key is gone, and one key fewer is due when the purge has gone on
      have hdue' : ∀ j, (held y'.2).Carries j t → j ∈ due.erase k := by
        rintro j ⟨e, he, ht⟩
        rw [hheld] at he
        obtain ⟨hj, he⟩ := Contents.eq_of_without he
        exact SortedSet.mem_erase.mpr ⟨hj, hdue j ⟨e, he, ht⟩⟩
      obtain ⟨m', hm', hopen'⟩ := exists_own_purge_answered hid'
      obtain ⟨y'', hy''⟩ := Option.isSome_iff_exists.mp hopen'
      refine .more ⟨m', y'', hm', hy''⟩ ?_
      intro m' y'' hm' hy''
      obtain ⟨hv'', hheld', n', hid''⟩ := (Transition.of_moved hy'').purge_answered hv' hm' hid'
      refine ih _ (hn ▸ SortedSet.size_erase_lt hk) y'' _ n' rfl hv'' hid'' ?_
      rw [hheld']
      exact hdue'
    · refine .done ⟨⟨purged, hid'⟩, fun k hk => ?_⟩
      rw [hheld] at hk
      exact SortedSet.not_mem_of_isEmpty hempty k (hdue k hk)

end Scheduler

end PageCache
