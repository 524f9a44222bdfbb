import Mathlib.Algebra.BigOperators.Fin
import PageCache.Proofs.Scheduler.Books
import PageCache.Proofs.Scheduler.Retries

/-!
# What the purge counter counts

A purge keeps the number of entries that it has deleted to itself and counts them when it ends well.
So what has been deleted by purges that have not ended well has not been counted:

* `EventRun.purges_accounted` — over every run the counter and the deletions differ by exactly these;
* `EventRun.retried_purge_uncounted` — a purge that fails half way and is tried again: the counter
  stays behind for good.
-/

namespace PageCache

namespace Scheduler

variable {ρ σ : Type}

/-- Whether the task of this number is a purge that has ended well. -/
def purgeEnded (s : Scheduler ρ) (id : TaskId) : Bool :=
  match s.tasks[id]? with
  | some (.purge (.finished (.ok _))) => true
  | _ => false

theorem purgeEnded_iff {s : Scheduler ρ} {id : TaskId} :
    s.purgeEnded id = true ↔ ∃ m, s.tasks[id]? = some (.purge (.finished (.ok m))) := by
  unfold purgeEnded
  constructor
  · intro h
    split at h
    · rename_i m ht
      exact ⟨m, ht⟩
    · cases h
  · rintro ⟨m, ht⟩
    rw [ht]

/-- Only a purge that has ended well has reported anything. -/
theorem reported_of_not_purgeEnded {s : Scheduler ρ} {id : TaskId} (h : s.purgeEnded id = false) :
    (s.stageOf id).reported = 0 := by
  unfold stageOf
  cases ht : s.tasks[id]? with
  | none => rfl
  | some t =>
    cases t with
    | call k x phase => cases phase <;> rfl
    | flight k o x phase => cases phase <;> rfl
    | purge p =>
      cases p with
      | deleting t due n => rfl
      | answered t due n k answer =>
        cases answer with
        | ok removed => cases removed <;> rfl
        | error e => rfl
      | finished result =>
        cases result with
        | ok m => rw [purgeEnded_iff.mpr ⟨m, ht⟩] at h; cases h
        | error e => rfl
    | _ => rfl

/-- What all tasks weigh is the sum over their numbers. -/
theorem weigh_eq_sum (s : Scheduler ρ) (w : Stage → Nat) :
    s.weigh w = ∑ id ∈ Finset.range s.tasks.length, w (s.stageOf id) := by
  rw [Finset.sum_range]
  have hstage : ∀ id : Fin s.tasks.length, w (s.stageOf id) = w (s.tasks[id]).stage :=
    fun id => congrArg w (stageOf_of_some (List.getElem?_eq_getElem id.isLt))
  rw [Fintype.sum_congr _ _ hstage]
  exact (Fin.sum_univ_fun_getElem s.tasks fun t => w t.stage).symm

variable [Store σ]

/-- **The purge counter after the first events**, beside what purges have deleted. -/
structure PurgesAccounted (r : EventRun ρ σ) (n : Nat) : Prop where
  /-- a purge that has ended well gives the number of entries that it has deleted -/
  ended : ∀ id m, (r.state n).1.tasks[id]? = some (.purge (.finished (.ok m))) →
    m = r.markedOf id (· == .deleted) n
  /-- what purges have deleted has been counted, but for those that have not ended well -/
  balance : (r.state 0).1.metrics.count .purged + r.marked (· == .deleted) n =
    (r.state n).1.metrics.count .purged + ∑ id ∈ Finset.range (r.state n).1.tasks.length,
      if (r.state n).1.purgeEnded id then 0 else r.markedOf id (· == .deleted) n
  /-- so the counter is right exactly if these have deleted nothing -/
  exact_iff : (r.state n).1.metrics.count .purged =
      (r.state 0).1.metrics.count .purged + r.marked (· == .deleted) n ↔
    ∀ id < (r.state n).1.tasks.length, (r.state n).1.purgeEnded id = false →
      r.markedOf id (· == .deleted) n = 0

/-- When everything is over, the counter says what purges have deleted. -/
def CountsDeletions (r : EventRun ρ σ) : Prop :=
  ∀ n ≤ r.length, (∀ t ∈ (r.state n).1.tasks, t.isOver = true) →
    (r.state n).1.metrics.count .purged =
      (r.state 0).1.metrics.count .purged + r.marked (· == .deleted) n

namespace EventRun

variable {r : EventRun ρ σ} {n : Nat}

/-- A purge that has not failed has deleted what it says. -/
theorem markedOf_deleted (h₀ : (r.state 0).1.tasks = []) (id : TaskId) (hn : n ≤ r.length)
    (hs : (r.state n).1.stageOf id ≠ .unpurged) :
    r.markedOf id (· == .deleted) n = ((r.state n).1.stageOf id).deletions := by
  induction n with
  | zero =>
    unfold stageOf
    rw [h₀]
    rfl
  | succ n ih =>
    obtain ⟨g, g', new, ms, hbooks, henters⟩ := r.entered hn
    have ih := ih (Nat.le_of_succ_le hn)
    unfold markedOf at ih ⊢
    rw [Run.number_succ]
    by_cases hid : (r.event n).actor? = some id
    · obtain ⟨hg, hg'⟩ := henters.own id hid
      rw [hg'] at hs ⊢
      obtain ⟨hfailed, hdeleted⟩ := hbooks.deletion hs
      rw [hg] at ih
      rw [ih hfailed, hid, beq_self_eq_true, Bool.true_and, hdeleted]
    · rw [beq_false_of_ne hid, Bool.false_and, Bool.toNat_false, Nat.add_zero]
      obtain hsame | ⟨hq, hnew⟩ := henters.others id hid
      · rw [hsame] at hs ⊢
        exact ih hs
      · rw [hq] at ih
        rw [ih (by simp)]
        obtain hf | hf := hbooks.begins hnew <;> rw [hf] <;> rfl

/-- The counter says what the purges have reported. -/
theorem count_purged (h₀ : (r.state 0).1.tasks = []) (hn : n ≤ r.length) :
    (r.state n).1.metrics.count .purged =
      (r.state 0).1.metrics.count .purged + (r.state n).1.weigh Stage.reported := by
  refine r.invariant (P := fun y => y.1.metrics.count .purged =
    (r.state 0).1.metrics.count .purged + y.1.weigh Stage.reported) ?_ ?_ n hn
  · rw [weigh_of_nil h₀]
    rfl
  · intro y e y' hy ih
    obtain ⟨g, g', new, ms, hbooks, henters⟩ := (Occurs.of_happen hy).entered
    have hcount := henters.counts .purged
    have hweight := henters.weights Stage.reported rfl
    have hnew := hbooks.weight_new (w := Stage.reported) rfl rfl
    have hbook := hbooks.purge
    omega

/-- An event with a mark is about a task that is there. -/
theorem exists_actor {y : Scheduler ρ × σ} {e : Event ρ} {μ : Mark} (h : e.mark y = some μ) :
    ∃ id t, e.actor? = some id ∧ y.1.tasks[id]? = some t := by
  unfold Event.mark at h
  obtain ⟨t, ht, -⟩ := Option.bind_eq_some_iff.mp h
  obtain ⟨id, hid, ht⟩ := Option.bind_eq_some_iff.mp ht
  exact ⟨id, t, hid, ht⟩

/-- The events of these marks are those about each task together. -/
theorem marked_eq_sum {L : Nat} (q : Mark → Bool) (hn : n ≤ r.length)
    (hL : (r.state n).1.tasks.length ≤ L) :
    r.marked q n = ∑ id ∈ Finset.range L, r.markedOf id q n := by
  induction n with
  | zero =>
    unfold marked markedOf
    simp
  | succ n ih =>
    have hlater := r.later (Nat.le_succ n) hn
    have hlen : (r.state n).1.tasks.length ≤ (r.state (n + 1)).1.tasks.length := by
      by_contra hlt
      obtain ⟨t, ht, -⟩ := hlater _ _ (List.getElem?_eq_getElem (Nat.lt_of_not_le hlt))
      rw [List.getElem?_eq_none (Nat.le_refl _)] at ht
      cases ht
    unfold marked markedOf at ih ⊢
    simp only [Run.number_succ, Finset.sum_add_distrib]
    rw [ih (Nat.le_of_succ_le hn) (Nat.le_trans hlen hL)]
    congr 1
    cases hμ : (r.event n).mark (r.state n) with
    | none => simp
    | some μ =>
      obtain ⟨id, t, hid, ht⟩ := exists_actor hμ
      have hlt : id < L :=
        Nat.lt_of_lt_of_le (List.getElem?_eq_some_iff.mp ht).1 (Nat.le_trans hlen hL)
      rw [Finset.sum_eq_single_of_mem id (Finset.mem_range.mpr hlt), hid, beq_self_eq_true,
        Bool.true_and]
      intro j _ hj
      have hne : some id ≠ some j := fun h => hj (Option.some.inj h).symm
      rw [hid, beq_false_of_ne hne]
      rfl

/-- **The purge counter.** In every run of a scheduler that has no tasks at first, whatever it has
stored and linked, the counter misses exactly what the purges have deleted that did not end well. -/
theorem purges_accounted (r : EventRun ρ σ) (h₀ : (r.state 0).1.tasks = []) (hn : n ≤ r.length) :
    PurgesAccounted r n := by
  have hreturned : ∀ id m, (r.state n).1.tasks[id]? = some (.purge (.finished (.ok m))) →
      m = r.markedOf id (· == .deleted) n := by
    intro id m hid
    have hstage : (r.state n).1.stageOf id = .purged m := stageOf_of_some hid
    rw [markedOf_deleted h₀ id hn (by simp [hstage]), hstage]
    rfl
  have hbalance : (r.state 0).1.metrics.count .purged + r.marked (· == .deleted) n =
      (r.state n).1.metrics.count .purged + ∑ id ∈ Finset.range (r.state n).1.tasks.length,
        if (r.state n).1.purgeEnded id then 0 else r.markedOf id (· == .deleted) n := by
    have hreported : ∀ id, ((r.state n).1.stageOf id).reported =
        if (r.state n).1.purgeEnded id then r.markedOf id (· == .deleted) n else 0 := by
      intro id
      cases hended : (r.state n).1.purgeEnded id with
      | true =>
        obtain ⟨m, hid⟩ := purgeEnded_iff.mp hended
        rw [← hreturned id m hid, stageOf_of_some hid]
        rfl
      | false => exact reported_of_not_purgeEnded hended
    rw [count_purged h₀ hn, weigh_eq_sum, Finset.sum_congr rfl fun id _ => hreported id,
      marked_eq_sum (· == .deleted) hn (Nat.le_refl _), Nat.add_assoc, ← Finset.sum_add_distrib]
    congr 1
    refine Finset.sum_congr rfl fun id _ => ?_
    split <;> simp
  have hzero : (∑ id ∈ Finset.range (r.state n).1.tasks.length,
        if (r.state n).1.purgeEnded id then 0 else r.markedOf id (· == .deleted) n) = 0 ↔
      ∀ id < (r.state n).1.tasks.length, (r.state n).1.purgeEnded id = false →
        r.markedOf id (· == .deleted) n = 0 := by
    rw [Finset.sum_eq_zero_iff]
    refine forall_congr' fun id => ?_
    rw [Finset.mem_range]
    cases (r.state n).1.purgeEnded id <;> simp
  refine ⟨hreturned, hbalance, ?_⟩
  rw [← hzero]
  omega

/-- A purge of the news deletes the first of two pages and cannot delete the second. It is tried
again, and ends well. -/
def retriedPurge : List (Event Nat) :=
  (Move.invalidateTag "news" :: halfPurge ++ Move.invalidateTag "news" :: restPurge).map .move

/-- The run of these events. -/
def retriedPurgeRun : EventRun Nat MemoryStore := .ofList linkedPair retriedPurge rfl

theorem purges_accounted_when_retried :
    (retriedPurgeRun.state 0).1.tasks = [] ∧ PurgesAccounted retriedPurgeRun 9 ∧
      retriedPurgeRun.markedOf 0 (· == .deleted) 9 = 1 ∧
      retriedPurgeRun.markedOf 1 (· == .deleted) 9 = 1 :=
  ⟨rfl, purges_accounted retriedPurgeRun rfl (Nat.le_refl 9), rfl, rfl⟩

/-- **Deletions go uncounted.** Two pages are deleted by the purge and its retry, both of which are
over, and one is counted. -/
theorem retried_purge_uncounted :
    (retriedPurgeRun.state 0).1.tasks = [] ∧ ¬ CountsDeletions retriedPurgeRun := by
  refine ⟨rfl, fun h => ?_⟩
  have hover : ∀ t ∈ (retriedPurgeRun.state 9).1.tasks, t.isOver = true := by decide +kernel
  have hcount : (1 : Nat) = 0 + 2 := h 9 (Nat.le_refl 9) hover
  cases hcount

end EventRun

end Scheduler

end PageCache
