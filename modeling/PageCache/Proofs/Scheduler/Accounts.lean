import PageCache.Proofs.Scheduler.Books
import PageCache.Proofs.Scheduler.Served
import PageCache.Store.Memory

/-!
# What is counted is what happened

Over a whole run the books add up, whatever the interleaving, and whatever fails or breaks down:

* each **call** that returns counts one outcome, the one of its result, and a call that is given up
  counts none;
* each **dispatch** is a flight or is counted as joining one;
* each **flight** comes to its result in one way and counts once what that way counts as, which is
  nothing where the store fails or something breaks down;
* **commits** and **times** are as many as the writes of flights say.
-/

namespace PageCache

namespace Scheduler

variable {ρ σ : Type} [Store σ]

/-- **The accounts after the first events.** What has been counted is what has happened, for each
call, for each flight, and for all of them. -/
structure Accounted (r : EventRun ρ σ) (n : Nat) : Prop where
  /-- a call that has returned has counted the outcome of its result once, and no other -/
  returned : ∀ id k x result, (r.state n).1.tasks[id]? = some (.call k x (.finished result)) →
    ∀ o, r.counted id (.lookup o) n = if o = .of result then 1 else 0
  /-- what has not returned, as a call that is waiting or given up, has counted none -/
  unreturned : ∀ id, (∀ k x result,
      (r.state n).1.tasks[id]? ≠ some (.call k x (.finished result))) →
    ∀ o, r.counted id (.lookup o) n = 0
  /-- so an outcome is counted as often as calls have returned with it -/
  lookups : ∀ o, (r.state n).1.metrics.count (.lookup o) =
    (r.state n).1.numberAt (· == .returned o)
  /-- whoever needs a regeneration has started a flight or is counted as having joined one -/
  dispatches : r.marked (· == .dispatched) n =
    (r.state n).1.numberAt Stage.isFlight + (r.state n).1.metrics.count .joined
  /-- a flight that is over has had its result in exactly one way, and what that way counts as it has
  counted once, and nothing else: nothing at all if the store failed or something broke down -/
  landed : ∀ id k o x result, (r.state n).1.tasks[id]? = some (.flight k o x (.finished result)) →
    ∃ i < n, ∃ μ, (r.event i).actor? = some id ∧ (r.event i).mark (r.state i) = some μ ∧
      μ.lands.isSome ∧
      (∀ j < n, (r.event j).actor? = some id →
        ((r.event j).mark (r.state j)).any (·.lands.isSome) → j = i) ∧
      ∀ res, r.counted id (.regeneration res) n = if μ.result? = some res then 1 else 0
  /-- so a result is counted as often as it has come about -/
  regenerations : ∀ res, (r.state n).1.metrics.count (.regeneration res) =
    r.marked (·.result? == some res) n
  /-- the writes that the store has taken are committed, have broken down in the store after that, or
  the flight has still to go on -/
  writes : r.marked (· == .stored) n =
    (r.state n).1.metrics.count (.regeneration .committed) + r.marked (· == .writeBroke) n +
      (r.state n).1.numberAt (· == .written)
  /-- a time has been taken for each commit, each conflict, each flight whose write has failed or
  broken down, and each flight that has still to write or to go on after its write -/
  samples : (r.state n).1.metrics.count .renderTime =
    (r.state n).1.metrics.count (.regeneration .committed) +
      (r.state n).1.metrics.count (.regeneration .conflict) +
      r.marked (fun μ => μ == .writeFailed || μ == .writeBroke) n +
      (r.state n).1.numberAt fun g => g == .rendered || g == .written
  /-- when all tasks are over, no flight is on its way between its render and its result -/
  settled : (∀ t ∈ (r.state n).1.tasks, t.isOver = true) →
    r.marked (· == .stored) n =
        (r.state n).1.metrics.count (.regeneration .committed) + r.marked (· == .writeBroke) n ∧
      (r.state n).1.metrics.count .renderTime =
        (r.state n).1.metrics.count (.regeneration .committed) +
          (r.state n).1.metrics.count (.regeneration .conflict) +
          r.marked (fun μ => μ == .writeFailed || μ == .writeBroke) n

namespace EventRun

variable {r : EventRun ρ σ} {n : Nat}

/-- A call has counted the outcome with which it has returned, and nothing before. -/
theorem counted_lookup (h₀ : (r.state 0).1.tasks = []) (id : TaskId) (o : LookupOutcome)
    (hn : n ≤ r.length) :
    r.counted id (.lookup o) n = ((r.state n).1.stageOf id == .returned o).toNat := by
  induction n with
  | zero =>
    simp only [counted, stageOf, h₀]
    rfl
  | succ n ih =>
    obtain ⟨g, g', new, ms, hbooks, henters⟩ := r.entered hn
    rw [counted_succ henters, ih (Nat.le_of_succ_le hn)]
    by_cases hid : (r.event n).actor? = some id
    · obtain ⟨hg, hg'⟩ := henters.own id hid
      rw [if_pos hid, hg, hg']
      exact hbooks.lookup o
    · rw [if_neg hid, Nat.add_zero]
      exact (henters.weight_other hbooks hid (w := fun g => (g == .returned o).toNat)
        rfl rfl rfl).symm

/-- A task has counted a result as often as it came about in it. -/
theorem counted_regeneration (id : TaskId) (res : RegenerationResult) (hn : n ≤ r.length) :
    r.counted id (.regeneration res) n = r.markedOf id (·.result? == some res) n := by
  induction n with
  | zero => rfl
  | succ n ih =>
    obtain ⟨g, g', new, ms, hbooks, henters⟩ := r.entered hn
    rw [counted_succ henters, ih (Nat.le_of_succ_le hn)]
    unfold markedOf
    rw [Run.number_succ]
    by_cases hid : (r.event n).actor? = some id
    · rw [if_pos hid, hbooks.regeneration res, hid, beq_self_eq_true, Bool.true_and]
    · rw [if_neg hid, beq_false_of_ne hid, Bool.false_and]
      rfl

/-- A flight has come to its result once if it has it, and not before. -/
theorem markedOf_lands (h₀ : (r.state 0).1.tasks = []) (id : TaskId) (hn : n ≤ r.length) :
    r.markedOf id (·.lands.isSome) n = ((r.state n).1.stageOf id == .landed).toNat := by
  have hbalance := r.balance (fun y => (y.1.stageOf id == .landed).toNat) (fun _ => 0)
    (fun _ _ => false) (fun y e => e.actor? == some id && (e.mark y).any (·.lands.isSome))
    (by simp [stageOf, h₀]) ?_ n hn
  · simpa [markedOf] using hbalance.symm
  · intro i hi
    obtain ⟨g, g', new, ms, hbooks, henters⟩ := r.entered hi
    by_cases hid : (r.event i).actor? = some id
    · obtain ⟨hg, hg'⟩ := henters.own id hid
      simp only [hg, hg', hid, beq_self_eq_true, Bool.true_and]
      exact hbooks.land.symm
    · have hother := henters.weight_other hbooks hid (w := fun g => (g == .landed).toNat) rfl rfl rfl
      simp only [beq_false_of_ne hid, Bool.false_and, hother]

/-- An outcome is counted as often as calls have returned with it. -/
theorem count_lookup (h₀ : (r.state 0).1.tasks = []) (hm : (r.state 0).1.metrics = .zero)
    (o : LookupOutcome) (hn : n ≤ r.length) :
    (r.state n).1.metrics.count (.lookup o) = (r.state n).1.numberAt (· == .returned o) := by
  refine r.invariant
    (P := fun y => y.1.metrics.count (.lookup o) = y.1.numberAt (· == .returned o)) ?_ ?_ n hn
  · simp [numberAt_of_nil h₀, hm]
  · intro y e y' hy ih
    obtain ⟨g, g', new, ms, hbooks, henters⟩ := (Occurs.of_happen hy).entered
    have hcount := henters.counts (.lookup o)
    have hnumber := henters.numbers (· == .returned o) rfl
    have hbook := hbooks.lookup o
    have hnew := hbooks.weight_new (w := fun g => (g == .returned o).toNat) rfl rfl
    omega

/-- A result is counted as often as it has come about. -/
theorem count_regeneration (hm : (r.state 0).1.metrics = .zero) (res : RegenerationResult)
    (hn : n ≤ r.length) :
    (r.state n).1.metrics.count (.regeneration res) = r.marked (·.result? == some res) n := by
  have hbalance := r.balance (fun y => y.1.metrics.count (.regeneration res)) (fun _ => 0)
    (fun _ _ => false) (fun y e => (e.mark y).any (·.result? == some res))
    (by simp [hm]) ?_ n hn
  · simpa [marked] using hbalance
  · intro i hi
    obtain ⟨g, g', new, ms, hbooks, henters⟩ := r.entered hi
    have hcount := henters.counts (.regeneration res)
    have hbook := hbooks.regeneration res
    simp only [Bool.toNat_false]
    omega

/-- Each dispatch is a flight or is counted as joining one. -/
theorem marked_dispatched (h₀ : (r.state 0).1.tasks = []) (hm : (r.state 0).1.metrics = .zero)
    (hn : n ≤ r.length) :
    r.marked (· == .dispatched) n =
      (r.state n).1.numberAt Stage.isFlight + (r.state n).1.metrics.count .joined := by
  have hbalance := r.balance
    (fun y => y.1.numberAt Stage.isFlight + y.1.metrics.count .joined) (fun _ => 0)
    (fun _ _ => false) (fun y e => (e.mark y).any (· == .dispatched))
    (by simp [numberAt_of_nil h₀, hm]) ?_ n hn
  · simpa [marked] using hbalance.symm
  · intro i hi
    obtain ⟨g, g', new, ms, hbooks, henters⟩ := r.entered hi
    have hcount := henters.counts .joined
    have hnumber := henters.numbers Stage.isFlight rfl
    have hbook := hbooks.dispatch
    rw [hbooks.isFlight] at hnumber
    simp only [Bool.toNat_false]
    omega

/-- Each write that the store has taken is committed, broken down or on its way. -/
theorem marked_stored (h₀ : (r.state 0).1.tasks = []) (hm : (r.state 0).1.metrics = .zero)
    (hn : n ≤ r.length) :
    r.marked (· == .stored) n =
      (r.state n).1.metrics.count (.regeneration .committed) + r.marked (· == .writeBroke) n +
        (r.state n).1.numberAt (· == .written) := by
  have hbalance := r.balance
    (fun y => y.1.metrics.count (.regeneration .committed) + y.1.numberAt (· == .written))
    (fun _ => 0) (fun y e => (e.mark y).any (· == .writeBroke))
    (fun y e => (e.mark y).any (· == .stored)) (by simp [numberAt_of_nil h₀, hm]) ?_ n hn
  · unfold marked
    omega
  · intro i hi
    obtain ⟨g, g', new, ms, hbooks, henters⟩ := r.entered hi
    have hcount := henters.counts (.regeneration .committed)
    have hnumber := henters.numbers (· == .written) rfl
    have hbook := hbooks.write
    have hnew := hbooks.weight_new (w := fun g => (g == .written).toNat) rfl rfl
    omega

/-- Each time that has been taken belongs to a commit, a conflict, a failed write or a flight on its
way. -/
theorem count_renderTime (h₀ : (r.state 0).1.tasks = []) (hm : (r.state 0).1.metrics = .zero)
    (hn : n ≤ r.length) :
    (r.state n).1.metrics.count .renderTime =
      (r.state n).1.metrics.count (.regeneration .committed) +
        (r.state n).1.metrics.count (.regeneration .conflict) +
        r.marked (fun μ => μ == .writeFailed || μ == .writeBroke) n +
        (r.state n).1.numberAt fun g => g == .rendered || g == .written := by
  have hbalance := r.balance
    (fun y => y.1.metrics.count .renderTime)
    (fun y => y.1.metrics.count (.regeneration .committed) +
      y.1.metrics.count (.regeneration .conflict) +
      y.1.numberAt fun g => g == .rendered || g == .written)
    (fun _ _ => false)
    (fun y e => (e.mark y).any fun μ => μ == .writeFailed || μ == .writeBroke)
    (by simp [numberAt_of_nil h₀, hm]) ?_ n hn
  · rw [Run.number_never] at hbalance
    unfold marked
    omega
  · intro i hi
    obtain ⟨g, g', new, ms, hbooks, henters⟩ := r.entered hi
    have htime := henters.counts .renderTime
    have hcommitted := henters.counts (.regeneration .committed)
    have hconflict := henters.counts (.regeneration .conflict)
    have hnumber := henters.numbers (fun g => g == .rendered || g == .written) rfl
    have hbook := hbooks.sample
    have hnew := hbooks.weight_new (w := fun g => (g == .rendered || g == .written).toNat) rfl rfl
    simp only [Bool.toNat_false]
    omega

/-- No task stands on its way when all are over. -/
theorem numberAt_of_over {s : Scheduler ρ} (h : ∀ t ∈ s.tasks, t.isOver = true) {p : Stage → Bool}
    (hp : ∀ g, g.isSettled = true → p g = false) : s.numberAt p = 0 := by
  refine List.sum_eq_zero_iff_forall_eq_nat.mpr fun n hn => ?_
  obtain ⟨t, ht, rfl⟩ := List.mem_map.mp hn
  exact congrArg Bool.toNat (hp _ (stage_of_over (h t ht)))

/-- A flight that has its result has it in one way, and has counted what that way counts as. -/
theorem landed_once (h₀ : (r.state 0).1.tasks = []) (hn : n ≤ r.length) {id : TaskId}
    (hl : (r.state n).1.stageOf id = .landed) :
    ∃ i < n, ∃ μ, (r.event i).actor? = some id ∧ (r.event i).mark (r.state i) = some μ ∧
      μ.lands.isSome ∧
      (∀ j < n, (r.event j).actor? = some id →
        ((r.event j).mark (r.state j)).any (·.lands.isSome) → j = i) ∧
      ∀ res, r.counted id (.regeneration res) n = if μ.result? = some res then 1 else 0 := by
  have hone : r.markedOf id (·.lands.isSome) n = 1 := by
    rw [markedOf_lands h₀ id hn, hl]
    rfl
  obtain ⟨i, hi, hk, hu⟩ := r.exists_of_number_eq_one hone
  obtain ⟨hid, hmark⟩ := Bool.and_eq_true_iff.mp hk
  cases hμ : (r.event i).mark (r.state i) with
  | none => rw [hμ] at hmark; cases hmark
  | some μ =>
    rw [hμ] at hmark
    refine ⟨i, hi, μ, eq_of_beq hid, hμ, hmark, fun j hj hjd hjm => hu j hj ?_, fun res => ?_⟩
    · rw [hjd, hjm, beq_self_eq_true, Bool.true_and]
    · rw [counted_regeneration id res hn]
      unfold markedOf
      rw [r.number_eq_toNat hi, eq_of_beq hid, hμ]
      · by_cases h : μ.result? = some res <;> simp [h]
      · intro j hj hkj
        obtain ⟨hjd, hjm⟩ := Bool.and_eq_true_iff.mp hkj
        refine hu j hj (Bool.and_eq_true_iff.mpr ⟨hjd, ?_⟩)
        cases hμ' : (r.event j).mark (r.state j) with
        | none => rw [hμ'] at hjm; cases hjm
        | some μ' =>
          rw [hμ'] at hjm
          exact Mark.lands_of_result? (eq_of_beq hjm)

/-! ## The main result -/

/-- **Accounts.** In every run of a scheduler that has done nothing before, the counters say what
has happened. -/
theorem accounted (r : EventRun ρ σ) (h₀ : (r.state 0).1.tasks = [])
    (hm : (r.state 0).1.metrics = .zero) (hn : n ≤ r.length) : Accounted r n where
  returned id k x result hc o := by
    rw [counted_lookup h₀ id o hn, stageOf_of_some hc]
    by_cases ho : o = .of result <;> simp [Task.stage, ho, Ne.symm]
  unreturned id hno o := by
    rw [counted_lookup h₀ id o hn, Bool.toNat_eq_zero, beq_eq_false_iff_ne]
    intro hstage
    obtain ⟨k, x, result, hc, -⟩ := exists_of_stageOf_returned hstage
    exact hno k x result hc
  lookups o := count_lookup h₀ hm o hn
  dispatches := marked_dispatched h₀ hm hn
  landed id k o x result hf := landed_once h₀ hn (stageOf_of_some hf)
  regenerations res := count_regeneration hm res hn
  writes := marked_stored h₀ hm hn
  samples := count_renderTime h₀ hm hn
  settled hover := by
    have hwritten := numberAt_of_over (p := (· == .written)) hover
      fun g hg => by cases g <;> first | rfl | cases hg
    have hway := numberAt_of_over (p := fun g => g == .rendered || g == .written) hover
      fun g hg => by cases g <;> first | rfl | cases hg
    have hwrites := marked_stored h₀ hm hn
    have hsamples := count_renderTime h₀ hm hn
    rw [hwritten] at hwrites
    rw [hway] at hsamples
    exact ⟨hwrites, hsamples⟩

/-- Two calls share a flight that commits, and the first of them gives up. A third is served the page,
which is stale by then, and the write of the flight that it starts fails. A fourth waits for a flight
that breaks down while it renders. -/
def mixedFortunes : List (Event Nat) :=
  [.move (.lookup ⟨"home"⟩ 1), .move (.lookup ⟨"home"⟩ 2),
    .move (.storeCall 0 (.get ⟨"home"⟩) none), .move (.storeCall 1 (.get ⟨"home"⟩) none),
    .move (.proceed 0 .epoch), .move (.proceed 1 .epoch), .move (.abandon 0),
    .move (.storeCall 2 (.get ⟨"home"⟩) none), .move (.proceed 2 .epoch),
    .move (.render 2 (.output stalePage) .epoch),
    .move (.storeCall 2 (.put (entryOf ⟨"home"⟩ none stalePage .epoch) none) none),
    .move (.proceed 2 .epoch), .move (.proceed 2 .epoch), .move (.proceed 1 .epoch),
    .move (.lookup ⟨"home"⟩ 3), .move (.storeCall 3 (.get ⟨"home"⟩) none),
    .move (.proceed 3 .epoch), .move (.storeCall 4 (.get ⟨"home"⟩) none),
    .move (.proceed 4 .epoch), .move (.render 4 (.output stalePage) .epoch),
    .move (.storeCall 4 (.put (entryOf ⟨"home"⟩ (some 1) stalePage .epoch) (some 1))
      (some (.unavailable "down"))),
    .move (.proceed 4 .epoch),
    .move (.lookup ⟨"about"⟩ 4), .move (.storeCall 5 (.get ⟨"about"⟩) none),
    .move (.proceed 5 .epoch), .move (.storeCall 6 (.get ⟨"about"⟩) none),
    .move (.proceed 6 .epoch), .breakDown 6 "lost", .move (.proceed 6 .epoch),
    .move (.proceed 5 .epoch)]

/-- The run of these events over an empty store. -/
def mixedFortunesRun : EventRun Nat MemoryStore :=
  .ofList (new ⟨none⟩ (.ofSecs 5), .unbounded) mixedFortunes rfl

theorem accounted_when_mixed :
    (mixedFortunesRun.state 0).1.tasks = [] ∧
      (mixedFortunesRun.state 0).1.metrics = .zero ∧ Accounted mixedFortunesRun 30 ∧
      (∀ m, (mixedFortunesRun.state 30).1.metrics.count m =
        if m = .lookup .miss ∨ m = .lookup .stale ∨ m = .lookup .error ∨ m = .joined ∨
          m = .regeneration .committed then 1 else if m = .renderTime then 2 else 0) := by
  refine ⟨rfl, rfl, accounted mixedFortunesRun rfl rfl (Nat.le_refl 30), fun m => ?_⟩
  cases m with
  | lookup o => cases o <;> rfl
  | regeneration res => cases res <;> rfl
  | _ => rfl

end EventRun

end Scheduler

end PageCache
