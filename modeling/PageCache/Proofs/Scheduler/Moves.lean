import PageCache.Proofs.Scheduler.Progress

/-!
# Moves and their transitions

`Transition.of_step` says that a move does nothing but what `Transition` lists. Two more facts about
moves:

* **the store** — a move changes the store by its store call, if it has one that does not fail, so
  the store after it is known from the move alone (`store_of_step`, `store_of_happen`);
* **every transition is open** — whatever `Transition` lists happens (`Transition.step_eq`), so that
  a move can be made by naming its transition.
-/

namespace PageCache

/-- The store after a call on it. -/
def StoreCall.after {σ : Type} [Store σ] (st : σ) : StoreCall → σ
  | .get k => (Store.get st k).2
  | .put e o => (Store.put st e o).2
  | .delete k => (Store.delete st k).2
  | .list => (Store.list st "").2

/-- The store after a move: it changes by the store call of the move, if that does not fail. -/
def Move.after {ρ σ : Type} [Store σ] (st : σ) : Move ρ → σ
  | .storeCall _ call none => call.after st
  | _ => st

/-- The store after an event. -/
def Event.after {ρ σ : Type} [Store σ] (st : σ) : Event ρ → σ
  | .move m => m.after st
  | .breakDown _ _ => st

namespace Scheduler

variable {ρ σ : Type} [Store σ] {s s' : Scheduler ρ} {st st' : σ} {t : Task ρ}

/-! ## The store after a move -/

/-- A store call is one that its task is about to make. -/
theorem mem_storeCalls_of_step {id : TaskId} {call : StoreCall} {fault : Option StoreError}
    (h : s.step st (.storeCall id call fault) = some (s', st')) :
    ∃ t, s.tasks[id]? = some t ∧ call ∈ t.storeCalls := by
  obtain ⟨t, ht, h⟩ := Option.bind_eq_some_iff.mp h
  refine ⟨t, ht, ?_⟩
  by_cases hc : call ∈ t.storeCalls
  · exact hc
  · rw [if_pos hc] at h
    cases h

/-- **The store** after a move. -/
theorem store_of_step {m : Move ρ} (h : s.step st m = some (s', st')) : st' = m.after st := by
  cases m with
  | storeCall id call fault =>
    obtain ⟨t, ht, hcall⟩ := mem_storeCalls_of_step h
    obtain ⟨t', ht', h⟩ := Option.bind_eq_some_iff.mp h
    cases ht.symm.trans ht'
    rw [if_neg (not_not_intro hcall)] at h
    cases call with
    | get k | put e o | delete k | list =>
      obtain ⟨s₁, hs, h⟩ := Option.bind_eq_some_iff.mp h
      cases h
      cases fault <;> rfl
  | proceed id now =>
    obtain ⟨t, ht, h⟩ := Option.bind_eq_some_iff.mp h
    obtain ⟨s₁, hs, h⟩ := Option.bind_eq_some_iff.mp h
    cases h
    rfl
  | render id ending now =>
    simp only [step] at h
    split at h <;> cases h
    rfl
  | abandon id =>
    simp only [step] at h
    split at h
    · split at h <;> cases h
      rfl
    · cases h
  | _ =>
    cases h
    rfl

/-- **The store** after an event. -/
theorem store_of_happen {e : Event ρ} (h : happen (s, st) e = some (s', st')) :
    st' = e.after st := by
  cases e with
  | move m => exact store_of_step h
  | breakDown id message =>
    simp only [happen] at h
    split at h
    · split at h <;> cases h
      rfl
    · cases h

variable {id : TaskId} {k : Key} {fault : Option StoreError}

/-! ## Store calls, and going on -/

theorem step_get {answer : Except StoreError (Option Entry)} (ht : s.tasks[id]? = some t)
    (hc : StoreCall.get k ∈ t.storeCalls) (ha : ask fault st (Store.get · k) = (answer, st'))
    (h : s.answerGet id t k answer = some s') :
    s.step st (.storeCall id (.get k) fault) = some (s', st') := by
  simp only [step, ht, Option.bind_eq_bind, Option.bind_some, if_neg (not_not_intro hc), ha, h]
  rfl

theorem step_put {e : Entry} {o : Option Generation} {answer : Except StoreError PutOutcome}
    (ht : s.tasks[id]? = some t) (hc : StoreCall.put e o ∈ t.storeCalls)
    (ha : ask fault st (Store.put · e o) = (answer, st')) (h : s.answerPut id t answer = some s') :
    s.step st (.storeCall id (.put e o) fault) = some (s', st') := by
  simp only [step, ht, Option.bind_eq_bind, Option.bind_some, if_neg (not_not_intro hc), ha, h]
  rfl

theorem step_delete {answer : Except StoreError Bool} (ht : s.tasks[id]? = some t)
    (hc : StoreCall.delete k ∈ t.storeCalls) (ha : ask fault st (Store.delete · k) = (answer, st'))
    (h : s.answerDelete id t k answer = some s') :
    s.step st (.storeCall id (.delete k) fault) = some (s', st') := by
  simp only [step, ht, Option.bind_eq_bind, Option.bind_some, if_neg (not_not_intro hc), ha, h]
  rfl

theorem step_list {answer : Except StoreError (List Key)} (ht : s.tasks[id]? = some t)
    (hc : StoreCall.list ∈ t.storeCalls) (ha : ask fault st (Store.list · "") = (answer, st'))
    (h : s.answerList id t answer = some s') :
    s.step st (.storeCall id .list fault) = some (s', st') := by
  simp only [step, ht, Option.bind_eq_bind, Option.bind_some, if_neg (not_not_intro hc), ha, h]
  rfl

theorem step_proceed {now : Instant} (ht : s.tasks[id]? = some t)
    (h : s.resume id t now = some s') : s.step st (.proceed id now) = some (s', st) := by
  simp only [step, ht, Option.bind_eq_bind, Option.bind_some, h]
  rfl

/-! ## One move -/

/-- What a flight does that has read: it ends superseded. -/
theorem recheck_of_superseded {o : Option Generation} {e : Entry} {now : Instant}
    (h : s.Superseded o (some e) now) :
    s.recheck o (some e) now = (.ending (.ok e), s.bump (.regeneration .superseded)) := by
  obtain ⟨e', he, hs⟩ := h
  cases he
  exact if_pos hs

/-- What a flight does that has read: it renders. -/
theorem recheck_of_not_superseded {o : Option Generation} {found : Option Entry} {now : Instant}
    (h : ¬ s.Superseded o found now) : s.recheck o found now = (.rendering, s) := by
  cases found with
  | none => rfl
  | some e => exact if_neg fun hs => h ⟨e, rfl, hs⟩

/-- A task that advances does so by the move. -/
theorem Advance.step_eq {m : Move ρ} {u : Task ρ} {metrics : Metrics}
    (h : Advance s st id m t u metrics st') (ht : s.tasks[id]? = some t) :
    s.step st m = some ({ s with metrics }.setTask id u, st') := by
  cases h with
  | callRead ha | callUnread ha | flightRead ha | flightUnread ha =>
    exact step_get ht (by simp [Task.storeCalls]) ha rfl
  | callServed hf =>
    refine step_proceed ht ?_
    simp only [resume, decide_of_fresh hf]
    rfl
  | callJoined hf hk =>
    refine step_proceed ht ?_
    simp only [resume, decide_of_not_fresh hf, dispatch_of_some hk]
    rfl
  | callReceived hr =>
    refine step_proceed ht ?_
    simp only [resume, hr]
    rfl
  | @callAbandoned k x p hover =>
    simp only [step, ht]
    cases p with
    | finished r => cases hover
    | abandoned => cases hover
    | _ => rfl
  | flightSuperseded hs =>
    refine step_proceed ht ?_
    simp only [resume, recheck_of_superseded hs]
    rfl
  | renderStarted hs =>
    refine step_proceed ht ?_
    simp only [resume, recheck_of_not_superseded hs]
  | renderSucceeded =>
    simp only [step, ht]
    rfl
  | @renderFailed k o x ending now err hn he =>
    simp only [step, ht]
    cases ending with
    | output out => exact absurd rfl (hn out)
    | _ =>
      cases he
      rfl
  | putRefused ha | putFailed ha => exact step_put ht (by simp [Task.storeCalls]) ha rfl
  | removalFailed ha => exact step_delete ht (by simp [Task.storeCalls]) ha rfl
  | removalEnded => exact step_proceed ht rfl
  | purgeFailed hk ha =>
    refine step_delete ht (by simpa [Task.storeCalls, Purge.due] using hk) ha ?_
    simp only [answerDelete, Purge.visit, if_pos hk]
    rfl
  | purgeWentOn => exact step_proceed ht rfl
  | purgeEnded hd =>
    refine step_proceed ht ?_
    simp only [resume, Purge.proceed, if_pos hd]
    rfl
  | surveyed hk ha hv =>
    refine step_get ht (by simpa [Task.storeCalls] using hk) ha ?_
    simp only [answerGet, hv]
    rfl
  | surveyEnded hp =>
    refine step_proceed ht ?_
    simp only [resume, hp]
    rfl
  | compacted hk ha hv =>
    refine step_get ht (by simpa [Task.storeCalls] using hk) ha ?_
    simp only [answerGet, hv]
    rfl
  | compactionEnded hd =>
    refine step_proceed ht ?_
    simp only [resume, Compaction.proceed, if_pos hd]
    rfl
  | @listed r r' _ _ _ ha hl =>
    have hlisting : StoreCall.list ∈ (Task.rebuild r : Task ρ).storeCalls := by
      cases r with
      | listing => simp [Task.storeCalls]
      | _ => cases hl
    refine step_list ht hlisting ha ?_
    simp only [answerList, hl]
    rfl
  | rebuilding ha hv =>
    refine step_get ht (by simp [Task.storeCalls]) ha ?_
    simp only [answerGet, hv]
    rfl

/-- **One move.** Whatever is a transition is what the move does. -/
theorem Transition.step_eq {m : Move ρ} (h : Transition s st m s' st') :
    s.step st m = some (s', st') := by
  cases h with
  | opened ho => cases ho <;> rfl
  | forgotten k => rfl
  | detached t => rfl
  | advanced ht ha => exact ha.step_eq ht
  | led ht hf hk =>
    refine step_proceed ht ?_
    simp only [resume, decide_of_not_fresh hf, dispatch_of_none hk]
    rfl
  | ended ht | linked ht | relinked ht | restored ht | dropped ht | rebuilt ht =>
    exact step_proceed ht rfl
  | stored ht ha => exact step_put ht (by simp [Task.storeCalls]) ha rfl
  | removed ht ha => exact step_delete ht (by simp [Task.storeCalls]) ha rfl
  | purged ht hk ha =>
    refine step_delete ht (by simpa [Task.storeCalls, Purge.due] using hk) ha ?_
    simp only [answerDelete, Purge.visit, if_pos hk]
    rfl

end Scheduler

end PageCache
