import PageCache.Proofs.Scheduler.Progress

/-!
# Giving up a wait

A caller that gives up touches nothing but its own call. `happen_abandoned` says it as a law:
whatever happens to the other tasks happens in the same way, and with the same outcome, whether the
call has been given up before or is given up after. `foldlM_abandoned` is the same for any number
of events.

The law holds function by function, since nothing but the call's own moves looks at its phase:
`setTask_comm` and `spawn_setTask` move the change of the one task past those of the others.
-/

namespace PageCache

namespace Scheduler

variable {ρ σ : Type}

/-- The scheduler with a call given up. -/
def abandoned (s : Scheduler ρ) (c : TaskId) (k : Key) (x : ρ) : Scheduler ρ :=
  s.setTask c (.call k x .abandoned)

section Commuting

variable {s : Scheduler ρ} {c : TaskId} {k : Key} {x : ρ} {p : Call}

theorem setTask_comm {id : TaskId} (h : id ≠ c) (t : Task ρ) :
    (s.abandoned c k x).setTask id t = (s.setTask id t).abandoned c k x := by
  unfold abandoned setTask
  simp only [List.set_comm _ _ (Ne.symm h)]

theorem spawn_setTask (hc : s.tasks[c]? = some (.call k x p)) (t : Task ρ) :
    (s.abandoned c k x).spawn t = (s.spawn t).abandoned c k x := by
  have hlt : c < s.tasks.length := (List.getElem?_eq_some_iff.mp hc).1
  unfold abandoned setTask spawn
  simp only [List.set_append_left _ _ hlt]

theorem getElem?_abandoned {id : TaskId} (h : id ≠ c) :
    (s.abandoned c k x).tasks[id]? = s.tasks[id]? := by
  unfold abandoned
  rw [tasks_setTask, List.getElem?_set_ne (Ne.symm h)]

/-- A call has no result of a flight, given up or not. -/
theorem flightResult?_abandoned (hc : s.tasks[c]? = some (.call k x p)) (f : FlightId) :
    (s.abandoned c k x).flightResult? f = s.flightResult? f := by
  unfold flightResult? abandoned
  rw [getElem?_setTask hc]
  by_cases hf : f = c
  · subst hf
    rw [if_pos rfl, hc]
    rfl
  · rw [if_neg hf]

theorem dispatch_abandoned (hc : s.tasks[c]? = some (.call k x p)) (j : Key)
    (o : Option Generation) (y : ρ) :
    (s.abandoned c k x).dispatch j o y =
      ((s.dispatch j o y).1, (s.dispatch j o y).2.abandoned c k x) := by
  have hlen : (s.abandoned c k x).tasks.length = s.tasks.length := List.length_set
  cases hj : s.flights.records.get? j with
  | some f =>
    rw [dispatch_of_some hj, dispatch_of_some (s := s.abandoned c k x) hj]
    rfl
  | none =>
    -- giving up adds no task, so the new flight has the same number
    rw [dispatch_of_none hj, dispatch_of_none (s := s.abandoned c k x) hj, hlen]
    have hspawn := spawn_setTask
      (s := { s with flights := ⟨s.flights.records.insert j s.tasks.length⟩ }) hc
      (.flight j o y .checking)
    exact Prod.ext rfl hspawn

theorem decide_abandoned (hc : s.tasks[c]? = some (.call k x p)) (j : Key) (y : ρ)
    (found : Option Entry) (now : Instant) :
    (s.abandoned c k x).decide j y found now =
      ((s.decide j y found now).1, (s.decide j y found now).2.abandoned c k x) := by
  by_cases hf : s.policy.classify found now = .fresh
  · cases found with
    | none => cases hf
    | some e =>
      rw [decide_of_fresh hf, decide_of_fresh (s := s.abandoned c k x) hf]
      rfl
  · rw [decide_of_not_fresh hf, decide_of_not_fresh (s := s.abandoned c k x) hf,
      dispatch_abandoned hc]
    rfl

theorem recheck_abandoned (o : Option Generation) (found : Option Entry) (now : Instant) :
    (s.abandoned c k x).recheck o found now =
      ((s.recheck o found now).1, (s.recheck o found now).2.abandoned c k x) := by
  cases found with
  | none => rfl
  | some e =>
    simp only [recheck]
    show (if some e.generation ≠ o ∧ s.policy.classify (some e) now = .fresh then _ else _) = _
    split <;> rfl

theorem rendered_abandoned (j : Key) (o : Option Generation) (ending : RenderEnd) (now : Instant) :
    (s.abandoned c k x).rendered j o ending now =
      ((s.rendered j o ending now).1, (s.rendered j o ending now).2.abandoned c k x) := by
  cases ending <;> rfl

theorem written_abandoned (e : Entry) (answer : Except StoreError PutOutcome) :
    (s.abandoned c k x).written e answer =
      ((s.written e answer).1, (s.written e answer).2.abandoned c k x) := by
  cases answer with
  | ok outcome => cases outcome <;> rfl
  | error err => rfl

theorem answerGet_abandoned {id : TaskId} (h : id ≠ c) (t : Task ρ) (j : Key)
    (answer : Except StoreError (Option Entry)) :
    (s.abandoned c k x).answerGet id t j answer =
      (s.answerGet id t j answer).map (·.abandoned c k x) := by
  cases t with
  | call j' y phase =>
    cases phase with
    | reading =>
      cases answer with
      | ok found => exact congrArg some (setTask_comm h _)
      | error e => exact congrArg some (setTask_comm (s := s.bump (.lookup .error)) h _)
    | _ => rfl
  | flight j' o y phase =>
    cases phase with
    | checking => cases answer <;> exact congrArg some (setTask_comm h _)
    | _ => rfl
  | survey p =>
    simp only [answerGet, Option.map_map, Function.comp_def, setTask_comm h]
  | compaction p =>
    simp only [answerGet, Option.map_map, Function.comp_def, setTask_comm h]
  | rebuild p =>
    simp only [answerGet, Option.map_map, Function.comp_def, setTask_comm h]
  | removal j' phase => rfl
  | purge p => rfl

theorem answerPut_abandoned {id : TaskId} (h : id ≠ c) (t : Task ρ)
    (answer : Except StoreError PutOutcome) :
    (s.abandoned c k x).answerPut id t answer =
      (s.answerPut id t answer).map (·.abandoned c k x) := by
  cases t with
  | flight j o y phase =>
    cases phase with
    | committing e =>
      simp only [answerPut, written_abandoned, setTask_comm h, Option.map_some]
    | _ => rfl
  | _ => rfl

theorem answerDelete_abandoned {id : TaskId} (h : id ≠ c) (t : Task ρ) (j : Key)
    (answer : Except StoreError Bool) :
    (s.abandoned c k x).answerDelete id t j answer =
      (s.answerDelete id t j answer).map (·.abandoned c k x) := by
  cases t with
  | removal j' phase =>
    cases phase with
    | deleting u => exact congrArg some (setTask_comm h _)
    | _ => rfl
  | purge p =>
    simp only [answerDelete, Option.map_map, Function.comp_def, setTask_comm h]
  | _ => rfl

theorem answerList_abandoned {id : TaskId} (h : id ≠ c) (t : Task ρ)
    (answer : Except StoreError (List Key)) :
    (s.abandoned c k x).answerList id t answer =
      (s.answerList id t answer).map (·.abandoned c k x) := by
  cases t with
  | rebuild r =>
    simp only [answerList, Option.map_map, Function.comp_def, setTask_comm h]
  | _ => rfl

theorem resume_abandoned (hc : s.tasks[c]? = some (.call k x p)) {id : TaskId} (h : id ≠ c)
    (t : Task ρ) (now : Instant) :
    (s.abandoned c k x).resume id t now = (s.resume id t now).map (·.abandoned c k x) := by
  cases t with
  | call j y phase =>
    cases phase with
    | read found =>
      simp only [resume, decide_abandoned hc, setTask_comm h, Option.map_some]
    | waiting found f =>
      simp only [resume, flightResult?_abandoned hc, Option.map_map]
      refine Option.map_congr fun result _ => ?_
      exact setTask_comm (s := s.bump (.lookup (receive found result).2)) h _
    | _ => rfl
  | flight j o y phase =>
    cases phase with
    | checked found =>
      simp only [resume, recheck_abandoned, setTask_comm h, Option.map_some]
    | committed e =>
      exact congrArg some (setTask_comm (s := { s with
        index := s.index.replaceTags j e.tags
        metrics := s.metrics.bump (.regeneration .committed) }) h _)
    | ending result =>
      exact congrArg some (setTask_comm (s := { s with flights := s.flights.clear j id }) h _)
    | _ => rfl
  | removal j phase =>
    cases phase with
    | answered u answer =>
      cases answer with
      | ok removed => exact congrArg some (setTask_comm (s := s) h _)
      | error err =>
        exact congrArg some
          (setTask_comm (s := { s with index := s.index.linkTags u.toList j }) h _)
    | _ => rfl
  | purge q =>
    simp only [resume, Option.map_map]
    refine Option.map_congr fun ⟨q', index, n⟩ _ => ?_
    exact setTask_comm (s := { s with index, metrics := s.metrics.add .purged n }) h _
  | survey q =>
    simp only [resume, Option.map_map, Function.comp_def, setTask_comm h]
  | compaction q =>
    simp only [resume, Option.map_map]
    refine Option.map_congr fun ⟨q', index⟩ _ => ?_
    exact setTask_comm (s := { s with index }) h _
  | rebuild q =>
    simp only [resume, Option.map_map]
    refine Option.map_congr fun ⟨q', index⟩ _ => ?_
    exact setTask_comm (s := { s with index }) h _

end Commuting

/-! ## Events -/

variable [Store σ]

/-- A store call of another task is asked and answered in the same way. -/
theorem storeCall_abandoned {s : Scheduler ρ} {st : σ} {c id : TaskId} {k : Key} {x : ρ}
    (hid : id ≠ c) (call : StoreCall) (fault : Option StoreError) :
    (s.abandoned c k x).step st (.storeCall id call fault) =
      (s.step st (.storeCall id call fault)).map fun y => (y.1.abandoned c k x, y.2) := by
  simp only [step, getElem?_abandoned hid]
  cases s.tasks[id]? with
  | none => rfl
  | some t =>
    simp only [Option.bind_eq_bind, Option.bind_some]
    by_cases hcall : call ∈ t.storeCalls
    · simp only [if_neg (not_not_intro hcall)]
      cases call with
      | get j =>
        simp only [answerGet_abandoned hid, Option.bind_map, Option.map_bind]
        rfl
      | put e o =>
        simp only [answerPut_abandoned hid, Option.bind_map, Option.map_bind]
        rfl
      | delete j =>
        simp only [answerDelete_abandoned hid, Option.bind_map, Option.map_bind]
        rfl
      | list =>
        simp only [answerList_abandoned hid, Option.bind_map, Option.map_bind]
        rfl
    · simp only [if_pos hcall]
      rfl

theorem step_abandoned {s : Scheduler ρ} {st : σ} {c : TaskId} {k : Key} {x : ρ} {p : Call}
    {m : Move ρ} (hc : s.tasks[c]? = some (.call k x p)) (hm : m.actor? ≠ some c) :
    (s.abandoned c k x).step st m = (s.step st m).map fun y => (y.1.abandoned c k x, y.2) := by
  cases m with
  -- a new task comes after all others, whether the call has been given up or not
  | lookup j y => exact congrArg (fun s' => some (s', st)) (spawn_setTask hc _)
  | invalidateKey j =>
    exact congrArg (fun s' => some (s', st))
      (spawn_setTask (s := { s with index := (s.index.forget j).2 }) hc _)
  | invalidateTag t =>
    exact congrArg (fun s' => some (s', st))
      (spawn_setTask (s := { s with index := (s.index.detach t).2 }) hc _)
  | survey t => exact congrArg (fun s' => some (s', st)) (spawn_setTask hc _)
  | compact => exact congrArg (fun s' => some (s', st)) (spawn_setTask hc _)
  | rebuild => exact congrArg (fun s' => some (s', st)) (spawn_setTask hc _)
  | storeCall id call fault =>
    have hid : id ≠ c := fun h => hm (congrArg some h)
    exact storeCall_abandoned hid call fault
  | proceed id now =>
    have hid : id ≠ c := fun h => hm (congrArg some h)
    simp only [step, getElem?_abandoned hid]
    cases s.tasks[id]? with
    | none => rfl
    | some t =>
      simp only [Option.bind_eq_bind, Option.bind_some, resume_abandoned hc hid, Option.bind_map,
        Option.map_bind]
      rfl
  | render id ending now =>
    have hid : id ≠ c := fun h => hm (congrArg some h)
    simp only [step, getElem?_abandoned hid]
    cases s.tasks[id]? with
    | none => rfl
    | some t =>
      cases t with
      | flight j o y phase =>
        cases phase with
        | rendering =>
          simp only [rendered_abandoned, setTask_comm hid, Option.map_some]
        | _ => rfl
      | _ => rfl
  | abandon id =>
    have hid : id ≠ c := fun h => hm (congrArg some h)
    simp only [step, getElem?_abandoned hid]
    cases s.tasks[id]? with
    | none => rfl
    | some t =>
      cases t with
      | call j y phase =>
        cases phase with
        | finished r => rfl
        | abandoned => rfl
        | _ => exact congrArg (fun s' => some (s', st)) (setTask_comm (s := s) hid _)
      | _ => rfl

/-- A call that is not over can be given up. -/
theorem happen_abandon {s : Scheduler ρ} {st : σ} {c : TaskId} {k : Key} {x : ρ} {p : Call}
    (hc : s.tasks[c]? = some (.call k x p)) (hover : (Task.call k x p).isOver = false) :
    happen (s, st) (.move (.abandon c)) = some (s.abandoned c k x, st) := by
  simp only [happen, moved, step, hc]
  cases p with
  | abandoned => cases hover
  | finished r => cases hover
  | _ => rfl

/-- **One event** of the other tasks happens in the same way whether the call was given up before or
is given up after. -/
theorem happen_abandoned {s : Scheduler ρ} {st : σ} {c : TaskId} {k : Key} {x : ρ} {p : Call}
    {e : Event ρ} (hc : s.tasks[c]? = some (.call k x p)) (he : e.actor? ≠ some c) :
    happen (s.abandoned c k x, st) e =
      (happen (s, st) e).map fun y => (y.1.abandoned c k x, y.2) := by
  cases e with
  | move m => exact step_abandoned hc he
  | breakDown id message =>
    have hid : id ≠ c := fun h => he (congrArg some h)
    simp only [happen, breakDown, getElem?_abandoned hid]
    cases s.tasks[id]? with
    | none => rfl
    | some t =>
      simp only
      cases t.isOver with
      | true => rfl
      | false =>
        cases t with
        | flight j o y phase =>
          exact congrArg (fun s' => some (s', st)) (setTask_comm (s := s) hid _)
        | call j y phase =>
          exact congrArg (fun s' => some (s', st)) (setTask_comm (s := s) hid _)
        | _ => rfl

/-- **Any number of events** of the other tasks happen in the same way whether the call was given up
before or is given up after. -/
theorem foldlM_abandoned {c : TaskId} {k : Key} {x : ρ} {p : Call} {es : List (Event ρ)}
    (he : ∀ e ∈ es, e.actor? ≠ some c) :
    ∀ {s : Scheduler ρ} {st : σ}, s.tasks[c]? = some (.call k x p) →
      es.foldlM happen (s.abandoned c k x, st) =
        (es.foldlM happen (s, st)).map fun y => (y.1.abandoned c k x, y.2) := by
  induction es with
  | nil =>
    intro s st _
    rfl
  | cons e es ih =>
    intro s st hc
    have he₀ : e.actor? ≠ some c := he e List.mem_cons_self
    simp only [List.foldlM_cons, happen_abandoned hc he₀, Option.bind_eq_bind, Option.bind_map,
      Option.map_bind]
    refine Option.bind_congr fun y hy => ?_
    -- the event is not about the call, so the call is as it was
    have hc' : y.1.tasks[c]? = some (.call k x p) := by
      rw [(Occurs.of_happen hy).untouched (List.getElem?_eq_some_iff.mp hc).1 he₀]
      exact hc
    exact ih (fun e' h' => he e' (List.mem_cons_of_mem _ h')) hc'

end Scheduler

end PageCache
