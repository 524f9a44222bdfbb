import Mathlib.Tactic.Common
import PageCache.Scheduler

/-!
# What a move can do

`Scheduler.step` is a function of many branches. This file takes it apart once: `Transition` lists
what a move can do, with everything that is known when it does it, and `Transition.of_step` says
that nothing else happens. A proof about all runs is then a proof by cases on `Transition`.

* **most moves** only carry one task from one phase to the next; they are an `Advance`, which leaves
  the tag index and the flights alone and at most reads the store;
* **the others** touch what tasks share: a flight is led or ended, an entry is stored, a key is
  deleted, links are made or dropped.

Nothing is assumed of the store here: its answers are what they are.
-/

namespace PageCache

/-- The task that makes a move, unless the move begins a new one. -/
def Move.actor? {ρ : Type} : Move ρ → Option TaskId
  | .storeCall id _ _ => some id
  | .proceed id _ => some id
  | .render id _ _ => some id
  | .abandon id => some id
  | _ => none

/-- Whether the move is a store call that fails. -/
def Move.fails {ρ : Type} : Move ρ → Bool
  | .storeCall _ _ (some _) => true
  | _ => false

/-- What a call becomes that boards a flight: it waits for the flight, unless what it read may be
served stale. -/
def Call.boarded (freshness : Freshness) (found : Option Entry) (f : FlightId) : Call :=
  match found with
  | none => .waiting none f
  | some e =>
    if freshness.blocks then .waiting (some e) f
    else .finished (.ok { Served.ofEntry e .stale with revalidating := true })

/-- What is counted when a call boards a flight. -/
def Call.countBoarded (freshness : Freshness) (found : Option Entry) (ms : Metrics) : Metrics :=
  match found with
  | none => ms
  | some _ => if freshness.blocks then ms else ms.bump (.lookup .stale)

namespace Scheduler

variable {ρ σ : Type}

/-! ## Tasks after a change -/

@[simp] theorem tasks_setTask (s : Scheduler ρ) (id : TaskId) (t : Task ρ) :
    (s.setTask id t).tasks = s.tasks.set id t := rfl

@[simp] theorem tasks_spawn (s : Scheduler ρ) (t : Task ρ) :
    (s.spawn t).tasks = s.tasks ++ [t] := rfl

/-- A task that is set is there, and the others are as before. -/
theorem getElem?_setTask {s : Scheduler ρ} {id : TaskId} {t t' : Task ρ}
    (h : s.tasks[id]? = some t) (i : TaskId) :
    (s.setTask id t').tasks[i]? = if i = id then some t' else s.tasks[i]? := by
  have hlt : id < s.tasks.length := (List.getElem?_eq_some_iff.mp h).1
  rw [tasks_setTask, List.getElem?_set]
  by_cases hi : i = id
  · rw [if_pos hi.symm, if_pos hi, if_pos (hi ▸ hlt)]
  · rw [if_neg (Ne.symm hi), if_neg hi]

/-- A task that is set is there. -/
theorem getElem?_setTask_self {s : Scheduler ρ} {id : TaskId} {t : Task ρ}
    (h : s.tasks[id]? = some t) (t' : Task ρ) : (s.setTask id t').tasks[id]? = some t' :=
  (getElem?_setTask h id).trans (if_pos rfl)

/-- A new task comes after all others. -/
theorem getElem?_spawn (s : Scheduler ρ) (t : Task ρ) (i : TaskId) :
    (s.spawn t).tasks[i]? = if i = s.tasks.length then some t else s.tasks[i]? := by
  rw [tasks_spawn, List.getElem?_append]
  by_cases hi : i = s.tasks.length
  · subst hi
    simp
  · rw [if_neg hi]
    split
    · rfl
    · rename_i hlt
      have hle : s.tasks.length ≤ i := Nat.le_of_not_lt hlt
      have hne : i - s.tasks.length ≠ 0 :=
        Nat.sub_ne_zero_of_lt (Nat.lt_of_le_of_ne hle (Ne.symm hi))
      rw [List.getElem?_singleton, if_neg hne, List.getElem?_eq_none hle]

/-- A task is there after a new one has come. -/
theorem getElem?_spawn_of_some {s : Scheduler ρ} {id : TaskId} {t : Task ρ}
    (h : s.tasks[id]? = some t) (u : Task ρ) : (s.spawn u).tasks[id]? = some t := by
  rw [getElem?_spawn, if_neg (Nat.ne_of_lt (List.getElem?_eq_some_iff.mp h).1)]
  exact h

/-- A task is set after a new one has come. -/
theorem getElem?_setTask_spawn {s : Scheduler ρ} {id : TaskId} {t : Task ρ}
    (h : s.tasks[id]? = some t) (u t' : Task ρ) (i : TaskId) :
    ((s.spawn u).setTask id t').tasks[i]? =
      if i = id then some t' else if i = s.tasks.length then some u else s.tasks[i]? := by
  rw [getElem?_setTask (getElem?_spawn_of_some h u), getElem?_spawn]

/-- What is there after a task is set is that task or was there before. -/
theorem of_getElem?_setTask {s : Scheduler ρ} {id i : TaskId} {t t' u : Task ρ}
    (h : s.tasks[id]? = some t) (hu : (s.setTask id t').tasks[i]? = some u) :
    (i = id ∧ u = t') ∨ s.tasks[i]? = some u := by
  rw [getElem?_setTask h] at hu
  by_cases hi : i = id
  · rw [if_pos hi] at hu
    exact .inl ⟨hi, (Option.some.inj hu).symm⟩
  · rw [if_neg hi] at hu
    exact .inr hu

/-- What is there after a task has come is that task or was there before. -/
theorem of_getElem?_spawn {s : Scheduler ρ} {i : TaskId} {t u : Task ρ}
    (hu : (s.spawn t).tasks[i]? = some u) :
    (i = s.tasks.length ∧ u = t) ∨ s.tasks[i]? = some u := by
  rw [getElem?_spawn] at hu
  by_cases hi : i = s.tasks.length
  · rw [if_pos hi] at hu
    exact .inl ⟨hi, (Option.some.inj hu).symm⟩
  · rw [if_neg hi] at hu
    exact .inr hu

/-- What is there after a task has come and another is set. -/
theorem of_getElem?_setTask_spawn {s : Scheduler ρ} {id i : TaskId} {t u t' v : Task ρ}
    (h : s.tasks[id]? = some t) (hv : ((s.spawn u).setTask id t').tasks[i]? = some v) :
    (i = id ∧ v = t') ∨ (i = s.tasks.length ∧ v = u) ∨ s.tasks[i]? = some v := by
  rw [getElem?_setTask_spawn h] at hv
  by_cases hi : i = id
  · rw [if_pos hi] at hv
    exact .inl ⟨hi, (Option.some.inj hv).symm⟩
  · rw [if_neg hi, ← getElem?_spawn] at hv
    exact .inr (of_getElem?_spawn hv)

/-! ## Transitions -/

/-- The tasks that a move begins without changing anything else. -/
inductive Opens (s : Scheduler ρ) : Move ρ → Task ρ → Prop where
  /-- a call has still to read -/
  | call (k : Key) (x : ρ) : Opens s (.lookup k x) (.call k x .reading)
  /-- a survey remembers the keys linked to its tag -/
  | survey (t : Tag) : Opens s (.survey t) (.survey (.start s.index t))
  /-- a compaction remembers the keys with a link -/
  | compaction : Opens s .compact (.compaction (.start s.index))
  /-- a rebuild has still to list the keys -/
  | rebuild : Opens s .rebuild (.rebuild .listing)

/-- A flight that read `found` is superseded: the key has a fresh entry that was not observed. -/
def Superseded (s : Scheduler ρ) (observed : Option Generation) (found : Option Entry)
    (now : Instant) : Prop :=
  ∃ e, found = some e ∧ some e.generation ≠ observed ∧ s.policy.classify (some e) now = .fresh

variable [Store σ]

/-- A move that carries the task `id` from one phase to another and changes nothing that tasks
share: the phases, what has been counted after it, and the store after it. -/
inductive Advance (s : Scheduler ρ) (st : σ) (id : TaskId) :
    Move ρ → Task ρ → Task ρ → Metrics → σ → Prop where
  /-- a call has read its key -/
  | callRead {k x fault found st'} : ask fault st (Store.get · k) = (.ok found, st') →
      Advance s st id (.storeCall id (.get k) fault) (.call k x .reading)
        (.call k x (.read found)) s.metrics st'
  /-- a call could not read its key -/
  | callUnread {k x fault e st'} : ask fault st (Store.get · k) = (.error e, st') →
      Advance s st id (.storeCall id (.get k) fault) (.call k x .reading)
        (.call k x (.finished (.error (.store e)))) (s.metrics.bump (.lookup .error)) st'
  /-- a call serves the fresh entry that it read -/
  | callServed {k x e now} : s.policy.classify (some e) now = .fresh →
      Advance s st id (.proceed id now) (.call k x (.read (some e)))
        (.call k x (.finished (.ok (.ofEntry e .hit)))) (s.metrics.bump (.lookup .hit)) st
  /-- a call joins the flight of its key -/
  | callJoined {k x found now f} : s.policy.classify found now ≠ .fresh →
      s.flights.records.get? k = some f →
      Advance s st id (.proceed id now) (.call k x (.read found))
        (.call k x (.boarded (s.policy.classify found now) found f))
        (Call.countBoarded (s.policy.classify found now) found (s.metrics.bump .joined)) st
  /-- a call receives the result of the flight that it waits for -/
  | callReceived {k x found f result now} : s.flightResult? f = some result →
      Advance s st id (.proceed id now) (.call k x (.waiting found f))
        (.call k x (.finished (receive found result).1))
        (s.metrics.bump (.lookup (receive found result).2)) st
  /-- the caller gives up -/
  | callAbandoned {k x phase} : (Task.call k x phase).isOver = false →
      Advance s st id (.abandon id) (.call k x phase) (.call k x .abandoned) s.metrics st
  /-- a flight has read its key again -/
  | flightRead {k o x fault found st'} : ask fault st (Store.get · k) = (.ok found, st') →
      Advance s st id (.storeCall id (.get k) fault) (.flight k o x .checking)
        (.flight k o x (.checked found)) s.metrics st'
  /-- a flight could not read its key -/
  | flightUnread {k o x fault e st'} : ask fault st (Store.get · k) = (.error e, st') →
      Advance s st id (.storeCall id (.get k) fault) (.flight k o x .checking)
        (.flight k o x (.ending (.error (.store e)))) s.metrics st'
  /-- a flight ends with a fresh entry that somebody else has stored -/
  | flightSuperseded {k o x e now} : s.Superseded o (some e) now →
      Advance s st id (.proceed id now) (.flight k o x (.checked (some e)))
        (.flight k o x (.ending (.ok e))) (s.metrics.bump (.regeneration .superseded)) st
  /-- a flight hands its source to the renderer -/
  | renderStarted {k o x found now} : ¬ s.Superseded o found now →
      Advance s st id (.proceed id now) (.flight k o x (.checked found))
        (.flight k o x .rendering) s.metrics st
  /-- the renderer gives an output -/
  | renderSucceeded {k o x out now} :
      Advance s st id (.render id (.output out) now) (.flight k o x .rendering)
        (.flight k o x (.committing (entryOf k o out now))) (s.metrics.bump .renderTime) st
  /-- the renderer gives nothing -/
  | renderFailed {k o x ending now err} : (∀ out, ending ≠ .output out) →
      (s.rendered k o ending now).1 = .ending (.error err) →
      Advance s st id (.render id ending now) (.flight k o x .rendering)
        (.flight k o x (.ending (.error err))) (s.rendered k o ending now).2.metrics st
  /-- the write of a flight is refused, and its entry is delivered all the same -/
  | putRefused {k o x e fault c st'} : ask fault st (Store.put · e o) = (.ok (.conflict c), st') →
      Advance s st id (.storeCall id (.put e o) fault) (.flight k o x (.committing e))
        (.flight k o x (.ending (.ok e))) (s.metrics.bump (.regeneration .conflict)) st'
  /-- the write of a flight failed -/
  | putFailed {k o x e fault err st'} : ask fault st (Store.put · e o) = (.error err, st') →
      Advance s st id (.storeCall id (.put e o) fault) (.flight k o x (.committing e))
        (.flight k o x (.ending (.error (.store err)))) s.metrics st'
  /-- the deletion of a removal failed -/
  | removalFailed {k u fault err st'} : ask fault st (Store.delete · k) = (.error err, st') →
      Advance s st id (.storeCall id (.delete k) fault) (.removal k (.deleting u))
        (.removal k (.answered u (.error err))) s.metrics st'
  /-- a removal ends after its deletion -/
  | removalEnded {k u removed now} :
      Advance s st id (.proceed id now) (.removal k (.answered u (.ok removed)))
        (.removal k (.finished (.ok removed))) s.metrics st
  /-- a deletion of a purge failed -/
  | purgeFailed {t due n k fault err st'} : k ∈ due →
      ask fault st (Store.delete · k) = (.error err, st') →
      Advance s st id (.storeCall id (.delete k) fault) (.purge (.deleting t due n))
        (.purge (.answered t (due.erase k) n k (.error err))) s.metrics st'
  /-- a purge goes on after a deletion -/
  | purgeWentOn {t due n k removed now} :
      Advance s st id (.proceed id now) (.purge (.answered t due n k (.ok removed)))
        (.purge (.deleting t due (if removed then n + 1 else n))) (s.metrics.add .purged 0) st
  /-- a purge ends when nothing is due -/
  | purgeEnded {t due n now} : due.isEmpty = true →
      Advance s st id (.proceed id now) (.purge (.deleting t due n))
        (.purge (.finished (.ok n))) (s.metrics.add .purged n) st
  /-- a survey has read a key -/
  | surveyed {p p' : Survey} {k fault answer st'} : k ∈ p.due →
      ask fault st (Store.get · k) = (answer, st') → p.visit k answer = some p' →
      Advance s st id (.storeCall id (.get k) fault) (.survey p) (.survey p') s.metrics st'
  /-- a survey ends -/
  | surveyEnded {p p' : Survey} {now} : p.proceed = some p' →
      Advance s st id (.proceed id now) (.survey p) (.survey p') s.metrics st
  /-- a compaction has read a key -/
  | compacted {c c' : Compaction} {k fault answer st'} : k ∈ c.due →
      ask fault st (Store.get · k) = (answer, st') → c.visit k answer = some c' →
      Advance s st id (.storeCall id (.get k) fault) (.compaction c) (.compaction c') s.metrics st'
  /-- a compaction ends when nothing is due -/
  | compactionEnded {due n now} : due.isEmpty = true →
      Advance s st id (.proceed id now) (.compaction (.reading due n))
        (.compaction (.finished (.ok n))) s.metrics st
  /-- a rebuild has listed the keys -/
  | listed {r r' : Rebuild} {fault answer st'} :
      ask fault st (Store.list · "") = (answer, st') → r.listed answer = some r' →
      Advance s st id (.storeCall id .list fault) (.rebuild r) (.rebuild r') s.metrics st'
  /-- a rebuild has read its next key -/
  | rebuilding {k due built fault answer st'} {r' : Rebuild} :
      ask fault st (Store.get · k) = (answer, st') →
      (Rebuild.reading (k :: due) built).visit answer = some r' →
      Advance s st id (.storeCall id (.get k) fault) (.rebuild (.reading (k :: due) built))
        (.rebuild r') s.metrics st'

/-- What a move can do to the scheduler and the store. -/
inductive Transition (s : Scheduler ρ) (st : σ) : Move ρ → Scheduler ρ → σ → Prop where
  /-- a task begins and nothing else changes -/
  | opened {m t} : Opens s m t → Transition s st m (s.spawn t) st
  /-- a removal begins: the key is unlinked -/
  | forgotten (k : Key) :
      Transition s st (.invalidateKey k)
        ({ s with index := (s.index.forget k).2 }.spawn
          (.removal k (.deleting (s.index.tagsForKey k)))) st
  /-- a purge begins: the tag is unlinked -/
  | detached (t : Tag) :
      Transition s st (.invalidateTag t)
        ({ s with index := (s.index.detach t).2 }.spawn
          (.purge (.deleting t (s.index.keysForTag t) 0))) st
  /-- a task goes on by itself -/
  | advanced {m id t t' metrics st'} : s.tasks[id]? = some t →
      Advance s st id m t t' metrics st' →
      Transition s st m ({ s with metrics }.setTask id t') st'
  /-- a call starts a flight of its key -/
  | led {id} {k : Key} {x : ρ} {found : Option Entry} {now : Instant} :
      s.tasks[id]? = some (.call k x (.read found)) →
      s.policy.classify found now ≠ .fresh → s.flights.records.get? k = none →
      Transition s st (.proceed id now)
        (({ s with
            flights := ⟨s.flights.records.insert k s.tasks.length⟩
            metrics := Call.countBoarded (s.policy.classify found now) found s.metrics }.spawn
          (.flight k (found.map Entry.generation) x .checking)).setTask id
            (.call k x (.boarded (s.policy.classify found now) found s.tasks.length))) st
  /-- a flight is over: its record is cleared -/
  | ended {id k o x result now} : s.tasks[id]? = some (.flight k o x (.ending result)) →
      Transition s st (.proceed id now)
        ({ s with flights := s.flights.clear k id }.setTask id
          (.flight k o x (.finished result))) st
  /-- the write of a flight is accepted -/
  | stored {id k o x e fault st'} : s.tasks[id]? = some (.flight k o x (.committing e)) →
      ask fault st (Store.put · e o) = (.ok .stored, st') →
      Transition s st (.storeCall id (.put e o) fault)
        (s.setTask id (.flight k o x (.committed e))) st'
  /-- a flight links the tags of the entry that it has stored -/
  | linked {id k o x e now} : s.tasks[id]? = some (.flight k o x (.committed e)) →
      Transition s st (.proceed id now)
        ({ s with
            index := s.index.replaceTags k e.tags
            metrics := s.metrics.bump (.regeneration .committed) }.setTask id
          (.flight k o x (.ending (.ok e)))) st
  /-- a removal has deleted its key -/
  | removed {id k u fault removed st'} : s.tasks[id]? = some (.removal k (.deleting u)) →
      ask fault st (Store.delete · k) = (.ok removed, st') →
      Transition s st (.storeCall id (.delete k) fault)
        (s.setTask id (.removal k (.answered u (.ok removed)))) st'
  /-- a removal whose deletion failed links its key again -/
  | relinked {id k u err now} : s.tasks[id]? = some (.removal k (.answered u (.error err))) →
      Transition s st (.proceed id now)
        ({ s with index := s.index.linkTags u.toList k }.setTask id
          (.removal k (.finished (.error err)))) st
  /-- a purge has deleted a key -/
  | purged {id t due n k fault removed st'} : s.tasks[id]? = some (.purge (.deleting t due n)) →
      k ∈ due → ask fault st (Store.delete · k) = (.ok removed, st') →
      Transition s st (.storeCall id (.delete k) fault)
        (s.setTask id (.purge (.answered t (due.erase k) n k (.ok removed)))) st'
  /-- a purge whose deletion failed links what it has not deleted again -/
  | restored {id t due n k err now} :
      s.tasks[id]? = some (.purge (.answered t due n k (.error err))) →
      Transition s st (.proceed id now)
        ({ s with
            index := s.index.linkKeys t (due.insert k).toList
            metrics := s.metrics.add .purged 0 }.setTask id (.purge (.finished (.error err)))) st
  /-- a compaction drops the links of a key that the store did not have -/
  | dropped {id k due n now} : s.tasks[id]? = some (.compaction (.missing k due n)) →
      Transition s st (.proceed id now)
        ({ s with index := (s.index.forget k).2 }.setTask id
          (.compaction (.reading due (n + 1)))) st
  /-- a rebuild puts its index in place -/
  | rebuilt {id built now} : s.tasks[id]? = some (.rebuild (.reading [] built)) →
      Transition s st (.proceed id now)
        ({ s with index := built }.setTask id (.rebuild (.finished (.ok built.keyCount)))) st

/-! ## Nothing else happens -/

/-- What dispatching does when the key has a flight. -/
theorem dispatch_of_some {s : Scheduler ρ} {k : Key} {f : FlightId}
    (h : s.flights.records.get? k = some f) (o : Option Generation) (x : ρ) :
    s.dispatch k o x = (f, s.bump .joined) := by
  unfold dispatch FlightTable.board
  rw [h]

/-- What dispatching does when the key has no flight. -/
theorem dispatch_of_none {s : Scheduler ρ} {k : Key} (h : s.flights.records.get? k = none)
    (o : Option Generation) (x : ρ) :
    s.dispatch k o x = (s.tasks.length,
      { s with flights := ⟨s.flights.records.insert k s.tasks.length⟩ }.spawn
        (.flight k o x .checking)) := by
  unfold dispatch FlightTable.board
  rw [h]

theorem needsRegeneration_iff (f : Freshness) : f.needsRegeneration = true ↔ f ≠ .fresh := by
  cases f <;> simp [Freshness.needsRegeneration]

/-- What is decided of an entry that may be served. -/
theorem decide_of_fresh {s : Scheduler ρ} {e : Entry} {now : Instant}
    (h : s.policy.classify (some e) now = .fresh) (k : Key) (x : ρ) :
    s.decide k x (some e) now = (.finished (.ok (.ofEntry e .hit)), s.bump (.lookup .hit)) := by
  unfold decide
  simp [h, Freshness.needsRegeneration]

/-- What is decided of a key that has to be regenerated: board a flight of it. -/
theorem decide_of_not_fresh {s : Scheduler ρ} {found : Option Entry} {now : Instant}
    (h : s.policy.classify found now ≠ .fresh) (k : Key) (x : ρ) :
    s.decide k x found now =
      let (f, s') := s.dispatch k (found.map (·.generation)) x
      (.boarded (s.policy.classify found now) found f,
        { s' with
          metrics := Call.countBoarded (s.policy.classify found now) found s'.metrics }) := by
  cases found with
  | none => rfl
  | some e =>
    have hn := (needsRegeneration_iff _).mpr h
    unfold decide Call.boarded Call.countBoarded
    simp only [hn]
    cases hb : (s.policy.classify (some e) now).blocks <;> simp [bump]

/-- The call of a read phase goes on as a transition. -/
theorem transition_of_decide {s : Scheduler ρ} {st : σ} {id : TaskId} {k : Key} {x : ρ}
    {found : Option Entry} (ht : s.tasks[id]? = some (.call k x (.read found))) (now : Instant) :
    Transition s st (.proceed id now)
      ((s.decide k x found now).2.setTask id (.call k x (s.decide k x found now).1)) st := by
  by_cases hf : s.policy.classify found now = .fresh
  · cases found with
    | none => cases hf
    | some e =>
      rw [decide_of_fresh hf]
      exact .advanced ht (.callServed hf)
  · rw [decide_of_not_fresh hf]
    cases hk : s.flights.records.get? k with
    | some f =>
      rw [dispatch_of_some hk]
      exact .advanced ht (.callJoined hf hk)
    | none =>
      rw [dispatch_of_none hk]
      exact .led ht hf hk

/-- A flight that has read goes on as a transition. -/
theorem transition_of_recheck {s : Scheduler ρ} {st : σ} {id : TaskId} {k : Key} {x : ρ}
    {o : Option Generation} {found : Option Entry}
    (ht : s.tasks[id]? = some (.flight k o x (.checked found))) (now : Instant) :
    Transition s st (.proceed id now)
      ((s.recheck o found now).2.setTask id (.flight k o x (s.recheck o found now).1)) st := by
  cases found with
  | none =>
    refine .advanced ht (.renderStarted ?_)
    rintro ⟨e, he, -⟩
    cases he
  | some e =>
    simp only [recheck]
    split
    · rename_i h
      exact .advanced ht (.flightSuperseded ⟨e, rfl, h⟩)
    · rename_i h
      refine .advanced ht (.renderStarted ?_)
      rintro ⟨e', he, h'⟩
      cases he
      exact h h'

/-- A purge goes on as a transition. -/
theorem transition_of_purge {s : Scheduler ρ} {st : σ} {id : TaskId} {p p' : Purge} {n : Nat}
    {index : TagIndex} (ht : s.tasks[id]? = some (.purge p))
    (hp : p.proceed s.index = some (p', index, n)) (now : Instant) :
    Transition s st (.proceed id now)
      ({ s with index, metrics := s.metrics.add .purged n }.setTask id (.purge p')) st := by
  cases p with
  | deleting t due m =>
    simp only [Purge.proceed] at hp
    split at hp
    · rename_i hd
      cases hp
      exact .advanced ht (.purgeEnded hd)
    · cases hp
  | answered t due m k answer =>
    cases answer with
    | ok removed =>
      cases hp
      exact .advanced ht .purgeWentOn
    | error err =>
      cases hp
      exact .restored ht
  | finished result => cases hp

/-- A compaction goes on as a transition. -/
theorem transition_of_compaction {s : Scheduler ρ} {st : σ} {id : TaskId} {c c' : Compaction}
    {index : TagIndex} (ht : s.tasks[id]? = some (.compaction c))
    (hc : c.proceed s.index = some (c', index)) (now : Instant) :
    Transition s st (.proceed id now) ({ s with index }.setTask id (.compaction c')) st := by
  cases c with
  | reading due n =>
    simp only [Compaction.proceed] at hc
    split at hc
    · rename_i hd
      cases hc
      exact .advanced ht (.compactionEnded hd)
    · cases hc
  | missing k due n =>
    cases hc
    exact .dropped ht
  | finished result => cases hc

/-- A rebuild goes on as a transition. -/
theorem transition_of_rebuild {s : Scheduler ρ} {st : σ} {id : TaskId} {r r' : Rebuild}
    {index : TagIndex} (ht : s.tasks[id]? = some (.rebuild r))
    (hr : r.proceed = some (r', index)) (now : Instant) :
    Transition s st (.proceed id now) ({ s with index }.setTask id (.rebuild r')) st := by
  cases r with
  | reading due built =>
    cases due with
    | nil =>
      cases hr
      exact .rebuilt ht
    | cons k due => cases hr
  | listing => cases hr
  | finished result => cases hr

/-- Going on without the store is a transition. -/
theorem transition_of_resume {s s' : Scheduler ρ} {st : σ} {id : TaskId} {t : Task ρ}
    {now : Instant} (ht : s.tasks[id]? = some t) (h : s.resume id t now = some s') :
    Transition s st (.proceed id now) s' st := by
  cases t with
  | call k x phase =>
    cases phase with
    | read found =>
      cases h
      exact transition_of_decide ht now
    | waiting found f =>
      obtain ⟨result, hr, rfl⟩ := Option.map_eq_some_iff.mp h
      exact .advanced ht (.callReceived hr)
    | reading => cases h
    | abandoned => cases h
    | finished result => cases h
  | flight k o x phase =>
    cases phase with
    | checked found =>
      cases h
      exact transition_of_recheck ht now
    | committed e =>
      cases h
      exact .linked ht
    | ending result =>
      cases h
      exact .ended ht
    | checking => cases h
    | rendering => cases h
    | committing e => cases h
    | finished result => cases h
  | removal k phase =>
    cases phase with
    | answered u answer =>
      cases answer with
      | ok removed =>
        cases h
        exact .advanced ht .removalEnded
      | error err =>
        cases h
        exact .relinked ht
    | deleting u => cases h
    | finished result => cases h
  | purge p =>
    obtain ⟨⟨p', index, n⟩, hp, rfl⟩ := Option.map_eq_some_iff.mp h
    exact transition_of_purge ht hp now
  | survey p =>
    obtain ⟨p', hp, rfl⟩ := Option.map_eq_some_iff.mp h
    exact .advanced ht (.surveyEnded hp)
  | compaction c =>
    obtain ⟨⟨c', index⟩, hc, rfl⟩ := Option.map_eq_some_iff.mp h
    exact transition_of_compaction ht hc now
  | rebuild r =>
    obtain ⟨⟨r', index⟩, hr, rfl⟩ := Option.map_eq_some_iff.mp h
    exact transition_of_rebuild ht hr now

/-- Taking the answer to a reading is a transition. -/
theorem transition_of_answerGet {s s' : Scheduler ρ} {st st' : σ} {id : TaskId} {t : Task ρ}
    {k : Key} {fault : Option StoreError} {answer : Except StoreError (Option Entry)}
    (ht : s.tasks[id]? = some t) (hc : StoreCall.get k ∈ t.storeCalls)
    (ha : ask fault st (Store.get · k) = (answer, st')) (h : s.answerGet id t k answer = some s') :
    Transition s st (.storeCall id (.get k) fault) s' st' := by
  cases t with
  | call j x phase =>
    cases phase with
    | reading =>
      obtain rfl : k = j := by simpa [Task.storeCalls] using hc
      cases answer with
      | ok found =>
        cases h
        exact .advanced ht (.callRead ha)
      | error e =>
        cases h
        exact .advanced ht (.callUnread ha)
    | read found => cases h
    | waiting found f => cases h
    | abandoned => cases h
    | finished result => cases h
  | flight j o x phase =>
    cases phase with
    | checking =>
      obtain rfl : k = j := by simpa [Task.storeCalls] using hc
      cases answer with
      | ok found =>
        cases h
        exact .advanced ht (.flightRead ha)
      | error e =>
        cases h
        exact .advanced ht (.flightUnread ha)
    | checked found => cases h
    | rendering => cases h
    | committing e => cases h
    | committed e => cases h
    | ending result => cases h
    | finished result => cases h
  | removal j phase => cases h
  | purge p => cases h
  | survey p =>
    obtain ⟨p', hp, rfl⟩ := Option.map_eq_some_iff.mp h
    have hk : k ∈ p.due := by simpa [Task.storeCalls] using hc
    exact .advanced ht (.surveyed hk ha hp)
  | compaction c =>
    obtain ⟨c', hv, rfl⟩ := Option.map_eq_some_iff.mp h
    have hk : k ∈ c.due := by simpa [Task.storeCalls] using hc
    exact .advanced ht (.compacted hk ha hv)
  | rebuild r =>
    obtain ⟨r', hr, rfl⟩ := Option.map_eq_some_iff.mp h
    cases r with
    | reading due built =>
      cases due with
      | nil => cases hr
      | cons j due =>
        obtain rfl : k = j := by simpa [Task.storeCalls] using hc
        exact .advanced ht (.rebuilding ha hr)
    | listing => cases hr
    | finished result => cases hr

/-- Taking the answer to a write is a transition. -/
theorem transition_of_answerPut {s s' : Scheduler ρ} {st st' : σ} {id : TaskId} {t : Task ρ}
    {e : Entry} {o : Option Generation} {fault : Option StoreError}
    {answer : Except StoreError PutOutcome}
    (ht : s.tasks[id]? = some t) (hc : StoreCall.put e o ∈ t.storeCalls)
    (ha : ask fault st (Store.put · e o) = (answer, st')) (h : s.answerPut id t answer = some s') :
    Transition s st (.storeCall id (.put e o) fault) s' st' := by
  cases t with
  | flight k o' x phase =>
    cases phase with
    | committing e' =>
      obtain ⟨rfl, rfl⟩ : e = e' ∧ o = o' := by simpa [Task.storeCalls] using hc
      cases answer with
      | ok outcome =>
        cases outcome with
        | stored =>
          cases h
          exact .stored ht ha
        | conflict c =>
          cases h
          exact .advanced ht (.putRefused ha)
      | error err =>
        cases h
        exact .advanced ht (.putFailed ha)
    | checking => cases h
    | checked found => cases h
    | rendering => cases h
    | committed e => cases h
    | ending result => cases h
    | finished result => cases h
  | call k x phase => cases h
  | removal k phase => cases h
  | purge p => cases h
  | survey p => cases h
  | compaction c => cases h
  | rebuild r => cases h

/-- Taking the answer to a deletion is a transition. -/
theorem transition_of_answerDelete {s s' : Scheduler ρ} {st st' : σ} {id : TaskId} {t : Task ρ}
    {k : Key} {fault : Option StoreError} {answer : Except StoreError Bool}
    (ht : s.tasks[id]? = some t) (hc : StoreCall.delete k ∈ t.storeCalls)
    (ha : ask fault st (Store.delete · k) = (answer, st'))
    (h : s.answerDelete id t k answer = some s') :
    Transition s st (.storeCall id (.delete k) fault) s' st' := by
  cases t with
  | removal j phase =>
    cases phase with
    | deleting u =>
      obtain rfl : k = j := by simpa [Task.storeCalls] using hc
      cases answer with
      | ok removed =>
        cases h
        exact .removed ht ha
      | error err =>
        cases h
        exact .advanced ht (.removalFailed ha)
    | answered u a => cases h
    | finished result => cases h
  | purge p =>
    obtain ⟨p', hp, rfl⟩ := Option.map_eq_some_iff.mp h
    cases p with
    | deleting t due n =>
      have hk : k ∈ due := by simpa [Task.storeCalls, Purge.due] using hc
      simp only [Purge.visit, if_pos hk, Option.some.injEq] at hp
      subst hp
      cases answer with
      | ok removed => exact .purged ht hk ha
      | error err => exact .advanced ht (.purgeFailed hk ha)
    | answered t due n j a => cases hp
    | finished result => cases hp
  | call j x phase => cases h
  | flight j o x phase => cases h
  | survey p => cases h
  | compaction c => cases h
  | rebuild r => cases h

/-- Taking the answer to a listing is a transition. -/
theorem transition_of_answerList {s s' : Scheduler ρ} {st st' : σ} {id : TaskId} {t : Task ρ}
    {fault : Option StoreError} {answer : Except StoreError (List Key)}
    (ht : s.tasks[id]? = some t) (ha : ask fault st (Store.list · "") = (answer, st'))
    (h : s.answerList id t answer = some s') :
    Transition s st (.storeCall id .list fault) s' st' := by
  cases t with
  | rebuild r =>
    obtain ⟨r', hr, rfl⟩ := Option.map_eq_some_iff.mp h
    exact .advanced ht (.listed ha hr)
  | call k x phase => cases h
  | flight k o x phase => cases h
  | removal k phase => cases h
  | purge p => cases h
  | survey p => cases h
  | compaction c => cases h

/-- A store call is a transition. -/
theorem transition_of_storeCall {s s' : Scheduler ρ} {st st' : σ} {id : TaskId} {call : StoreCall}
    {fault : Option StoreError} (h : s.step st (.storeCall id call fault) = some (s', st')) :
    Transition s st (.storeCall id call fault) s' st' := by
  obtain ⟨t, ht, h⟩ := Option.bind_eq_some_iff.mp h
  by_cases hc : call ∈ t.storeCalls
  · -- the call is one that the task is about to make, and the store has answered it
    rw [if_neg (not_not_intro hc)] at h
    cases call with
    | get k =>
      obtain ⟨s₁, hs, h⟩ := Option.bind_eq_some_iff.mp h
      cases h
      exact transition_of_answerGet ht hc rfl hs
    | put e o =>
      obtain ⟨s₁, hs, h⟩ := Option.bind_eq_some_iff.mp h
      cases h
      exact transition_of_answerPut ht hc rfl hs
    | delete k =>
      obtain ⟨s₁, hs, h⟩ := Option.bind_eq_some_iff.mp h
      cases h
      exact transition_of_answerDelete ht hc rfl hs
    | list =>
      obtain ⟨s₁, hs, h⟩ := Option.bind_eq_some_iff.mp h
      cases h
      exact transition_of_answerList ht rfl hs
  · rw [if_pos hc] at h
    cases h

/-- **One move.** Whatever a move does is a transition. -/
theorem Transition.of_step {s s' : Scheduler ρ} {st st' : σ} {m : Move ρ}
    (h : s.step st m = some (s', st')) : Transition s st m s' st' := by
  cases m with
  | lookup k x =>
    cases h
    exact .opened (.call k x)
  | invalidateKey k =>
    cases h
    exact .forgotten k
  | invalidateTag t =>
    cases h
    exact .detached t
  | survey t =>
    cases h
    exact .opened (.survey t)
  | compact =>
    cases h
    exact .opened .compaction
  | rebuild =>
    cases h
    exact .opened .rebuild
  | storeCall id call fault => exact transition_of_storeCall h
  | proceed id now =>
    obtain ⟨t, ht, h⟩ := Option.bind_eq_some_iff.mp h
    obtain ⟨s₁, hs, h⟩ := Option.bind_eq_some_iff.mp h
    cases h
    exact transition_of_resume ht hs
  | render id ending now =>
    simp only [step] at h
    split at h
    · rename_i k o x ht
      cases h
      cases ending with
      | output out => exact .advanced ht .renderSucceeded
      | failed e => exact .advanced ht (.renderFailed (fun _ h => by cases h) rfl)
      | timedOut => exact .advanced ht (.renderFailed (fun _ h => by cases h) rfl)
      | brokeDown m => exact .advanced ht (.renderFailed (fun _ h => by cases h) rfl)
    · cases h
  | abandon id =>
    simp only [step] at h
    split at h
    · rename_i k x phase ht
      split at h
      · cases h
      · cases h
      · rename_i hf ha
        cases h
        refine .advanced ht (.callAbandoned ?_)
        cases phase with
        | finished r => exact absurd rfl (hf r)
        | abandoned => exact absurd rfl ha
        | reading => rfl
        | read found => rfl
        | waiting found f => rfl
    · cases h

end Scheduler

end PageCache
