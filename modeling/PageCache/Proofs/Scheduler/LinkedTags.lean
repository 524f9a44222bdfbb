import PageCache.Proofs.Scheduler.Standing
import PageCache.Proofs.Scheduler.Sweeps
import PageCache.Proofs.Store.Memory
import PageCache.Proofs.TagIndex.Links

/-!
# Tags stay linked

The store and the tag index are changed at different moments: a flight puts its entry in before it
links the tags, a removal and a purge unlink before they delete. So an entry may be held whose tags
are not linked, but then a task is under way that will link them or delete the entry. `Secured` says
so, and `AllSecured` that it holds for every tag of every entry; `InStep` is the same without
compactions and rebuilds, which change links without looking at what else is under way.

* `AllSecured.of_transition` — one move keeps it that is no such change, hence
  `InStep.of_transition`;
* `Exact.of_transition` — as long as no deletion fails, no other tags are linked either, except for
  a moment before a flight replaces them.
-/

namespace PageCache

open LawfulStore

namespace Task

variable {ρ : Type}

/-- The task sees to a tag of a key: while the key is held it will link them, or it will delete the
key. -/
inductive SeesTo (k : Key) (t : Tag) : Task ρ → Prop where
  /-- a flight has still to link the tags of what it has stored -/
  | committed {o x e} : t ∈ e.tags → SeesTo k t (.flight k o x (.committed e))
  /-- a removal has still to delete the key -/
  | deleting {u} : t ∈ u → SeesTo k t (.removal k (.deleting u))
  /-- a removal that could not delete the key has still to link it again -/
  | relinking {u err} : t ∈ u → SeesTo k t (.removal k (.answered u (.error err)))
  /-- a purge has still to delete the key -/
  | purging {due n} : k ∈ due → SeesTo k t (.purge (.deleting t due n))
  /-- a purge that goes on has still to delete the key -/
  | goingOn {due n j removed} : k ∈ due → SeesTo k t (.purge (.answered t due n j (.ok removed)))
  /-- a purge that could not delete a key has still to link the keys that it has not deleted -/
  | restoring {due n j err} : k = j ∨ k ∈ due →
      SeesTo k t (.purge (.answered t due n j (.error err)))

/-- Whether the task writes entries and links, or takes them away. -/
def writes : Task ρ → Bool
  | flight .. | removal .. | purge .. => true
  | _ => false

/-- Whether the task changes links without the store. -/
def isMaintenance : Task ρ → Bool
  | compaction .. | rebuild .. => true
  | _ => false

/-- Whether the task is about to change links without the store. -/
def overwrites : Task ρ → Bool
  | compaction (.missing ..) | rebuild (.reading [] _) => true
  | _ => false

/-- Only such a task is ever about to. -/
theorem overwrites_of_not_isMaintenance {u : Task ρ} (h : u.isMaintenance = false) :
    u.overwrites = false := by
  cases u with
  | compaction c => cases h
  | rebuild r => cases h
  | _ => rfl

/-- Whether the task has met a deletion that failed, and has still to link again. -/
def relinks : Task ρ → Bool
  | removal _ (.answered _ (.error _)) => true
  | purge (.answered _ _ _ _ (.error _)) => true
  | _ => false

/-- Only a writing task that is not over sees to anything. -/
theorem SeesTo.underWay {k : Key} {t : Tag} {u : Task ρ} (h : u.SeesTo k t) :
    u.writes = true ∧ u.isOver = false := by
  cases h <;> exact ⟨rfl, rfl⟩

end Task

/-- Whether the move begins a task that changes links without the store. -/
def Move.beginsMaintenance {ρ : Type} : Move ρ → Bool
  | .compact | .rebuild => true
  | _ => false

/-- Whether the move is a deletion that fails. -/
def Move.failsToDelete {ρ : Type} : Move ρ → Bool
  | .storeCall _ (.delete _) (some _) => true
  | _ => false

namespace Scheduler

variable {ρ σ : Type}

/-- A tag of a key is secured: it is linked, or a task sees to it. -/
def Secured (s : Scheduler ρ) (k : Key) (t : Tag) : Prop :=
  s.index.Linked t k ∨ ∃ (i : TaskId) (u : Task ρ), s.tasks[i]? = some u ∧ u.SeesTo k t

/-- A new task keeps a tag secured if it sees to what is taken from the index. -/
theorem Secured.spawn {s s₁ : Scheduler ρ} {k : Key} {t : Tag} {u : Task ρ}
    (h : s.Secured k t) (htasks : s₁.tasks = s.tasks)
    (hlink : s.index.Linked t k → s₁.index.Linked t k ∨ u.SeesTo k t) :
    (s₁.spawn u).Secured k t := by
  rcases h with hl | ⟨i, v, hv, hsees⟩
  · rcases hlink hl with hl | hsees
    · exact .inl hl
    · exact .inr ⟨s₁.tasks.length, u, by simp, hsees⟩
  · rw [← htasks] at hv
    have hne : i ≠ s₁.tasks.length := Nat.ne_of_lt (List.getElem?_eq_some_iff.mp hv).1
    refine .inr ⟨i, v, ?_, hsees⟩
    rw [getElem?_spawn, if_neg hne]
    exact hv

/-- A task that changes its phase keeps a tag secured if it keeps it linked and goes on to see to it
or links it. -/
theorem Secured.setTask {s s₁ : Scheduler ρ} {id : TaskId} {k : Key} {t : Tag} {u u' : Task ρ}
    (h : s.Secured k t) (hid : s.tasks[id]? = some u) (htasks : s₁.tasks = s.tasks)
    (hlink : s.index.Linked t k → s₁.index.Linked t k)
    (hsees : u.SeesTo k t → s₁.index.Linked t k ∨ u'.SeesTo k t) :
    (s₁.setTask id u').Secured k t := by
  have hid₁ : s₁.tasks[id]? = some u := htasks ▸ hid
  rcases h with hl | ⟨i, v, hv, hv'⟩
  · exact .inl (hlink hl)
  · by_cases hi : i = id
    · subst hi
      cases hid.symm.trans hv
      rcases hsees hv' with hl | hu
      · exact .inl hl
      · exact .inr ⟨i, u', getElem?_setTask_self hid₁ u', hu⟩
    · refine .inr ⟨i, v, ?_, hv'⟩
      rw [getElem?_setTask hid₁, if_neg hi, htasks]
      exact hv

variable [Store σ]

/-- A task that advances goes on to see to what it saw to. -/
theorem Advance.seesTo {s : Scheduler ρ} {st st' : σ} {id : TaskId} {m : Move ρ} {u u' : Task ρ}
    {metrics : Metrics} {k : Key} {t : Tag} (h : Advance s st id m u u' metrics st')
    (hu : u.SeesTo k t) : u'.SeesTo k t := by
  cases hu with
  | committed _ => cases h
  | deleting ht =>
    cases h with
    | removalFailed _ => exact .relinking ht
  | relinking _ => cases h
  | purging hk =>
    cases h with
    | @purgeFailed _ _ _ j _ _ _ _ _ =>
      refine .restoring ?_
      by_cases hj : k = j
      · exact .inl hj
      · exact .inr (SortedSet.mem_erase.mpr ⟨hj, hk⟩)
    | purgeEnded hempty => exact absurd hk (SortedSet.not_mem_of_isEmpty hempty k)
  | goingOn hk =>
    cases h with
    | purgeWentOn => exact .purging hk
  | restoring _ => cases h

/-! ## The invariant -/

variable [LawfulStore σ]

/-- **All secured.** Every tag of every entry held is secured. -/
structure AllSecured (s : Scheduler ρ) (st : σ) : Prop where
  /-- what always holds -/
  standing : Standing s st
  /-- both maps of the index show the same links -/
  coherent : s.index.Coherent
  /-- what a flight has stored and not yet linked is still held, or the key is held no more -/
  committed : ∀ ⦃f : FlightId⦄ ⦃k : Key⦄ ⦃o : Option Generation⦄ ⦃x : ρ⦄ ⦃e e' : Entry⦄,
    s.tasks[f]? = some (.flight k o x (.committed e)) → held st k = some e' → e' = kept σ e
  /-- the tags of what is held are secured -/
  secured : ∀ ⦃k : Key⦄ ⦃e : Entry⦄ ⦃t : Tag⦄, held st k = some e → t ∈ e.tags → s.Secured k t

/-- **In step.** Every tag of every entry held is secured, and stays so. -/
structure InStep (s : Scheduler ρ) (st : σ) : Prop extends AllSecured s st where
  /-- no task changes links without the store -/
  steady : ∀ ⦃i : TaskId⦄ ⦃u : Task ρ⦄, s.tasks[i]? = some u → u.isMaintenance = false

theorem inStep_new (policy : Policy) (renderTimeout : Duration) {st : σ} (hv : Valid st)
    (hempty : ∀ k, held st k = none) : InStep (new policy renderTimeout : Scheduler ρ) st where
  standing := standing_new policy renderTimeout hv
  coherent := TagIndex.coherent_empty
  steady := by
    intro i u h
    cases h
  committed := by
    intro f k o x e e' h
    cases h
  secured := by
    intro k e t he
    rw [hempty k] at he
    cases he

/-! ## One move -/

omit [LawfulStore σ] in
/-- A task that advances changes links without the store if it did. -/
theorem Advance.isMaintenance {s : Scheduler ρ} {st st' : σ} {id : TaskId} {m : Move ρ}
    {u u' : Task ρ} {metrics : Metrics} (h : Advance s st id m u u' metrics st') :
    u'.isMaintenance = u.isMaintenance := by
  cases h <;> rfl

omit [LawfulStore σ] in
/-- Compactions and rebuilds are begun by their own moves. -/
theorem steady_of_transition {s s' : Scheduler ρ} {st st' : σ} {m : Move ρ}
    (ht : Transition s st m s' st') (hm : m.beginsMaintenance = false)
    (h : ∀ ⦃i : TaskId⦄ ⦃u : Task ρ⦄, s.tasks[i]? = some u → u.isMaintenance = false) :
    ∀ ⦃i : TaskId⦄ ⦃u : Task ρ⦄, s'.tasks[i]? = some u → u.isMaintenance = false := by
  intro i u hu
  cases ht with
  | opened ho =>
    obtain ⟨-, rfl⟩ | hu := of_getElem?_spawn hu
    · cases ho with
      | call _ _ => rfl
      | survey _ => rfl
      | compaction => cases hm
      | rebuild => cases hm
    · exact h hu
  | forgotten _ | detached _ =>
    obtain ⟨-, rfl⟩ | hu := of_getElem?_spawn hu
    · rfl
    · exact h hu
  | @advanced _ _ _ _ metrics _ hid ha =>
    obtain ⟨-, rfl⟩ | hu := of_getElem?_setTask (s := { s with metrics }) hid hu
    · exact ha.isMaintenance.trans (h hid)
    · exact h hu
  | led hid _ _ =>
    obtain ⟨-, rfl⟩ | ⟨-, rfl⟩ | hu := of_getElem?_setTask_spawn hid hu
    · rfl
    · rfl
    · exact h hu
  | dropped hid | rebuilt hid => cases h hid
  | ended hid | stored hid _ | linked hid | removed hid _ | relinked hid | purged hid _ _
  | restored hid =>
    obtain ⟨-, rfl⟩ | hu := of_getElem?_setTask hid hu
    · rfl
    · exact h hu

/-- Links are changed in both maps. -/
theorem AllSecured.coherent_of_transition {s s' : Scheduler ρ} {st st' : σ} {m : Move ρ}
    (h : AllSecured s st) (ht : Transition s st m s' st')
    (hm : ∀ ⦃i u⦄, m.actor? = some i → s.tasks[i]? = some u → u.overwrites = false) :
    s'.index.Coherent := by
  cases ht with
  | forgotten k => exact h.coherent.forget k
  | detached t => exact h.coherent.detach t
  | linked _ => exact h.coherent.replaceTags _ _
  | relinked _ => exact h.coherent.linkTags _ _
  | restored _ => exact h.coherent.linkKeys _ _
  | dropped hid | rebuilt hid => cases hm rfl hid
  | opened _ | advanced _ _ | led _ _ _ | ended _ | stored _ _ | removed _ _ | purged _ _ _ =>
    exact h.coherent

/-- What a flight has stored is replaced by no other flight before it is linked. -/
theorem AllSecured.committed_of_transition {s s' : Scheduler ρ} {st st' : σ} {m : Move ρ}
    (h : AllSecured s st) (ht : Transition s st m s' st') ⦃f : FlightId⦄ ⦃k : Key⦄
    ⦃o : Option Generation⦄ ⦃x : ρ⦄ ⦃e e' : Entry⦄
    (hf : s'.tasks[f]? = some (.flight k o x (.committed e))) (he : held st' k = some e') :
    e' = kept σ e := by
  obtain hf₀ | ⟨hf₀, fault, -, ha⟩ := ht.committed hf
  · cases (ht.change h.standing.valid).2 with
    | nothing hheld => exact h.committed hf₀ (hheld ▸ he)
    | @stored g j _ _ e₂ _ hg _ _ htakes =>
      obtain ⟨hk, -⟩ | ⟨-, he⟩ := htakes.eq_or he
      · -- the other flight would be of the same key
        rw [key_kept, h.standing.key_of_holds hg .committing] at hk
        subst hk
        have hfg := h.standing.oneFlight.unique (flying_of_getElem? hf₀ rfl)
          (flying_of_getElem? hg rfl)
        subst hfg
        cases hf₀.symm.trans hg
      · exact h.committed hf₀ he
    | deleted hheld =>
      rw [hheld] at he
      exact h.committed hf₀ (Contents.eq_of_without he).2
  · obtain ⟨-, -, -, -, htakes⟩ := ask_put_stored h.standing.valid ha
    have hheld := htakes.1
    rw [key_kept, h.standing.key_of_holds hf₀ .committing] at hheld
    exact Option.some.inj (he.symm.trans hheld)

/-- What is held after a move and was not stored by it was held before. -/
theorem AllSecured.secured_of_transition {s s' : Scheduler ρ} {st st' : σ} {m : Move ρ}
    (h : AllSecured s st) (ht : Transition s st m s' st')
    (hm : ∀ ⦃i u⦄, m.actor? = some i → s.tasks[i]? = some u → u.overwrites = false)
    ⦃k : Key⦄ ⦃e : Entry⦄ ⦃t : Tag⦄ (he : held st' k = some e) (hmem : t ∈ e.tags) :
    s'.Secured k t := by
  have hv := h.standing.valid
  cases ht with
  | opened _ => exact (h.secured he hmem).spawn rfl .inl
  | forgotten j =>
    -- the removal sees to what it has unlinked
    refine (h.secured he hmem).spawn rfl fun hl => ?_
    by_cases hk : k = j
    · subst hk
      exact .inr (.deleting ((h.coherent t k).mpr hl))
    · exact .inl ((TagIndex.linked_forget h.coherent).mpr ⟨hk, hl⟩)
  | detached u =>
    -- the purge sees to the keys that it has unlinked
    refine (h.secured he hmem).spawn rfl fun hl => ?_
    by_cases htu : t = u
    · subst htu
      exact .inr (.purging hl)
    · exact .inl (TagIndex.linked_detach.mpr ⟨htu, hl⟩)
  | advanced hid ha =>
    rw [(ha.contents hv).2] at he
    exact (h.secured he hmem).setTask hid rfl id fun hs => .inr (ha.seesTo hs)
  | @led c j x found now hid _ _ =>
    have hspawn : ({ s with
        flights := ⟨s.flights.records.insert j s.tasks.length⟩
        metrics := Call.countBoarded (s.policy.classify found now) found s.metrics }.spawn
          (.flight j (found.map Entry.generation) x .checking)).Secured k t :=
      (h.secured he hmem).spawn rfl .inl
    have hne : c ≠ s.tasks.length := Nat.ne_of_lt (List.getElem?_eq_some_iff.mp hid).1
    refine hspawn.setTask ((getElem?_spawn _ _ _).trans ((if_neg hne).trans hid)) rfl id
      fun hs => ?_
    cases hs
  | ended hid => exact (h.secured he hmem).setTask hid rfl id fun hs => by cases hs
  | stored hid ha =>
    obtain ⟨-, -, -, -, htakes⟩ := ask_put_stored hv ha
    -- a new entry has no link yet, and its flight sees to that
    obtain ⟨rfl, rfl⟩ | ⟨-, he⟩ := htakes.eq_or he
    · rw [tags_kept] at hmem
      rw [key_kept, h.standing.key_of_holds hid .committing]
      exact .inr ⟨_, _, getElem?_setTask_self hid _, .committed hmem⟩
    · exact (h.secured he hmem).setTask hid rfl id fun hs => by cases hs
  | @linked id j o x e₂ now hid =>
    by_cases hk : k = j
    · subst hk
      -- the entry whose tags are linked is the one that is held
      rw [h.committed hid he, tags_kept] at hmem
      exact .inl ((TagIndex.linked_replaceTags h.coherent).mpr (.inl ⟨rfl, hmem⟩))
    · have hl {y : Tag} (hl : s.index.Linked y k) : (s.index.replaceTags j e₂.tags).Linked y k :=
        (TagIndex.linked_replaceTags h.coherent).mpr (.inr ⟨hk, hl⟩)
      refine (h.secured he hmem).setTask hid rfl hl fun hs => ?_
      cases hs with
      | committed _ => exact absurd rfl hk
  | removed hid ha =>
    obtain ⟨-, -, hheld⟩ := ask_delete_ok hv ha
    rw [hheld] at he
    -- what is held afterwards is of another key than the one removed
    obtain ⟨hk, he⟩ := Contents.eq_of_without he
    refine (h.secured he hmem).setTask hid rfl id fun hs => ?_
    cases hs with
    | deleting _ => exact absurd rfl hk
  | relinked hid =>
    refine (h.secured he hmem).setTask hid rfl (fun hl => ?_) fun hs => ?_
    · exact TagIndex.linked_linkTags.mpr (.inr hl)
    · cases hs with
      | relinking hu =>
        exact .inl (TagIndex.linked_linkTags.mpr (.inl ⟨SortedSet.mem_toList.mpr hu, rfl⟩))
  | purged hid _ ha =>
    obtain ⟨-, -, hheld⟩ := ask_delete_ok hv ha
    rw [hheld] at he
    obtain ⟨hk, he⟩ := Contents.eq_of_without he
    refine (h.secured he hmem).setTask hid rfl id fun hs => ?_
    cases hs with
    | purging hdue => exact .inr (.goingOn (SortedSet.mem_erase.mpr ⟨hk, hdue⟩))
  | restored hid =>
    refine (h.secured he hmem).setTask hid rfl (fun hl => ?_) fun hs => ?_
    · exact TagIndex.linked_linkKeys.mpr (.inr hl)
    · cases hs with
      | restoring hdue =>
        refine .inl (TagIndex.linked_linkKeys.mpr (.inl ⟨rfl, ?_⟩))
        rw [SortedSet.mem_toList, SortedSet.mem_insert]
        exact hdue
  | dropped hid | rebuilt hid => cases hm rfl hid

/-- **One move** keeps all tags secured, unless it changes links without the store. -/
theorem AllSecured.of_transition {s s' : Scheduler ρ} {st st' : σ} {m : Move ρ}
    (h : AllSecured s st) (ht : Transition s st m s' st')
    (hm : ∀ ⦃i u⦄, m.actor? = some i → s.tasks[i]? = some u → u.overwrites = false) :
    AllSecured s' st' where
  standing := h.standing.of_transition ht
  coherent := h.coherent_of_transition ht hm
  committed := h.committed_of_transition ht
  secured := h.secured_of_transition ht hm

/-- **One move** keeps store and index in step. -/
theorem InStep.of_transition {s s' : Scheduler ρ} {st st' : σ} {m : Move ρ} (h : InStep s st)
    (ht : Transition s st m s' st') (hm : m.beginsMaintenance = false) : InStep s' st' := by
  have h' := h.toAllSecured.of_transition ht fun _ _ _ hu =>
    Task.overwrites_of_not_isMaintenance (h.steady hu)
  exact ⟨h', steady_of_transition ht hm h.steady⟩

/-! ## While no deletion fails -/

/-- A flight has stored an entry of the key and has still to link its tags. -/
def Linking (s : Scheduler ρ) (k : Key) : Prop :=
  ∃ (f : FlightId) (o : Option Generation) (x : ρ) (e : Entry),
    s.tasks[f]? = some (.flight k o x (.committed e))

/-- **Exact.** An entry held has no other tags linked than its own, unless a flight is about to
replace them. -/
structure Exact (s : Scheduler ρ) (st : σ) : Prop where
  /-- no task is to link again what it has unlinked -/
  unfailed : ∀ ⦃i : TaskId⦄ ⦃u : Task ρ⦄, s.tasks[i]? = some u → u.relinks = false
  /-- what is linked to a key held is a tag of its entry -/
  exact : ∀ ⦃k : Key⦄ ⦃e : Entry⦄ ⦃t : Tag⦄, held st k = some e → s.index.Linked t k →
    t ∈ e.tags ∨ s.Linking k

theorem exact_new (policy : Policy) (renderTimeout : Duration) {st : σ}
    (hempty : ∀ k, held st k = none) : Exact (new policy renderTimeout : Scheduler ρ) st where
  unfailed := by
    intro i u h
    cases h
  exact := by
    intro k e t he
    rw [hempty k] at he
    cases he

/-- A task comes to link again by a deletion that fails. -/
theorem Advance.relinks {s : Scheduler ρ} {st st' : σ} {id : TaskId} {m : Move ρ} {u u' : Task ρ}
    {metrics : Metrics} (h : Advance s st id m u u' metrics st') (hv : Valid st)
    (hm : m.failsToDelete = false) : u'.relinks = false := by
  cases h with
  | removalFailed ha =>
    obtain ⟨rfl, -⟩ := ask_delete_error hv ha
    cases hm
  | purgeFailed _ ha =>
    obtain ⟨rfl, -⟩ := ask_delete_error hv ha
    cases hm
  | _ => rfl

theorem Exact.unfailed_of_transition {s s' : Scheduler ρ} {st st' : σ} {m : Move ρ}
    (h : Exact s st) (hv : Valid st) (ht : Transition s st m s' st')
    (hm : m.failsToDelete = false) :
    ∀ ⦃i : TaskId⦄ ⦃u : Task ρ⦄, s'.tasks[i]? = some u → u.relinks = false := by
  intro i u hu
  cases ht with
  | opened ho =>
    obtain ⟨-, rfl⟩ | hu := of_getElem?_spawn hu
    · cases ho <;> rfl
    · exact h.unfailed hu
  | forgotten _ | detached _ =>
    obtain ⟨-, rfl⟩ | hu := of_getElem?_spawn hu
    · rfl
    · exact h.unfailed hu
  | @advanced _ _ _ _ metrics _ hid ha =>
    obtain ⟨-, rfl⟩ | hu := of_getElem?_setTask (s := { s with metrics }) hid hu
    · exact ha.relinks hv hm
    · exact h.unfailed hu
  | led hid _ _ =>
    obtain ⟨-, rfl⟩ | ⟨-, rfl⟩ | hu := of_getElem?_setTask_spawn hid hu
    · rfl
    · rfl
    · exact h.unfailed hu
  | ended hid | stored hid _ | linked hid | removed hid _ | relinked hid | purged hid _ _
  | restored hid | dropped hid | rebuilt hid =>
    obtain ⟨-, rfl⟩ | hu := of_getElem?_setTask hid hu
    · rfl
    · exact h.unfailed hu

omit [LawfulStore σ] in
/-- A flight is about to link its tags until it does. -/
theorem Linking.persists {s s' : Scheduler ρ} {st st' : σ} {m : Move ρ} {k : Key}
    (h : s.Linking k) (ht : Transition s st m s' st') :
    s'.Linking k ∨ st' = st ∧ ∃ (f : FlightId) (o : Option Generation) (x : ρ) (e : Entry),
      m.actor? = some f ∧ s.tasks[f]? = some (.flight k o x (.committed e)) ∧
        s'.index = s.index.replaceTags k e.tags := by
  obtain ⟨f, o, x, e, hf⟩ := h
  obtain ⟨p', hf', -, -⟩ := (later_of_transition ht).flight hf
  obtain hf₀ | ⟨rfl, -⟩ | ⟨p, hf₀, hstep⟩ := ht.flight hf'
  · cases hf.symm.trans hf₀
    exact .inl ⟨f, o, x, e, hf'⟩
  · exact absurd (List.getElem?_eq_some_iff.mp hf).1 (Nat.lt_irrefl _)
  · cases hf.symm.trans hf₀
    cases hstep with
    | advanced ha => cases ha
    | linked => exact .inr ⟨rfl, f, o, x, e, rfl, hf, rfl⟩

theorem Exact.exact_of_transition {s s' : Scheduler ρ} {st st' : σ} {m : Move ρ}
    (h : Exact s st) (hin : InStep s st) (ht : Transition s st m s' st')
    ⦃k : Key⦄ ⦃e : Entry⦄ ⦃t : Tag⦄ (he : held st' k = some e) (hl : s'.index.Linked t k) :
    t ∈ e.tags ∨ s'.Linking k := by
  have hv := hin.standing.valid
  have hold : held st k = some e → s.index.Linked t k → t ∈ e.tags ∨ s'.Linking k := by
    intro he₀ hl₀
    rcases h.exact he₀ hl₀ with hmem | hlinking
    · exact .inl hmem
    · obtain hlinking' | ⟨-, f, o, x, e₂, -, hf, hindex⟩ := hlinking.persists ht
      · exact .inr hlinking'
      · -- the flight has just replaced the tags by those of the entry that is held
        rw [hindex, TagIndex.linked_replaceTags hin.coherent] at hl
        rw [hin.committed hf he₀, tags_kept]
        rcases hl with ⟨-, hmem⟩ | ⟨hne, -⟩
        · exact .inl hmem
        · exact absurd rfl hne
  cases ht with
  | opened _ | led _ _ _ | ended _ => exact hold he hl
  | forgotten j => exact hold he ((TagIndex.linked_forget hin.coherent).mp hl).2
  | detached u => exact hold he (TagIndex.linked_detach.mp hl).2
  | advanced _ ha =>
    rw [(ha.contents hv).2] at he
    exact hold he hl
  | stored hid ha =>
    obtain ⟨-, -, -, -, htakes⟩ := ask_put_stored hv ha
    obtain ⟨rfl, -⟩ | ⟨-, he⟩ := htakes.eq_or he
    · rw [key_kept, hin.standing.key_of_holds hid .committing]
      exact .inr ⟨_, _, _, _, getElem?_setTask_self hid _⟩
    · exact hold he hl
  | @linked _ j _ _ e₂ _ hid =>
    rcases (TagIndex.linked_replaceTags hin.coherent).mp hl with ⟨rfl, hmem⟩ | ⟨-, hl₀⟩
    · rw [hin.committed hid he, tags_kept]
      exact .inl hmem
    · exact hold he hl₀
  | removed _ ha =>
    obtain ⟨-, -, hheld⟩ := ask_delete_ok hv ha
    rw [hheld] at he
    exact hold (Contents.eq_of_without he).2 hl
  | purged _ _ ha =>
    obtain ⟨-, -, hheld⟩ := ask_delete_ok hv ha
    rw [hheld] at he
    exact hold (Contents.eq_of_without he).2 hl
  | relinked hid | restored hid => cases h.unfailed hid
  | dropped hid | rebuilt hid => cases hin.steady hid

/-- **One move** that is no failed deletion keeps the links exact. -/
theorem Exact.of_transition {s s' : Scheduler ρ} {st st' : σ} {m : Move ρ} (h : Exact s st)
    (hin : InStep s st) (ht : Transition s st m s' st') (hm : m.failsToDelete = false) :
    Exact s' st' where
  unfailed := h.unfailed_of_transition hin.standing.valid ht hm
  exact := h.exact_of_transition hin ht

/-! ## Whole runs -/

/-- **A whole run** keeps store and index in step. -/
theorem MoveRun.inStep (r : MoveRun ρ σ) {policy : Policy} {renderTimeout : Duration}
    (h₀ : (r.state 0).1 = new policy renderTimeout) (hv : Valid (r.state 0).2)
    (hempty : ∀ k, held (r.state 0).2 k = none)
    (hm : ∀ i < r.length, (r.event i).beginsMaintenance = false) :
    ∀ i ≤ r.length, InStep (r.state i).1 (r.state i).2 := by
  intro i hi
  refine r.stays (P := fun y => InStep y.1 y.2) ?_ ?_ i (Nat.zero_le i) hi
  · rw [h₀]
    exact inStep_new policy renderTimeout hv hempty
  · intro j _ hj h
    exact h.of_transition (.of_moved (r.step j hj)) (hm j hj)

/-- **A run without failed deletions** keeps the links exact. -/
theorem MoveRun.exact (r : MoveRun ρ σ) {policy : Policy} {renderTimeout : Duration} {n : Nat}
    (h₀ : (r.state 0).1 = new policy renderTimeout) (hempty : ∀ k, held (r.state 0).2 k = none)
    (hin : ∀ i ≤ r.length, InStep (r.state i).1 (r.state i).2) (hn : n ≤ r.length)
    (hd : ∀ i < n, (r.event i).failsToDelete = false) : Exact (r.state n).1 (r.state n).2 := by
  refine r.stays (P := fun y => Exact y.1 y.2) ?_ ?_ n (Nat.zero_le n) (Nat.le_refl n)
  · rw [h₀]
    exact exact_new policy renderTimeout hempty
  · intro j _ hj h
    exact h.of_transition (hin j (by omega)) (.of_moved (r.step j (by omega))) (hd j hj)

/-! ## The main result -/

/-- No flight, removal or purge is under way. -/
def Quiet (s : Scheduler ρ) : Prop := ∀ u ∈ s.tasks, u.writes = true → u.isOver = true

omit [Store σ] [LawfulStore σ] in
/-- What is secured while nothing is under way is linked. -/
theorem Secured.linked {s : Scheduler ρ} {k : Key} {t : Tag} (h : s.Secured k t) (hq : Quiet s) :
    s.index.Linked t k := by
  rcases h with hl | ⟨i, u, hu, hsees⟩
  · exact hl
  · obtain ⟨hw, hover⟩ := hsees.underWay
    have hover' := hq u (List.mem_of_getElem? hu) hw
    rw [hover] at hover'
    cases hover'

/-- **In agreement.** The index has the tags of what the store holds, and the sweeps over it tell
and do what they are for. -/
structure InAgreement (s : Scheduler ρ) (st : σ) : Prop where
  /-- every tag of every entry held is linked to its key, in both maps -/
  linked : ∀ k e, held st k = some e →
    ∀ t ∈ e.tags, k ∈ s.index.keysForTag t ∧ t ∈ s.index.tagsForKey k
  /-- a survey run alone answers exactly the keys whose entry carries the tag -/
  surveyed : ∀ t, ∃ y, moved (s, st) (.survey t) = some y ∧
    Completes moved (Move.IsOwn s.tasks.length) (fun y => held y.2 = held st ∧
      ∃ live : SortedSet Key,
        y.1.tasks[s.tasks.length]? = some (.survey (.finished (.ok live))) ∧
          ∀ k, k ∈ live ↔ (held st).Carries k t) y
  /-- a purge run alone ends well and leaves no entry that carries the tag -/
  purged : ∀ t, ∃ y, moved (s, st) (.invalidateTag t) = some y ∧
    Completes moved (Move.IsOwn s.tasks.length) (fun y =>
      (∃ n, y.1.tasks[s.tasks.length]? = some (.purge (.finished (.ok n)))) ∧
        ∀ k, ¬ (held y.2).Carries k t) y

theorem AllSecured.inAgreement {s : Scheduler ρ} {st : σ} (h : AllSecured s st) (hq : Quiet s) :
    InAgreement s st where
  linked k e he t ht :=
    have hl := (h.secured he ht).linked hq
    ⟨hl, (h.coherent t k).mpr hl⟩
  surveyed t := by
    refine ⟨_, rfl, survey_completes _ _ _ ∅ rfl h.standing.valid rfl
      ((getElem?_spawn s _ _).trans (if_pos rfl)) fun k => ?_⟩
    constructor
    · rintro (hk | ⟨-, hk⟩)
      · exact absurd hk (SortedSet.not_mem_empty k)
      · exact hk
    · rintro ⟨e, he, ht⟩
      exact .inr ⟨(h.secured he ht).linked hq, e, he, ht⟩
  purged t := by
    refine ⟨_, rfl, purge_completes _ _ _ 0 rfl h.standing.valid
      ((getElem?_spawn { s with index := (s.index.detach t).2 } _ _).trans (if_pos rfl)) ?_⟩
    rintro k ⟨e, he, ht⟩
    exact (h.secured he ht).linked hq

/-- When nothing is under way, exact links are the tags of what is held. -/
theorem Exact.tags_eq {s : Scheduler ρ} {st : σ} (h : Exact s st) (hin : InStep s st)
    (hq : Quiet s) {k : Key} {e : Entry} (he : held st k = some e) :
    s.index.tagsForKey k = e.tags ∧ ∀ t, k ∈ s.index.keysForTag t ↔ t ∈ e.tags := by
  have hiff : ∀ t, s.index.Linked t k ↔ t ∈ e.tags := by
    intro t
    constructor
    · intro hl
      rcases h.exact he hl with ht | ⟨f, o, x, e', hf⟩
      · exact ht
      · cases hq _ (List.mem_of_getElem? hf) rfl
    · intro ht
      exact (hin.secured he ht).linked hq
  exact ⟨SortedSet.ext fun t => (hin.coherent t k).trans (hiff t), hiff⟩

/-- **Tags stay linked.** In every run from an empty store, whenever no flight, removal or purge is
under way, store and index are in agreement; and as long as no deletion has failed, the tags linked
to each key held are exactly those of its entry. -/
theorem tags_stay_linked (r : MoveRun ρ σ) (policy : Policy) (renderTimeout : Duration)
    (h₀ : (r.state 0).1 = new policy renderTimeout) (hv : Valid (r.state 0).2)
    (hempty : ∀ k, held (r.state 0).2 k = none)
    (hm : ∀ i < r.length, (r.event i).beginsMaintenance = false) {n : Nat} (hn : n ≤ r.length)
    (hq : Quiet (r.state n).1) :
    InAgreement (r.state n).1 (r.state n).2 ∧
      ((∀ i < n, (r.event i).failsToDelete = false) → ∀ k e, held (r.state n).2 k = some e →
        (r.state n).1.index.tagsForKey k = e.tags ∧
          ∀ t, k ∈ (r.state n).1.index.keysForTag t ↔ t ∈ e.tags) := by
  have hin := r.inStep h₀ hv hempty hm
  refine ⟨(hin n hn).toAllSecured.inAgreement hq, fun hd k e he => ?_⟩
  exact (r.exact h₀ hempty hin hn hd).tags_eq (hin n hn) hq he

/-- A page with a tag. -/
def newsPage : RenderOutput := (RenderOutput.ofBody "news".toUTF8).withTag "news"

/-- A page is committed while its tag is purged: the purge begins when the page is stored and not
yet linked, so it finds nothing to delete. -/
def purgedMeanwhile : List (Move Nat) :=
  [.lookup ⟨"home"⟩ 1, .storeCall 0 (.get ⟨"home"⟩) none, .proceed 0 .epoch,
    .storeCall 1 (.get ⟨"home"⟩) none, .proceed 1 .epoch, .render 1 (.output newsPage) .epoch,
    .storeCall 1 (.put (entryOf ⟨"home"⟩ none newsPage .epoch) none) none,
    .invalidateTag "news", .proceed 1 .epoch, .proceed 1 .epoch, .proceed 2 .epoch,
    .proceed 0 .epoch]

/-- The run of these moves over an empty store for one entry. -/
def purgedMeanwhileRun : MoveRun Nat MemoryStore :=
  .ofList (new ⟨none⟩ (.ofSecs 5), .bounded 1) purgedMeanwhile rfl

theorem tags_linked_though_purged_meanwhile :
    Quiet (purgedMeanwhileRun.state 12).1 ∧
      held (purgedMeanwhileRun.state 12).2 ⟨"home"⟩ =
        some (entryOf ⟨"home"⟩ none newsPage .epoch) ∧
      InAgreement (purgedMeanwhileRun.state 12).1 (purgedMeanwhileRun.state 12).2 ∧
      (purgedMeanwhileRun.state 12).1.index.tagsForKey ⟨"home"⟩ = newsPage.tags := by
  have hm : ∀ i < purgedMeanwhileRun.length,
      (purgedMeanwhileRun.event i).beginsMaintenance = false := by decide +kernel
  have hd : ∀ i < 12, (purgedMeanwhileRun.event i).failsToDelete = false := by decide +kernel
  have hq : Quiet (purgedMeanwhileRun.state 12).1 := by
    unfold Quiet
    decide +kernel
  have hheld : held (purgedMeanwhileRun.state 12).2 ⟨"home"⟩ =
      some (entryOf ⟨"home"⟩ none newsPage .epoch) := rfl
  obtain ⟨hagree, hexact⟩ := tags_stay_linked purgedMeanwhileRun ⟨none⟩ (.ofSecs 5) rfl
    (MemoryStore.distinct_bounded 1) (fun _ => rfl) hm (Nat.le_refl 12) hq
  exact ⟨hq, hheld, hagree, (hexact hd _ _ hheld).1⟩

end Scheduler

end PageCache
