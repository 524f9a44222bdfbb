import PageCache.Proofs.Scheduler.LinkedTags
import PageCache.Proofs.Scheduler.RenderedOnce
import PageCache.Proofs.TagIndex.Sweep

/-!
# Links and maintenance

A compaction asks the store for a key and then drops the links of the key if it was missing; a
rebuild asks for all keys, one after the other, and then puts the index of what it has read in place
of the one that is there. Neither looks again before it changes the links. So a flight that stores
an entry after the question and links its tags before the change is overlooked, and its links are
lost, although the entry is held.

* `Kept.of_transition` — as long as no flight links a tag that is overlooked, every tag of every
  entry is secured: a flight that has stored what is overlooked has still to link it;
* `links_kept` — then whenever no flight, removal or purge is under way, store and index are in
  agreement, however compactions and rebuilds are interleaved with everything else;
* `links_lost` — a compaction loses the link of an entry that is held, and so does a rebuild.
-/

namespace PageCache

open LawfulStore

namespace Task

variable {ρ : Type}

/-- Whether the task will change links by what it has been told of the store. -/
def gathers : Task ρ → Bool
  | compaction (.missing ..) | rebuild (.reading ..) => true
  | _ => false

/-- Whether the change of links that the task will make leaves the tag of the key unlinked: a
compaction that has missed the key, or a rebuild that has passed it without recording the tag. -/
def overlooks (k : Key) (t : Tag) : Task ρ → Bool
  | compaction (.missing j _ _) => k = j
  | rebuild (.reading due built) => k ∉ due ∧ k ∉ built.keysForTag t
  | _ => false

theorem gathers_of_overlooks {u : Task ρ} {k : Key} {t : Tag} (h : u.overlooks k t = true) :
    u.gathers = true := by
  cases u with
  | compaction c =>
    cases c with
    | missing j due n => rfl
    | _ => cases h
  | rebuild r =>
    cases r with
    | reading due built => rfl
    | _ => cases h
  | _ => cases h

/-- A task that gathers is not over. -/
theorem isOver_of_gathers {u : Task ρ} (h : u.gathers = true) : u.isOver = false := by
  cases u with
  | compaction c =>
    cases c with
    | missing j due n => rfl
    | _ => cases h
  | rebuild r =>
    cases r with
    | reading due built => rfl
    | _ => cases h
  | _ => cases h

end Task

namespace Scheduler

variable {ρ σ : Type}

/-- Whether in this move a flight links a tag that a task overlooks. -/
def linksOverlooked (s : Scheduler ρ) (m : Move ρ) : Bool :=
  match m.actor?.bind (s.tasks[·]?) with
  | some (.flight k _ _ (.committed e)) =>
    e.tags.toList.any fun t => s.tasks.any (·.overlooks k t)
  | _ => false

theorem linksOverlooked_eq_true {s : Scheduler ρ} {m : Move ρ} {f i : TaskId} {k : Key}
    {o : Option Generation} {x : ρ} {e : Entry} {t : Tag} {u : Task ρ} (hm : m.actor? = some f)
    (hf : s.tasks[f]? = some (.flight k o x (.committed e))) (ht : t ∈ e.tags)
    (hu : s.tasks[i]? = some u) (ho : u.overlooks k t = true) : s.linksOverlooked m = true := by
  simp only [linksOverlooked, hm, Option.bind_some, hf, List.any_eq_true]
  exact ⟨t, SortedSet.mem_toList.mpr ht, u, List.mem_of_getElem? hu, ho⟩

variable [Store σ]

/-- A task that gathers did so before, or has just been answered by the store. -/
theorem Transition.gathers {s s' : Scheduler ρ} {st st' : σ} {m : Move ρ} {i : TaskId} {u : Task ρ}
    (h : Transition s st m s' st') (hu : s'.tasks[i]? = some u) (hg : u.gathers = true) :
    s.tasks[i]? = some u ∨
      ∃ u₀ metrics, s.tasks[i]? = some u₀ ∧ Advance s st i m u₀ u metrics st' := by
  cases h with
  | opened ho =>
    obtain ⟨-, rfl⟩ | hu := of_getElem?_spawn hu
    · cases ho <;> cases hg
    · exact .inl hu
  | forgotten _ | detached _ =>
    obtain ⟨-, rfl⟩ | hu := of_getElem?_spawn hu
    · cases hg
    · exact .inl hu
  | @advanced _ _ _ _ metrics _ hid ha =>
    obtain ⟨rfl, rfl⟩ | hu := of_getElem?_setTask (s := { s with metrics }) hid hu
    · exact .inr ⟨_, metrics, hid, ha⟩
    · exact .inl hu
  | led hid _ _ =>
    obtain ⟨-, rfl⟩ | ⟨-, rfl⟩ | hu := of_getElem?_setTask_spawn hid hu
    · cases hg
    · cases hg
    · exact .inl hu
  | ended hid | stored hid _ | linked hid | removed hid _ | relinked hid | purged hid _ _
  | restored hid | dropped hid | rebuilt hid =>
    obtain ⟨-, rfl⟩ | hu := of_getElem?_setTask hid hu
    · cases hg
    · exact .inl hu

variable [LawfulStore σ]

/-! ## The invariant -/

/-- **Kept.** Every tag of every entry held is secured, and one that is overlooked has still to be
linked by the flight that has stored it. -/
structure Kept (s : Scheduler ρ) (st : σ) : Prop where
  /-- the tags of what is held are secured -/
  allSecured : AllSecured s st
  /-- what rebuilds have recorded is an index of what they have read -/
  records : ∀ ⦃i : TaskId⦄ ⦃due : List Key⦄ ⦃built : TagIndex⦄,
    s.tasks[i]? = some (.rebuild (.reading due built)) → built.Records due
  /-- a flight sees to what is overlooked -/
  overlooked : ∀ ⦃k : Key⦄ ⦃e : Entry⦄ ⦃t : Tag⦄ ⦃i : TaskId⦄ ⦃u : Task ρ⦄,
    held st k = some e → t ∈ e.tags → s.tasks[i]? = some u → u.overlooks k t = true → s.Linking k

variable {s s' : Scheduler ρ} {st st' : σ} {m : Move ρ}

/-- What rebuilds have recorded stays an index of what they have read. -/
theorem Kept.records_of_transition (h : Kept s st) (ht : Transition s st m s' st') ⦃i : TaskId⦄
    ⦃due : List Key⦄ ⦃built : TagIndex⦄
    (hu : s'.tasks[i]? = some (.rebuild (.reading due built))) : built.Records due := by
  obtain hu | ⟨u₀, metrics, hu₀, ha⟩ := ht.gathers hu rfl
  · exact h.records hu
  · cases ha with
    | listed hask hlisted =>
      obtain ⟨rfl, rfl⟩ := Rebuild.of_listed hlisted
      exact TagIndex.records_empty (ask_list_ok h.allSecured.standing.valid hask).1
    | rebuilding hask hvisit =>
      obtain ⟨found, rfl, rfl, rfl⟩ := Rebuild.of_visit hvisit
      exact (h.records hu₀).record found

/-- A task that comes to overlook a tag of an entry that is held overlooked it before. -/
theorem Advance.overlooks {i : TaskId} {u u' : Task ρ} {metrics : Metrics} {k : Key} {e : Entry}
    {t : Tag} (ha : Advance s st i m u u' metrics st') (hv : Valid st) (he : held st k = some e)
    (ht : t ∈ e.tags) (ho : u'.overlooks k t = true) : u.overlooks k t = true := by
  cases ha with
  | @compacted c c' j fault answer _ _ hask hvisit =>
    cases c' with
    | missing j' due n =>
      -- the key that was missing is not held
      obtain rfl : k = j' := by simpa [Task.overlooks] using ho
      obtain ⟨rfl, rfl⟩ := Compaction.of_visit hvisit
      cases (ask_get_ok hv hask).trans he
    | _ => cases ho
  | @listed r r' fault answer _ hask hlisted =>
    cases r' with
    | reading due built =>
      -- every key that is held is still to be read
      obtain ⟨rfl, rfl⟩ := Rebuild.of_listed hlisted
      have hk := ((ask_list_ok hv hask).2 k).mpr (by rw [he]; rfl)
      simp [Task.overlooks, hk] at ho
    | _ => cases ho
  | @rebuilding j due built fault answer _ r' hask hvisit =>
    cases r' with
    | reading due' built' =>
      -- the tags of the key that has been read are recorded
      obtain ⟨found, rfl, rfl, rfl⟩ := Rebuild.of_visit hvisit
      obtain rfl := ask_get_ok hv hask
      simp only [Task.overlooks, decide_eq_true_eq] at ho ⊢
      obtain ⟨hdue, hlink⟩ := ho
      refine ⟨fun hmem => ?_, fun hl => hlink (TagIndex.linked_record.mpr (.inr hl))⟩
      rcases List.mem_cons.mp hmem with rfl | hmem
      · exact hlink (TagIndex.linked_record.mpr (.inl ⟨rfl, e, he, ht⟩))
      · exact hdue hmem
    | _ => cases ho
  | surveyed _ _ _ | surveyEnded _ => cases ho
  | _ => cases ho

/-- What a task overlooks has still to be linked by the flight that has stored it. -/
theorem Kept.overlooked_of_transition (h : Kept s st) (ht : Transition s st m s' st')
    (hm : s.linksOverlooked m = false) ⦃k : Key⦄ ⦃e : Entry⦄ ⦃t : Tag⦄ ⦃i : TaskId⦄ ⦃u : Task ρ⦄
    (he : held st' k = some e) (hmem : t ∈ e.tags) (hu : s'.tasks[i]? = some u)
    (ho : u.overlooks k t = true) : s'.Linking k := by
  have hs := h.allSecured.standing
  obtain he₀ | ⟨f, o, x, e₂, -, -, hcommitted, -⟩ := ht.held_or_stored hs he
  · -- the task overlooked the tag before, when the entry was held already
    obtain ⟨u₀, hu₀, ho₀⟩ : ∃ u₀, s.tasks[i]? = some u₀ ∧ u₀.overlooks k t = true := by
      obtain hu₀ | ⟨u₀, metrics, hu₀, ha⟩ := ht.gathers hu (Task.gathers_of_overlooks ho)
      · exact ⟨u, hu₀, ho⟩
      · exact ⟨u₀, hu₀, ha.overlooks hs.valid he₀ hmem ho⟩
    obtain hlinking | ⟨-, f, o, x, e₂, hf, hcommitted, -⟩ :=
      (h.overlooked he₀ hmem hu₀ ho₀).persists ht
    · exact hlinking
    · rw [h.allSecured.committed hcommitted he₀, tags_kept] at hmem
      have hlinks := linksOverlooked_eq_true hf hcommitted hmem hu₀ ho₀
      rw [hm] at hlinks
      cases hlinks
  · exact ⟨f, o, x, e₂, hcommitted⟩

omit [Store σ] in
/-- What a flight has stored and has still to link is secured, whatever another task does to the
index. -/
theorem AllSecured.secured_of_linking [Store σ] [LawfulStore σ] (h : AllSecured s st)
    {s₁ : Scheduler ρ} {id : TaskId} {u u' : Task ρ} {k : Key} {e : Entry} {t : Tag}
    (hlinking : s.Linking k) (he : held st k = some e) (hmem : t ∈ e.tags)
    (hid : s.tasks[id]? = some u) (hu : u.isMaintenance = true) (htasks : s₁.tasks = s.tasks) :
    (s₁.setTask id u').Secured k t := by
  obtain ⟨f, o, x, e₂, hf⟩ := hlinking
  rw [h.committed hf he, tags_kept] at hmem
  have hne : f ≠ id := by
    rintro rfl
    cases hf.symm.trans hid
    cases hu
  have hid₁ : s₁.tasks[id]? = some u := htasks ▸ hid
  refine .inr ⟨f, .flight k o x (.committed e₂), ?_, .committed hmem⟩
  rw [getElem?_setTask hid₁, if_neg hne, htasks]
  exact hf

omit [LawfulStore σ] in
/-- A task that advances is not about to change links. -/
theorem Advance.overwrites {i : TaskId} {u u' : Task ρ} {metrics : Metrics}
    (ha : Advance s st i m u u' metrics st') : u.overwrites = false := by
  cases ha with
  | @compacted c c' k fault answer _ _ _ hvisit =>
    cases c with
    | missing j due n => cases hvisit
    | _ => rfl
  | @listed r r' fault answer _ _ hlisted =>
    cases r with
    | reading due built => cases hlisted
    | _ => rfl
  | _ => rfl

/-- All tags stay secured, also when a task changes links without the store. -/
theorem Kept.allSecured_of_transition (h : Kept s st) (ht : Transition s st m s' st') :
    AllSecured s' st' := by
  have hall := h.allSecured
  have hstanding := hall.standing.of_transition ht
  have hcommitted := hall.committed_of_transition ht
  have ht' := ht
  cases ht with
  | @dropped i k due n now hid =>
    refine ⟨hstanding, hall.coherent.forget k, hcommitted, ?_⟩
    intro j e t he hmem
    by_cases hj : j = k
    · subst hj
      exact hall.secured_of_linking (h.overlooked he hmem hid (by simp [Task.overlooks])) he hmem
        hid rfl rfl
    · refine (hall.secured he hmem).setTask hid rfl (fun hl => ?_) fun hs => by cases hs
      exact (TagIndex.linked_forget hall.coherent).mpr ⟨hj, hl⟩
  | @rebuilt i built now hid =>
    refine ⟨hstanding, (h.records hid).coherent, hcommitted, ?_⟩
    intro k e t he hmem
    by_cases hl : built.Linked t k
    · exact .inl hl
    · have ho : (Task.rebuild (.reading [] built) : Task ρ).overlooks k t = true := by
        simpa [Task.overlooks, TagIndex.Linked] using hl
      exact hall.secured_of_linking (h.overlooked he hmem hid ho) he hmem hid rfl rfl
  | opened ho =>
    refine hall.of_transition ht' fun i u hi hu => ?_
    cases ho <;> cases hi
  | forgotten _ | detached _ =>
    refine hall.of_transition ht' fun i u hi hu => ?_
    cases hi
  | advanced hid ha =>
    refine hall.of_transition ht' fun i u hi hu => ?_
    cases ha.actor.symm.trans hi
    cases hid.symm.trans hu
    exact ha.overwrites
  | led hid _ _ | ended hid | stored hid _ | linked hid | removed hid _ | relinked hid
  | purged hid _ _ | restored hid =>
    refine hall.of_transition ht' fun i u hi hu => ?_
    cases hi
    cases hid.symm.trans hu
    rfl

/-- **One move** in which no flight links a tag that is overlooked keeps all tags secured. -/
theorem Kept.of_transition (h : Kept s st) (ht : Transition s st m s' st')
    (hm : s.linksOverlooked m = false) : Kept s' st' where
  allSecured := h.allSecured_of_transition ht
  records := h.records_of_transition ht
  overlooked := h.overlooked_of_transition ht hm

/-! ## Whole runs -/

/-- **Settled.** Everything is over, and every tag of every entry held is linked. -/
structure Settled (s : Scheduler ρ) (st : σ) : Prop where
  /-- all tasks are over -/
  ended : ∀ u ∈ s.tasks, u.isOver = true
  /-- no flight is on record -/
  grounded : ∀ k, s.flights.records.get? k = none
  /-- the store is in a state that it can be in -/
  valid : Valid st
  /-- both maps of the index show the same links -/
  coherent : s.index.Coherent
  /-- the tags of what is held are linked -/
  linked : ∀ k e, held st k = some e → ∀ t ∈ e.tags, s.index.Linked t k

/-- A task of a settled scheduler is over. -/
theorem Settled.isOver (h : Settled s st) {i : TaskId} {u : Task ρ} (hu : s.tasks[i]? = some u) :
    u.isOver = true :=
  h.ended u (List.mem_of_getElem? hu)

/-- What always holds holds of a settled scheduler. -/
theorem Settled.standing (h : Settled s st) : Standing s st where
  oneFlight := by
    intro k f
    rw [h.grounded k]
    constructor
    · intro hf
      cases hf
    · intro hf
      obtain ⟨o, x, p, ht, hover⟩ := flying_iff.mp hf
      rw [h.isOver ht] at hover
      cases hover
  awaited := by
    intro c k x found f hc
    cases h.isOver hc
  rendered := by
    intro f k o x p e hf hp
    cases hp <;> cases h.isOver hf
  valid := h.valid

/-- A settled scheduler keeps its links. -/
theorem Settled.kept (h : Settled s st) : Kept s st where
  allSecured := by
    refine ⟨h.standing, h.coherent, ?_, fun k e t he ht => .inl (h.linked k e he t ht)⟩
    intro f k o x e e' hf
    cases h.isOver hf
  records := by
    intro i due built hu
    cases h.isOver hu
  overlooked := by
    intro k e t i u _ _ hu ho
    have hover := Task.isOver_of_gathers (Task.gathers_of_overlooks ho)
    rw [h.isOver hu] at hover
    cases hover

namespace MoveRun

/-- **Links are kept.** In every run from a settled state in which no flight links a tag that a
compaction or a rebuild overlooks, whenever no flight, removal or purge is under way, store and
index are in agreement. -/
theorem links_kept (r : MoveRun ρ σ) (h₀ : Settled (r.state 0).1 (r.state 0).2)
    (hm : ∀ i < r.length, (r.state i).1.linksOverlooked (r.event i) = false) {n : Nat}
    (hn : n ≤ r.length) (hq : Quiet (r.state n).1) :
    InAgreement (r.state n).1 (r.state n).2 := by
  have hkept : Kept (r.state n).1 (r.state n).2 := by
    refine r.stays (P := fun y => Kept y.1 y.2) h₀.kept ?_ n (Nat.zero_le n) hn
    intro i _ hi h
    exact h.of_transition (.of_moved (r.step i hi)) (hm i hi)
  exact hkept.allSecured.inAgreement hq

/-- Whenever everything is over, store and index are in agreement. -/
def KeepsLinks (r : MoveRun ρ σ) : Prop :=
  ∀ n ≤ r.length, (∀ u ∈ (r.state n).1.tasks, u.isOver = true) →
    InAgreement (r.state n).1 (r.state n).2

/-- A scheduler that has done nothing yet, with the link of a page that has left the store. -/
def linkedOnce : Scheduler Nat :=
  { new ⟨none⟩ (.ofSecs 5) with index := (∅ : TagIndex).link "news" ⟨"home"⟩ }

theorem settled_linkedOnce : Settled linkedOnce MemoryStore.unbounded where
  ended := by
    intro u hu
    cases hu
  grounded _ := rfl
  valid := MemoryStore.distinct_unbounded
  coherent := TagIndex.coherent_empty.link "news" ⟨"home"⟩
  linked := by
    intro k e he
    cases he

/-- The lookup that is task `c` misses the page and its flight brings it in, up to the write. -/
def bringsIn (c : TaskId) : List (Move Nat) :=
  [.lookup ⟨"home"⟩ 1, .storeCall c (.get ⟨"home"⟩) none, .proceed c .epoch,
    .storeCall (c + 1) (.get ⟨"home"⟩) none, .proceed (c + 1) .epoch,
    .render (c + 1) (.output newsPage) .epoch,
    .storeCall (c + 1) (.put (entryOf ⟨"home"⟩ none newsPage .epoch) none) none]

/-- The flight links the tags of the page and ends, and the lookup is answered. -/
def linksPage (c : TaskId) : List (Move Nat) :=
  [.proceed (c + 1) .epoch, .proceed (c + 1) .epoch, .proceed c .epoch]

/-- A page comes in while a compaction and a rebuild are under way. The compaction drops the links
of the page after it has been stored, but before they are made anew; the rebuild reads the page. -/
def maintained : List (Move Nat) :=
  [.compact, .rebuild, .storeCall 0 (.get ⟨"home"⟩) none] ++ bringsIn 2 ++
    [.proceed 0 .epoch, .storeCall 1 .list none, .storeCall 1 (.get ⟨"home"⟩) none] ++
    linksPage 2 ++ [.proceed 1 .epoch, .proceed 0 .epoch]

/-- The run of these moves over an empty store. -/
def maintainedRun : MoveRun Nat MemoryStore :=
  .ofList (linkedOnce, .unbounded) maintained (by decide +kernel)

theorem links_kept_in_maintained_run :
    Quiet (maintainedRun.state 18).1 ∧
      held (maintainedRun.state 18).2 ⟨"home"⟩ =
        some (entryOf ⟨"home"⟩ none newsPage .epoch) ∧
      InAgreement (maintainedRun.state 18).1 (maintainedRun.state 18).2 := by
  have hm : ∀ i < maintainedRun.length,
      (maintainedRun.state i).1.linksOverlooked (maintainedRun.event i) = false := by
    decide +kernel
  have hq : Quiet (maintainedRun.state 18).1 := by
    unfold Quiet
    decide +kernel
  exact ⟨hq, by decide +kernel, links_kept maintainedRun settled_linkedOnce hm (Nat.le_refl 18) hq⟩

/-- The page comes in after a compaction has missed it and before its links are dropped. -/
def compactedRun : MoveRun Nat MemoryStore :=
  .ofList (linkedOnce, .unbounded) ([.compact, .storeCall 0 (.get ⟨"home"⟩) none] ++ bringsIn 1 ++
    linksPage 1 ++ [.proceed 0 .epoch, .proceed 0 .epoch]) rfl

/-- The page comes in after a rebuild has listed the keys. -/
def rebuiltRun : MoveRun Nat MemoryStore :=
  .ofList (linkedOnce, .unbounded) ([.rebuild, .storeCall 0 .list none] ++ bringsIn 1 ++
    linksPage 1 ++ [.proceed 0 .epoch]) (by decide +kernel)

/-- A run that starts settled and in which no store call fails, and at whose end all is over, but a
tag of the page that is held is not linked. -/
theorem not_keepsLinks {r : MoveRun Nat MemoryStore} {e : Entry}
    (hover : ∀ u ∈ (r.state r.length).1.tasks, u.isOver = true)
    (he : held (r.state r.length).2 ⟨"home"⟩ = some e) (ht : "news" ∈ e.tags)
    (hl : ¬ ⟨"home"⟩ ∈ (r.state r.length).1.index.keysForTag "news") : ¬ KeepsLinks r := by
  intro h
  exact hl ((h r.length (Nat.le_refl _) hover).linked _ e he "news" ht).1

/-- **Links are lost** to a compaction alone and to a rebuild alone, from a settled state and though
no store call fails: everything is over, the page is held, and its tag is not linked. -/
theorem links_lost :
    (Settled (compactedRun.state 0).1 (compactedRun.state 0).2 ∧
      (∀ i < compactedRun.length, (compactedRun.event i).fails = false) ∧
      ¬ KeepsLinks compactedRun) ∧
    Settled (rebuiltRun.state 0).1 (rebuiltRun.state 0).2 ∧
      (∀ i < rebuiltRun.length, (rebuiltRun.event i).fails = false) ∧ ¬ KeepsLinks rebuiltRun := by
  have hpage : "news" ∈ (entryOf ⟨"home"⟩ none newsPage .epoch).tags := by decide +kernel
  refine ⟨⟨settled_linkedOnce, by decide +kernel, ?_⟩, settled_linkedOnce, by decide +kernel, ?_⟩
  · exact not_keepsLinks (by decide +kernel) (by decide +kernel) hpage (by decide +kernel)
  · exact not_keepsLinks (by decide +kernel) (by decide +kernel) hpage (by decide +kernel)

end MoveRun

end Scheduler

end PageCache
