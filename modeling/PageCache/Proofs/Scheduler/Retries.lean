import Mathlib.Logic.Relation
import PageCache.Proofs.Scheduler.Progress
import PageCache.Proofs.Store.Removal
import PageCache.Proofs.TagIndex.Consistent
import PageCache.Store.Memory

/-!
# Invalidations that fail can be tried again

An invalidation unlinks first and deletes then, so one that fails has to put links back. Here one
runs alone from its beginning to its end, in any order and with any of its deletions failing:

* `PurgeMove` — what a purge does by its own moves, and `PurgeAt` — what index and store are in each
  phase, by the keys it has deleted so far; `PurgeAt.step` keeps it, `RunsAlone.purgeAt` to the end;
* `Cleared` — what a purge has done in the end: these keys are deleted and no longer linked to the
  tag. It adds up over purges that follow each other, which is why nothing is lost by trying again;
* `invalidations_retried` — the results, for purges and for removals.
-/

namespace PageCache

open RemovingStore

/-- The key that a move deletes, unless the store fails. -/
def Move.deleted? {ρ : Type} : Move ρ → Option Key
  | .storeCall _ (.delete k) none => some k
  | _ => none

namespace Scheduler

variable {ρ σ : Type} [Store σ] {s s' : Scheduler ρ} {st st' : σ} {id : TaskId}

/-! ## A task alone -/

/-- A move begins a task, and moves of this task alone lead it to its end `t`. -/
structure RunsAlone (y : Scheduler ρ × σ) (m : Move ρ) (ms : List (Move ρ)) (t : Task ρ)
    (y' : Scheduler ρ × σ) : Prop where
  /-- the moves are made one after the other -/
  moves : (m :: ms).foldlM moved y = some y'
  /-- they are moves of the task that has begun -/
  own : ∀ m' ∈ ms, m'.actor? = some y.1.tasks.length
  /-- this is how it ends -/
  task : y'.1.tasks[y.1.tasks.length]? = some t

/-- What holds after the first move and survives every move of the task holds at its end. It may
depend on the moves made so far. -/
theorem RunsAlone.invariant {y y' : Scheduler ρ × σ} {m : Move ρ} {ms : List (Move ρ)} {t : Task ρ}
    {P : List (Move ρ) → Scheduler ρ × σ → Prop} (h : RunsAlone y m ms t y')
    (hbegin : ∀ y₁, moved y m = some y₁ → P [] y₁)
    (hstep : ∀ before m z z', P before z → m.actor? = some y.1.tasks.length →
      moved z m = some z' → P (before ++ [m]) z') : P ms y' := by
  have hrun : ∀ (ms before : List (Move ρ)) (z : Scheduler ρ × σ), P before z →
      (∀ m ∈ ms, m.actor? = some y.1.tasks.length) → ms.foldlM moved z = some y' →
      P (before ++ ms) y' := by
    intro ms
    induction ms with
    | nil =>
      intro before z hP _ hz
      rw [List.append_nil]
      exact Option.some.inj hz ▸ hP
    | cons m ms ih =>
      intro before z hP hown hz
      rw [List.foldlM_cons] at hz
      obtain ⟨z₁, hz₁, hz⟩ := Option.bind_eq_some_iff.mp hz
      obtain ⟨hm, hms⟩ := List.forall_mem_cons.mp hown
      rw [List.append_cons before m ms]
      exact ih (before ++ [m]) z₁ (hstep before m z z₁ hP hm hz₁) hms hz
  have hmoves := h.moves
  rw [List.foldlM_cons] at hmoves
  obtain ⟨y₁, hy₁, hrest⟩ := Option.bind_eq_some_iff.mp hmoves
  exact hrun ms [] y₁ (hbegin y₁ hy₁) h.own hrest

/-! ## Purges -/

/-- What a purge does by a move of its own, with the index and the store before and after it. -/
inductive PurgeMove (id : TaskId) (x : TagIndex) (st : σ) :
    Move ρ → Purge → Purge → TagIndex → σ → Prop where
  /-- it has asked for the deletion of a key that is due -/
  | visits {t due n k fault answer st'} : k ∈ due →
      ask fault st (Store.delete · k) = (answer, st') →
      PurgeMove id x st (.storeCall id (.delete k) fault) (.deleting t due n)
        (.answered t (due.erase k) n k answer) x st'
  /-- it goes on after a deletion -/
  | goesOn {t due n k removed now} :
      PurgeMove id x st (.proceed id now) (.answered t due n k (.ok removed))
        (.deleting t due (if removed then n + 1 else n)) x st
  /-- it ends when nothing is due -/
  | ends {t due n now} : due.isEmpty = true →
      PurgeMove id x st (.proceed id now) (.deleting t due n) (.finished (.ok n)) x st
  /-- it fails, and links what it has not deleted again -/
  | fails {t due n k err now} :
      PurgeMove id x st (.proceed id now) (.answered t due n k (.error err))
        (.finished (.error err)) (x.linkKeys t (due.insert k).toList) st

/-- A purge that makes a move makes one of these. -/
theorem Transition.purgeMove {m : Move ρ} {p : Purge} (h : Transition s st m s' st')
    (hm : m.actor? = some id) (hid : s.tasks[id]? = some (.purge p)) :
    ∃ p', s'.tasks[id]? = some (.purge p') ∧ PurgeMove id s.index st m p p' s'.index st' := by
  cases h with
  | opened ho => cases ho <;> cases hm
  | forgotten _ | detached _ => cases hm
  | @advanced _ i _ t' metrics _ hi ha =>
    obtain rfl : i = id := Option.some.inj (ha.actor.symm.trans hm)
    cases hi.symm.trans hid
    have hset := getElem?_setTask_self (s := { s with metrics }) hid t'
    cases ha with
    | purgeFailed hk hask => exact ⟨_, hset, .visits hk hask⟩
    | purgeWentOn => exact ⟨_, hset, .goesOn⟩
    | purgeEnded hempty => exact ⟨_, hset, .ends hempty⟩
  | @purged i _ _ _ _ _ _ _ hi hk hask =>
    obtain rfl : i = id := Option.some.inj hm
    cases hi.symm.trans hid
    exact ⟨_, getElem?_setTask_self hid _, .visits hk hask⟩
  | @restored i t due n k err now hi =>
    obtain rfl : i = id := Option.some.inj hm
    cases hi.symm.trans hid
    exact ⟨_, (getElem?_setTask hid i).trans (if_pos rfl), .fails⟩
  | led hi _ _ | ended hi | stored hi _ | linked hi | removed hi _ | relinked hi | dropped hi
  | rebuilt hi =>
    cases hm
    cases hi.symm.trans hid

/-- The keys linked to a tag are those deleted so far, each once, and those still due. -/
structure Parted (x : TagIndex) (t : Tag) (ds : List Key) (due : SortedSet Key) : Prop where
  /-- no key has been deleted twice -/
  nodup : ds.Nodup
  /-- what has been deleted was linked -/
  linked : ∀ k ∈ ds, x.Linked t k
  /-- the others are due -/
  mem_due : ∀ k, k ∈ due ↔ x.Linked t k ∧ k ∉ ds

/-- At first all of them are due. -/
theorem Parted.all (x : TagIndex) (t : Tag) : Parted x t [] (x.keysForTag t) where
  nodup := List.nodup_nil
  linked _ hk := absurd hk List.not_mem_nil
  mem_due _ := (and_iff_left List.not_mem_nil).symm

/-- A key that is due can be deleted. -/
theorem Parted.deleted {x : TagIndex} {t : Tag} {ds : List Key} {due : SortedSet Key} {k : Key}
    (h : Parted x t ds due) (hk : k ∈ due) : Parted x t (ds ++ [k]) (due.erase k) where
  nodup := List.nodup_append.mpr ⟨h.nodup, List.nodup_singleton k, fun a ha b hb hab =>
    ((h.mem_due k).mp hk).2 (List.mem_singleton.mp hb ▸ hab ▸ ha)⟩
  linked j hj := by
    rcases List.mem_append.mp hj with hj | hj
    · exact h.linked j hj
    · exact List.mem_singleton.mp hj ▸ ((h.mem_due k).mp hk).1
  mem_due j := by
    rw [SortedSet.mem_erase, h.mem_due j, List.mem_append, List.mem_singleton]
    tauto

variable [RemovingStore σ]

/-- How many of these keys the store holds. -/
def numberHeld (st : σ) (ks : List Key) : Nat := ks.countP fun k => (held st k).isSome

/-- **Where a purge stands** that began with the index `x` and the store `st` and has deleted `ds`:
its phase, the index and the store. -/
inductive PurgeAt (x : TagIndex) (st : σ) (t : Tag) (ds : List Key) : Purge → TagIndex → σ → Prop
    where
  /-- keys may be due -/
  | deleting {due} : Parted x t ds due →
      PurgeAt x st t ds (.deleting t due (numberHeld st ds)) (x.detach t).2 (removeAll st ds)
  /-- the last of the keys has just been deleted -/
  | deleted {cs due k} : ds = cs ++ [k] → Parted x t ds due →
      PurgeAt x st t ds (.answered t due (numberHeld st cs) k (.ok (held st k).isSome))
        (x.detach t).2 (removeAll st ds)
  /-- a deletion has failed -/
  | failing {due n k e} : Parted x t ds due → k ∈ due →
      PurgeAt x st t ds (.answered t (due.erase k) n k (.error e)) (x.detach t).2 (removeAll st ds)
  /-- it has ended well -/
  | ended {due} : Parted x t ds due → due.isEmpty = true →
      PurgeAt x st t ds (.finished (.ok (numberHeld st ds))) (x.detach t).2 (removeAll st ds)
  /-- it has failed -/
  | failed {due k e} : Parted x t ds due → k ∈ due →
      PurgeAt x st t ds (.finished (.error e))
        ((x.detach t).2.linkKeys t ((due.erase k).insert k).toList) (removeAll st ds)

/-- **One move** of a purge. -/
theorem PurgeAt.step {x x₁ x₂ : TagIndex} {st st₁ st₂ : σ} {t : Tag} {ds : List Key} {p p' : Purge}
    {m : Move ρ} (hv : Valid st) (h : PurgeAt x st t ds p x₁ st₁)
    (hm : PurgeMove id x₁ st₁ m p p' x₂ st₂) :
    PurgeAt x st t (ds ++ m.deleted?.toList) p' x₂ st₂ := by
  cases h with
  | @deleting due hparted =>
    cases hm with
    | @visits _ _ _ k fault answer _ hk hask =>
      cases fault with
      | none =>
        obtain ⟨hanswer, rfl⟩ := Prod.mk.inj hask
        obtain rfl : answer = .ok (held st k).isSome :=
          hanswer.symm.trans (removeAll_answer hv ((hparted.mem_due k).mp hk).2)
        have h : PurgeAt x st t _ _ _ _ := .deleted rfl (hparted.deleted hk)
        rw [removeAll_concat] at h
        exact h
      | some e =>
        obtain ⟨rfl, rfl⟩ := Prod.mk.inj hask
        rw [show ds ++ (Move.storeCall id (.delete k) (some e) : Move ρ).deleted?.toList = ds from
          List.append_nil ds]
        exact .failing hparted hk
    | ends hempty => exact (List.append_nil ds).symm ▸ .ended hparted hempty
  | @deleted cs due k hds hparted =>
    cases hm with
    | goesOn =>
      have hnumber : (if (held st k).isSome then numberHeld st cs + 1 else numberHeld st cs) =
          numberHeld st ds := by
        rw [hds, numberHeld, numberHeld, List.countP_append, List.countP_singleton]
        split <;> rfl
      rw [hnumber]
      exact (List.append_nil ds).symm ▸ .deleting hparted
  | failing hparted hk =>
    cases hm with
    | fails => exact (List.append_nil ds).symm ▸ .failed hparted hk
  | ended _ _ => cases hm
  | failed _ _ => cases hm

/-- **A purge alone** stands at its end as its deletions say. -/
theorem RunsAlone.purgeAt {y y' : Scheduler ρ × σ} {t : Tag} {ms : List (Move ρ)} {p : Purge}
    (hv : Valid y.2) (h : RunsAlone y (.invalidateTag t) ms (.purge p) y') :
    PurgeAt y.1.index y.2 t (ms.filterMap Move.deleted?) p y'.1.index y'.2 := by
  have hinv : ∃ p, y'.1.tasks[y.1.tasks.length]? = some (.purge p) ∧
      PurgeAt y.1.index y.2 t (ms.filterMap Move.deleted?) p y'.1.index y'.2 := by
    refine h.invariant (P := fun ms z => ∃ p, z.1.tasks[y.1.tasks.length]? = some (.purge p) ∧
      PurgeAt y.1.index y.2 t (ms.filterMap Move.deleted?) p z.1.index z.2) ?_ ?_
    · intro y₁ hy₁
      obtain rfl := Option.some.inj hy₁
      exact ⟨_, (getElem?_spawn _ _ _).trans (if_pos rfl), .deleting (.all y.1.index t)⟩
    · rintro before m z z' ⟨p, hid, hat⟩ hm hz
      obtain ⟨p', hid', hmove⟩ := (Transition.of_moved hz).purgeMove hm hid
      have hdeleted : (before ++ [m]).filterMap Move.deleted? =
          before.filterMap Move.deleted? ++ m.deleted?.toList := by
        rw [List.filterMap_append]
        cases hk : m.deleted? <;> simp [hk]
      refine ⟨p', hid', ?_⟩
      rw [hdeleted]
      exact hat.step hv hmove
  obtain ⟨p', hid', hat⟩ := hinv
  cases hid'.symm.trans h.task
  exact hat

/-! ## What purges clear away -/

/-- Between two states these keys have been deleted and their links to the tag dropped, and nothing
else has changed in the store or in the index. -/
structure Cleared (t : Tag) (ks : List Key) (y y' : Scheduler ρ × σ) : Prop where
  /-- no key has been deleted twice -/
  nodup : ks.Nodup
  /-- what has been deleted was linked -/
  linked : ∀ k ∈ ks, y.1.index.Linked t k
  /-- the store after these deletions -/
  store : y'.2 = removeAll y.2 ks
  /-- the index is consistent again -/
  consistent : y'.1.index.Consistent
  /-- it has the links that it had, but for those of the tag to these keys -/
  links : ∀ u k, y'.1.index.Linked u k ↔ y.1.index.Linked u k ∧ ¬ (u = t ∧ k ∈ ks)

namespace Cleared

variable {t : Tag} {ks ls : List Key} {y y' y'' : Scheduler ρ × σ}

omit [RemovingStore σ] in
theorem refl (hx : y.1.index.Consistent) : Cleared t [] y y where
  nodup := List.nodup_nil
  linked _ hk := absurd hk List.not_mem_nil
  store := rfl
  consistent := hx
  links _ _ := (and_iff_left fun h => List.not_mem_nil h.2).symm

omit [RemovingStore σ] in
/-- **What is cleared adds up.** -/
theorem trans (h : Cleared t ks y y') (h' : Cleared t ls y' y'') : Cleared t (ks ++ ls) y y'' where
  nodup := by
    refine List.nodup_append.mpr ⟨h.nodup, h'.nodup, ?_⟩
    rintro k hk _ hl rfl
    exact ((h.links t k).mp (h'.linked k hl)).2 ⟨rfl, hk⟩
  linked k hk := by
    rcases List.mem_append.mp hk with hk | hk
    · exact h.linked k hk
    · exact ((h.links t k).mp (h'.linked k hk)).1
  store := by rw [removeAll_append, ← h.store, h'.store]
  consistent := h'.consistent
  links u k := by
    rw [h'.links u k, h.links u k, List.mem_append]
    tauto

omit [RemovingStore σ] in
/-- Who clears away all keys of a tag leaves the same as anyone else who does. -/
theorem unique (h : Cleared t ks y y') (h' : Cleared t ls y y'')
    (hks : ∀ k, y.1.index.Linked t k → k ∈ ks) (hls : ∀ k, y.1.index.Linked t k → k ∈ ls) :
    ks.Perm ls ∧ y'.1.index = y''.1.index := by
  have hmem : ∀ k, k ∈ ks ↔ k ∈ ls :=
    fun k => ⟨fun hk => hls k (h.linked k hk), fun hk => hks k (h'.linked k hk)⟩
  refine ⟨(List.perm_ext_iff_of_nodup h.nodup h'.nodup).mpr hmem, ?_⟩
  refine h.consistent.ext h'.consistent fun u k => ?_
  rw [h.links u k, h'.links u k, hmem k]

/-- A purge that fails has cleared away what it has deleted. -/
theorem of_failed {ms : List (Move ρ)} {e : StoreError} (hv : Valid y.2)
    (hx : y.1.index.Consistent)
    (h : RunsAlone y (.invalidateTag t) ms (.purge (.finished (.error e))) y') :
    Cleared t (ms.filterMap Move.deleted?) y y' := by
  have hat := h.purgeAt hv
  generalize ms.filterMap Move.deleted? = ds at hat
  generalize hx' : y'.1.index = x' at hat
  generalize hst' : y'.2 = st' at hat
  cases hat with
  | @failed due k _ hparted hk =>
    refine ⟨hparted.nodup, hparted.linked, hst', hx' ▸ (hx.detach t).linkKeys t _, fun u j => ?_⟩
    rw [hx', TagIndex.linked_linkKeys, TagIndex.linked_detach, SortedSet.mem_toList,
      SortedSet.mem_insert, SortedSet.mem_erase]
    have hkt := (hparted.mem_due k).mp hk
    have hjt := hparted.mem_due j
    by_cases hu : u = t
    · subst hu
      by_cases hj : j = k
      · subst hj
        tauto
      · tauto
    · tauto

/-- A purge that ends well has cleared away all keys of its tag, and gives the number of those that
the store held. -/
theorem of_ended {ms : List (Move ρ)} {n : Nat} (hv : Valid y.2) (hx : y.1.index.Consistent)
    (h : RunsAlone y (.invalidateTag t) ms (.purge (.finished (.ok n))) y') :
    Cleared t (ms.filterMap Move.deleted?) y y' ∧
      (∀ k, y.1.index.Linked t k → k ∈ ms.filterMap Move.deleted?) ∧
      n = numberHeld y.2 (ms.filterMap Move.deleted?) := by
  have hat := h.purgeAt hv
  generalize ms.filterMap Move.deleted? = ds at hat ⊢
  generalize hx' : y'.1.index = x' at hat
  generalize hst' : y'.2 = st' at hat
  cases hat with
  | @ended due hparted hempty =>
    have hall : ∀ k, y.1.index.Linked t k → k ∈ ds := by
      intro k hk
      by_contra hn
      exact SortedSet.not_mem_of_isEmpty hempty k ((hparted.mem_due k).mpr ⟨hk, hn⟩)
    refine ⟨⟨hparted.nodup, hparted.linked, hst', hx' ▸ hx.detach t, fun u j => ?_⟩, hall, rfl⟩
    rw [hx', TagIndex.linked_detach]
    have hjt := hall j
    by_cases hu : u = t
    · subst hu
      tauto
    · tauto

end Cleared

/-! ## Removals -/

/-- Where a removal stands that began with the index `x` and the store `st₀`, unless its deletion has
been answered well. -/
def RemovalAt (x : TagIndex) (st₀ : σ) (k : Key) : Removal → TagIndex → σ → Prop
  | .deleting u, x', st => u = x.tagsForKey k ∧ x' = (x.forget k).2 ∧ st = st₀
  | .answered u (.error _), x', st => u = x.tagsForKey k ∧ x' = (x.forget k).2 ∧ st = st₀
  | .finished (.error _), x', st =>
    x' = (x.forget k).2.linkTags (x.tagsForKey k).toList k ∧ st = st₀
  | _, _, _ => True

/-- **One move** of a removal. -/
theorem RemovalAt.step {x : TagIndex} {st₀ : σ} {k : Key} {p : Removal} {m : Move ρ}
    (hv : Valid st₀) (hat : RemovalAt x st₀ k p s.index st) (h : Transition s st m s' st')
    (hm : m.actor? = some id) (hid : s.tasks[id]? = some (.removal k p)) :
    ∃ p', s'.tasks[id]? = some (.removal k p') ∧ RemovalAt x st₀ k p' s'.index st' := by
  cases h with
  | opened ho => cases ho <;> cases hm
  | forgotten _ | detached _ => cases hm
  | @advanced _ i _ t' metrics _ hi ha =>
    obtain rfl : i = id := Option.some.inj (ha.actor.symm.trans hm)
    cases hi.symm.trans hid
    have hset := getElem?_setTask_self (s := { s with metrics }) hid t'
    cases ha with
    | @removalFailed _ _ fault err _ hask =>
      obtain ⟨hu, hx, rfl⟩ := hat
      cases fault with
      | none =>
        -- the store does not fail by itself
        obtain ⟨hanswer, -⟩ := Prod.mk.inj hask
        cases (delete_answer k hv).symm.trans hanswer
      | some e =>
        obtain ⟨-, rfl⟩ := Prod.mk.inj hask
        exact ⟨_, hset, hu, hx, rfl⟩
    | removalEnded => exact ⟨_, hset, trivial⟩
  | @removed i _ _ _ removed _ hi _ =>
    obtain rfl : i = id := Option.some.inj hm
    cases hi.symm.trans hid
    exact ⟨_, getElem?_setTask_self hid _, trivial⟩
  | @relinked i _ u err now hi =>
    obtain rfl : i = id := Option.some.inj hm
    cases hi.symm.trans hid
    obtain ⟨rfl, hx, rfl⟩ := hat
    have hset := getElem?_setTask_self
      (s := { s with index := s.index.linkTags (x.tagsForKey k).toList k }) hid
      (.removal k (.finished (.error err)))
    exact ⟨_, hset, congrArg (TagIndex.linkTags · _ k) hx, rfl⟩
  | led hi _ _ | ended hi | stored hi _ | linked hi | purged hi _ _ | restored hi | dropped hi
  | rebuilt hi =>
    cases hm
    cases hi.symm.trans hid

/-- **A removal alone** that fails leaves index and store as they were. -/
theorem RunsAlone.removal_failed {y y' : Scheduler ρ × σ} {k : Key} {ms : List (Move ρ)}
    {e : StoreError} (hv : Valid y.2) (hx : y.1.index.Consistent)
    (h : RunsAlone y (.invalidateKey k) ms (.removal k (.finished (.error e))) y') :
    y'.1.index = y.1.index ∧ y'.2 = y.2 := by
  have hinv : ∃ p, y'.1.tasks[y.1.tasks.length]? = some (.removal k p) ∧
      RemovalAt y.1.index y.2 k p y'.1.index y'.2 := by
    refine h.invariant (P := fun _ z => ∃ p, z.1.tasks[y.1.tasks.length]? = some (.removal k p) ∧
      RemovalAt y.1.index y.2 k p z.1.index z.2) ?_ ?_
    · intro y₁ hy₁
      obtain rfl := Option.some.inj hy₁
      exact ⟨_, (getElem?_spawn _ _ _).trans (if_pos rfl), rfl, rfl, rfl⟩
    · rintro _ m z z' ⟨p, hid, hat⟩ hm hz
      exact hat.step hv (Transition.of_moved hz) hm hid
  obtain ⟨p, hid, hat⟩ := hinv
  cases hid.symm.trans h.task
  exact ⟨hat.1.trans (hx.linkTags_forget k), hat.2⟩

/-! ## The main result -/

/-- A purge of the tag runs alone and fails. -/
def PurgeFails (t : Tag) (y y' : Scheduler ρ × σ) : Prop :=
  ∃ ms e, RunsAlone y (.invalidateTag t) ms (.purge (.finished (.error e))) y'

/-- Purges that fail one after the other clear away some keys of the tag. -/
theorem cleared_of_failures {t : Tag} {y y' : Scheduler ρ × σ} (hv : Valid y.2)
    (hx : y.1.index.Consistent) (h : Relation.ReflTransGen (PurgeFails t) y y') :
    ∃ ks, Cleared t ks y y' := by
  induction h with
  | refl => exact ⟨[], .refl hx⟩
  | @tail z z' _ hfails ih =>
    obtain ⟨ks, hks⟩ := ih
    obtain ⟨ms, e, hrun⟩ := hfails
    have hv' : Valid z.2 := hks.store ▸ (held_removeAll hv ks).1
    exact ⟨_, hks.trans (.of_failed hv' hks.consistent hrun)⟩

/-- **Invalidations that fail can be tried again.** What purges and removals do that run alone, from
a state with a consistent index. -/
structure Retriable (y : Scheduler ρ × σ) : Prop where
  /-- a purge that fails has deleted the keys that it came to, all of them linked to the tag, and
  dropped their links to the tag, and nothing else has changed -/
  failed : ∀ t ms e y', RunsAlone y (.invalidateTag t) ms (.purge (.finished (.error e))) y' →
    Cleared t (ms.filterMap Move.deleted?) y y' ∧
      held y'.2 = (held y.2).withoutAll (ms.filterMap Move.deleted?)
  /-- a purge that ends well has deleted all keys that were linked to the tag and gives the number
  of those that the store held -/
  ended : ∀ t ms n y', RunsAlone y (.invalidateTag t) ms (.purge (.finished (.ok n))) y' →
    Cleared t (ms.filterMap Move.deleted?) y y' ∧
      held y'.2 = (held y.2).withoutAll (ms.filterMap Move.deleted?) ∧
      (∀ k, k ∈ ms.filterMap Move.deleted? ↔ y.1.index.Linked t k) ∧
      n = numberHeld y.2 (ms.filterMap Move.deleted?)
  /-- a purge that ends well after any number of failed ones leaves the index and the contents that
  one leaves which ends well at once, and the same store if the order of deletions does not matter
  to it -/
  retried : ∀ t y₁ ms n y₂ ms' n' y', Relation.ReflTransGen (PurgeFails t) y y₁ →
    RunsAlone y₁ (.invalidateTag t) ms (.purge (.finished (.ok n))) y₂ →
    RunsAlone y (.invalidateTag t) ms' (.purge (.finished (.ok n'))) y' →
    y₂.1.index = y'.1.index ∧ held y₂.2 = held y'.2 ∧
      ((∀ (st : σ) (j k : Key), (Store.delete (Store.delete st j).2 k).2 =
        (Store.delete (Store.delete st k).2 j).2) → y₂.2 = y'.2)
  /-- a removal that fails has changed nothing -/
  kept : ∀ k ms e y', RunsAlone y (.invalidateKey k) ms (.removal k (.finished (.error e))) y' →
    y'.1.index = y.1.index ∧ y'.2 = y.2

/-- **Nothing is lost by trying again**, whatever is stored and linked, in whatever order keys are
visited, and wherever deletions fail. -/
theorem invalidations_retried (y : Scheduler ρ × σ) (hv : Valid y.2) (hx : y.1.index.Consistent) :
    Retriable y where
  failed t ms e y' h := by
    have hcleared := Cleared.of_failed hv hx h
    exact ⟨hcleared, hcleared.store ▸ (held_removeAll hv _).2⟩
  ended t ms n y' h := by
    obtain ⟨hcleared, hall, hn⟩ := Cleared.of_ended hv hx h
    exact ⟨hcleared, hcleared.store ▸ (held_removeAll hv _).2,
      fun k => ⟨hcleared.linked k, hall k⟩, hn⟩
  retried t y₁ ms n y₂ ms' n' y' hfails h h' := by
    obtain ⟨ks, hks⟩ := cleared_of_failures hv hx hfails
    have hv₁ : Valid y₁.2 := hks.store ▸ (held_removeAll hv ks).1
    obtain ⟨hrest, hall, -⟩ := Cleared.of_ended hv₁ hks.consistent h
    obtain ⟨honce, hall', -⟩ := Cleared.of_ended hv hx h'
    have hboth := hks.trans hrest
    -- a key that the failed purges have not come to is still linked for the last one
    have hcovers : ∀ k, y.1.index.Linked t k → k ∈ ks ++ ms.filterMap Move.deleted? := by
      intro k hk
      rw [List.mem_append]
      by_cases hmem : k ∈ ks
      · exact .inl hmem
      · exact .inr (hall k ((hks.links t k).mpr ⟨hk, fun h => hmem h.2⟩))
    obtain ⟨hperm, hindex⟩ := hboth.unique honce hcovers hall'
    refine ⟨hindex, ?_, fun hcomm => ?_⟩
    · rw [hboth.store, honce.store, (held_removeAll hv _).2, (held_removeAll hv _).2]
      funext k
      unfold Contents.withoutAll
      simp only [hperm.mem_iff]
    · rw [hboth.store, honce.store]
      exact removeAll_perm hcomm hperm y.2
  kept k ms e y' h := h.removal_failed hv hx

/-! ## Two pages -/

/-- A page with the tag of the news. -/
def taggedPage : RenderOutput := (RenderOutput.ofBody "page".toUTF8).withTag "news"

/-- Two pages in a store, linked to the news. -/
def linkedPair : Scheduler Nat × MemoryStore :=
  ({ new ⟨none⟩ (.ofSecs 5) with index := (∅ : TagIndex).linkKeys "news" [⟨"home"⟩, ⟨"about"⟩] },
    { MemoryStore.unbounded with
      entries := [entryOf ⟨"home"⟩ none taggedPage .epoch,
        entryOf ⟨"about"⟩ none taggedPage .epoch] })

/-- A purge deletes the first page and cannot delete the second. -/
def halfPurge : List (Move Nat) :=
  [.storeCall 0 (.delete ⟨"home"⟩) none, .proceed 0 .epoch,
    .storeCall 0 (.delete ⟨"about"⟩) (some (.unavailable "down")), .proceed 0 .epoch]

/-- Another purge deletes the second page. -/
def restPurge : List (Move Nat) :=
  [.storeCall 1 (.delete ⟨"about"⟩) none, .proceed 1 .epoch, .proceed 1 .epoch]

/-- A purge deletes both pages, the second one first. -/
def wholePurge : List (Move Nat) :=
  [.storeCall 0 (.delete ⟨"about"⟩) none, .proceed 0 .epoch,
    .storeCall 0 (.delete ⟨"home"⟩) none, .proceed 0 .epoch, .proceed 0 .epoch]

/-- The state after a purge of the news that makes these moves. -/
def afterPurge (y : Scheduler Nat × MemoryStore) (ms : List (Move Nat)) :
    Scheduler Nat × MemoryStore :=
  ((.invalidateTag "news" :: ms).foldlM moved y).getD y

theorem consistent_linkedPair : linkedPair.1.index.Consistent :=
  TagIndex.Consistent.empty.linkKeys "news" _

/-- A purge that fails and one that does the rest leave the store that one purge leaves. -/
theorem invalidations_retried_on_pair :
    Valid linkedPair.2 ∧ linkedPair.1.index.Consistent ∧ Retriable linkedPair ∧
      RunsAlone linkedPair (.invalidateTag "news") halfPurge
        (.purge (.finished (.error (.unavailable "down")))) (afterPurge linkedPair halfPurge) ∧
      RunsAlone (afterPurge linkedPair halfPurge) (.invalidateTag "news") restPurge
        (.purge (.finished (.ok 1))) (afterPurge (afterPurge linkedPair halfPurge) restPurge) ∧
      RunsAlone linkedPair (.invalidateTag "news") wholePurge (.purge (.finished (.ok 2)))
        (afterPurge linkedPair wholePurge) ∧
      (afterPurge (afterPurge linkedPair halfPurge) restPurge).2 =
        (afterPurge linkedPair wholePurge).2 := by
  have hv : Valid linkedPair.2 := by
    show (linkedPair.2.entries.map (·.key)).Nodup
    decide +kernel
  have hretriable := invalidations_retried linkedPair hv consistent_linkedPair
  have hhalf : RunsAlone linkedPair (.invalidateTag "news") halfPurge
      (.purge (.finished (.error (.unavailable "down")))) (afterPurge linkedPair halfPurge) :=
    ⟨rfl, by decide, rfl⟩
  have hrest : RunsAlone (afterPurge linkedPair halfPurge) (.invalidateTag "news") restPurge
      (.purge (.finished (.ok 1))) (afterPurge (afterPurge linkedPair halfPurge) restPurge) :=
    ⟨rfl, by decide, rfl⟩
  have hwhole : RunsAlone linkedPair (.invalidateTag "news") wholePurge
      (.purge (.finished (.ok 2))) (afterPurge linkedPair wholePurge) := ⟨rfl, by decide, rfl⟩
  obtain ⟨-, -, hsame⟩ := hretriable.retried _ _ _ _ _ _ _ _ (.single ⟨_, _, hhalf⟩) hrest hwhole
  exact ⟨hv, consistent_linkedPair, hretriable, hhalf, hrest, hwhole,
    hsame MemoryStore.delete_comm⟩

end Scheduler

end PageCache
