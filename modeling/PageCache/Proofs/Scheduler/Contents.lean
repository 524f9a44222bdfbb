import PageCache.Proofs.Scheduler.Transition
import PageCache.Proofs.Store.Lawful

/-!
# What a move does to the store

A move asks the store at most once, and the store fails without effect or keeps its promises. So the
contents change in two ways only: a flight's entry comes in, or a key is deleted.

* `ask_get`, `ask_put_stored`, … — what is known from an answer;
* `Advance.contents` — a task that advances by itself leaves the contents as they are;
* `Transition.change` — what any move does to them.
-/

namespace PageCache

open LawfulStore

namespace Scheduler

variable {ρ σ : Type} [Store σ] [LawfulStore σ] {s s' : Scheduler ρ} {st st' : σ}

/-! ## Answers -/

/-- A reading changes nothing, and answers what is held unless the store fails. -/
theorem ask_get {fault : Option StoreError} {k : Key} {answer : Except StoreError (Option Entry)}
    (hv : Valid st) (h : ask fault st (Store.get · k) = (answer, st')) :
    Valid st' ∧ held st' = held st ∧
      (fault = none ∧ answer = .ok (held st k) ∨ ∃ e, fault = some e ∧ answer = .error e) := by
  cases fault with
  | none =>
    obtain ⟨rfl, rfl⟩ := Prod.mk.inj h
    exact ⟨valid_get k hv, held_get k hv, .inl ⟨rfl, get_answer k hv⟩⟩
  | some e =>
    obtain ⟨rfl, rfl⟩ := Prod.mk.inj h
    exact ⟨hv, rfl, .inr ⟨e, rfl, rfl⟩⟩

/-- A reading that is answered is answered by what is held. -/
theorem ask_get_ok {fault : Option StoreError} {k : Key} {found : Option Entry} (hv : Valid st)
    (h : ask fault st (Store.get · k) = (.ok found, st')) : found = held st k := by
  obtain ⟨-, -, ⟨-, h⟩ | ⟨e, -, h⟩⟩ := ask_get hv h
  · exact Except.ok.inj h
  · cases h

/-- A write that is accepted saw what is held, goes beyond it, and puts its entry in. -/
theorem ask_put_stored {fault : Option StoreError} {e : Entry} {o : Option Generation}
    (hv : Valid st) (h : ask fault st (Store.put · e o) = (.ok .stored, st')) :
    fault = none ∧ Valid st' ∧ (held st).generation e.key = o ∧ o.getD 0 < e.generation ∧
      (held st).Takes (kept σ e) (held st') := by
  cases fault with
  | none =>
    obtain ⟨hanswer, rfl⟩ := Prod.mk.inj h
    rcases put_answer_cases e o hv with hcheck | ⟨-, -, err, herror⟩
    · obtain ⟨hg, hlt⟩ :=
        checkGeneration_eq_stored_iff.mp (Except.ok.inj (hcheck.symm.trans hanswer))
      exact ⟨rfl, valid_put e o hv, hg, hlt, held_put_stored hv hanswer⟩
    · cases herror.symm.trans hanswer
  | some err => cases h

/-- A write that is refused saw something else than what is held, and changes nothing. -/
theorem ask_put_conflict {fault : Option StoreError} {e : Entry} {o c : Option Generation}
    (hv : Valid st) (h : ask fault st (Store.put · e o) = (.ok (.conflict c), st')) :
    Valid st' ∧ held st' = held st ∧
      checkGeneration ((held st).generation e.key) o e.generation = .conflict c := by
  cases fault with
  | none =>
    obtain ⟨hanswer, rfl⟩ := Prod.mk.inj h
    have hne : (Store.put st e o).1 ≠ .ok .stored := fun hstored =>
      nomatch hanswer.symm.trans hstored
    rcases put_answer_cases e o hv with hcheck | ⟨-, -, err, herror⟩
    · exact ⟨valid_put e o hv, held_put_of_ne hv hne,
        Except.ok.inj (hcheck.symm.trans hanswer)⟩
    · cases herror.symm.trans hanswer
  | some err => cases h

/-- A write fails without effect: if the store does, or if it would be accepted and its generation
does not fit. -/
theorem ask_put_error {fault : Option StoreError} {e : Entry} {o : Option Generation}
    {err : StoreError} (hv : Valid st) (h : ask fault st (Store.put · e o) = (.error err, st')) :
    Valid st' ∧ held st' = held st ∧ (fault = some err ∨ ¬ Fits σ e.generation ∧
      checkGeneration ((held st).generation e.key) o e.generation = .stored) := by
  cases fault with
  | none =>
    obtain ⟨hanswer, rfl⟩ := Prod.mk.inj h
    have hne : (Store.put st e o).1 ≠ .ok .stored := fun hstored =>
      nomatch hanswer.symm.trans hstored
    refine ⟨valid_put e o hv, held_put_of_ne hv hne, .inr ?_⟩
    rcases put_answer_cases e o hv with hcheck | ⟨hunfit, hstored, -⟩
    · cases hcheck.symm.trans hanswer
    · exact ⟨hunfit, hstored⟩
  | some err' =>
    cases h
    exact ⟨hv, rfl, .inl rfl⟩

/-- A deletion that is answered takes the key away. -/
theorem ask_delete_ok {fault : Option StoreError} {k : Key} {removed : Bool} (hv : Valid st)
    (h : ask fault st (Store.delete · k) = (.ok removed, st')) :
    fault = none ∧ Valid st' ∧ held st' = (held st).without k := by
  cases fault with
  | none =>
    obtain ⟨-, rfl⟩ := Prod.mk.inj h
    exact ⟨rfl, valid_delete k hv, held_delete k hv⟩
  | some err => cases h

/-- A deletion fails without effect. -/
theorem ask_delete_error {fault : Option StoreError} {k : Key} {err : StoreError} (hv : Valid st)
    (h : ask fault st (Store.delete · k) = (.error err, st')) : fault = some err ∧ st' = st := by
  cases fault with
  | none =>
    obtain ⟨hanswer, -⟩ := Prod.mk.inj h
    cases (delete_answer k hv).symm.trans hanswer
  | some err' =>
    cases h
    exact ⟨rfl, rfl⟩

/-- A listing changes nothing. -/
theorem ask_list {fault : Option StoreError} {answer : Except StoreError (List Key)} (hv : Valid st)
    (h : ask fault st (Store.list · "") = (answer, st')) : Valid st' ∧ held st' = held st := by
  cases fault with
  | none =>
    obtain ⟨-, rfl⟩ := Prod.mk.inj h
    exact ⟨valid_list "" hv, held_list "" hv⟩
  | some err =>
    obtain ⟨-, rfl⟩ := Prod.mk.inj h
    exact ⟨hv, rfl⟩

/-- A listing that is answered names each key that is held once. -/
theorem ask_list_ok {fault : Option StoreError} {keys : List Key} (hv : Valid st)
    (h : ask fault st (Store.list · "") = (.ok keys, st')) :
    keys.Nodup ∧ ∀ k, k ∈ keys ↔ (held st k).isSome := by
  cases fault with
  | none =>
    obtain ⟨hanswer, -⟩ := Prod.mk.inj h
    obtain ⟨ks, hks, hnodup, hmem⟩ := list_answer (s := st) "" hv
    obtain rfl := Except.ok.inj (hks.symm.trans hanswer)
    refine ⟨hnodup, fun k => ?_⟩
    rw [hmem k]
    exact and_iff_left rfl
  | some e => cases h

/-! ## Moves -/

/-- A task that advances by itself leaves the contents as they are. -/
theorem Advance.contents {id : TaskId} {m : Move ρ} {t t' : Task ρ} {metrics : Metrics}
    (h : Advance s st id m t t' metrics st') (hv : Valid st) :
    Valid st' ∧ held st' = held st := by
  have hget {fault k answer} (h : ask fault st (Store.get · k) = (answer, st')) :
      Valid st' ∧ held st' = held st := by
    obtain ⟨hv', hheld, -⟩ := ask_get hv h
    exact ⟨hv', hheld⟩
  cases h with
  | callRead ha | callUnread ha | flightRead ha | flightUnread ha => exact hget ha
  | surveyed _ ha _ | compacted _ ha _ => exact hget ha
  | rebuilding ha _ => exact hget ha
  | listed ha _ => exact ask_list hv ha
  | putRefused ha =>
    obtain ⟨hv', hheld, -⟩ := ask_put_conflict hv ha
    exact ⟨hv', hheld⟩
  | putFailed ha =>
    obtain ⟨hv', hheld, -⟩ := ask_put_error hv ha
    exact ⟨hv', hheld⟩
  | removalFailed ha =>
    obtain ⟨-, rfl⟩ := ask_delete_error hv ha
    exact ⟨hv, rfl⟩
  | purgeFailed _ ha =>
    obtain ⟨-, rfl⟩ := ask_delete_error hv ha
    exact ⟨hv, rfl⟩
  | _ => exact ⟨hv, rfl⟩

/-- What a move does to the contents of the store. -/
inductive Change (s : Scheduler ρ) (st : σ) : Move ρ → Scheduler ρ → σ → Prop where
  /-- they stay as they are -/
  | nothing {m s' st'} : held st' = held st → Change s st m s' st'
  /-- the entry of a flight comes in -/
  | stored {id k o x e st'} : s.tasks[id]? = some (.flight k o x (.committing e)) →
      (held st).generation e.key = o → o.getD 0 < e.generation →
      (held st).Takes (kept σ e) (held st') →
      Change s st (.storeCall id (.put e o) none)
        (s.setTask id (.flight k o x (.committed e))) st'
  /-- a key is deleted -/
  | deleted {id k s' st'} : held st' = (held st).without k →
      Change s st (.storeCall id (.delete k) none) s' st'

/-- **One move** keeps the store in a state that it can be in, and changes the contents in one of
these ways. -/
theorem Transition.change {m : Move ρ} (h : Transition s st m s' st') (hv : Valid st) :
    Valid st' ∧ Change s st m s' st' := by
  cases h with
  | advanced _ ha =>
    obtain ⟨hv', hheld⟩ := ha.contents hv
    exact ⟨hv', .nothing hheld⟩
  | stored ht ha =>
    obtain ⟨rfl, hv', hg, hlt, htakes⟩ := ask_put_stored hv ha
    exact ⟨hv', .stored ht hg hlt htakes⟩
  | removed _ ha =>
    obtain ⟨rfl, hv', hheld⟩ := ask_delete_ok hv ha
    exact ⟨hv', .deleted hheld⟩
  | purged _ _ ha =>
    obtain ⟨rfl, hv', hheld⟩ := ask_delete_ok hv ha
    exact ⟨hv', .deleted hheld⟩
  | _ => exact ⟨hv, .nothing rfl⟩

end Scheduler

end PageCache
