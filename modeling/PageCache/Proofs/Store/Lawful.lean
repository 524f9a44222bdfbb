import Mathlib.Tactic.Common
import PageCache.Store

/-!
# What a store promises

A store is known by its `Contents`, the entry held under each key. A `LawfulStore` says what each
operation does to them, and that is all the rest of the cache may rely on:

* **reading** answers what is held and changes nothing;
* **writing** answers by `checkGeneration`; an accepted write puts the new entry under its key and may
  push entries of other keys out, any other changes nothing;
* **removing** takes away one key and says whether it was there.

A store may keep an entry in a form of its own, which has the same key, body, tags and generation. It
may also be unable to keep some generations, such as those that have no room in a record; a write of
one that should be accepted fails then.
-/

namespace PageCache

/-- The entry held under each key. -/
abbrev Contents := Key → Option Entry

namespace Contents

/-- The generation held under a key. -/
def generation (c : Contents) (k : Key) : Option Generation := (c k).map (·.generation)

/-- The contents `c'` hold `e` in place of what `c` held under its key, and nothing else that is
new. -/
def Takes (c : Contents) (e : Entry) (c' : Contents) : Prop :=
  c' e.key = some e ∧ ∀ k, k ≠ e.key → c' k = c k ∨ c' k = none

/-- The contents without a key. -/
def without (c : Contents) (k : Key) : Contents := fun j => if j = k then none else c j

@[simp] theorem without_self (c : Contents) (k : Key) : c.without k k = none := if_pos rfl

theorem without_of_ne (c : Contents) {k j : Key} (h : j ≠ k) : c.without k j = c j := if_neg h

/-- What is held without a key was held with it. -/
theorem eq_of_without {c : Contents} {k j : Key} {e : Entry} (h : c.without k j = some e) :
    j ≠ k ∧ c j = some e := by
  by_cases hj : j = k
  · subst hj
    rw [without_self] at h
    cases h
  · rw [without_of_ne c hj] at h
    exact ⟨hj, h⟩

/-- What is held after an entry came in is that entry or was held before. -/
theorem Takes.eq_or {c c' : Contents} {e : Entry} (h : c.Takes e c') {k : Key} {x : Entry}
    (hx : c' k = some x) : (k = e.key ∧ x = e) ∨ (k ≠ e.key ∧ c k = some x) := by
  by_cases hk : k = e.key
  · subst hk
    rw [h.1] at hx
    exact .inl ⟨rfl, (Option.some.inj hx).symm⟩
  · rcases h.2 k hk with hc | hc
    · exact .inr ⟨hk, hc ▸ hx⟩
    · rw [hc] at hx
      cases hx

end Contents

/-- A store that keeps its promises. -/
class LawfulStore (σ : Type) [Store σ] where
  /-- the states that the store can be in -/
  Valid : σ → Prop
  /-- what it holds -/
  held : σ → Contents
  /-- the form in which it keeps an entry -/
  kept : Entry → Entry
  /-- the generations that it can keep -/
  Fits : Generation → Prop
  /-- the form kept has the same key -/
  key_kept : ∀ e, (kept e).key = e.key
  /-- the form kept has the same body -/
  body_kept : ∀ e, (kept e).body = e.body
  /-- the form kept has the same tags -/
  tags_kept : ∀ e, (kept e).tags = e.tags
  /-- the form kept has the same generation -/
  generation_kept : ∀ e, (kept e).generation = e.generation
  /-- an entry is held under its own key -/
  key_of_held : ∀ {s : σ} {k : Key} {e : Entry}, Valid s → held s k = some e → e.key = k
  /-- a reading answers what is held -/
  get_answer : ∀ {s : σ} (k : Key), Valid s → (Store.get s k).1 = .ok (held s k)
  /-- a reading changes nothing -/
  held_get : ∀ {s : σ} (k : Key), Valid s → held (Store.get s k).2 = held s
  /-- a reading keeps the store in a state that it can be in -/
  valid_get : ∀ {s : σ} (k : Key), Valid s → Valid (Store.get s k).2
  /-- a write of a generation that fits answers by the rule of generations -/
  put_answer : ∀ {s : σ} (e : Entry) (o : Option Generation), Valid s → Fits e.generation →
    (Store.put s e o).1 = .ok (checkGeneration ((held s).generation e.key) o e.generation)
  /-- one of any other generation is refused by the same rule, or fails -/
  put_answer_unfit : ∀ {s : σ} (e : Entry) (o : Option Generation), Valid s → ¬ Fits e.generation →
    (∃ c, checkGeneration ((held s).generation e.key) o e.generation = .conflict c ∧
      (Store.put s e o).1 = .ok (.conflict c)) ∨
    checkGeneration ((held s).generation e.key) o e.generation = .stored ∧
      ∃ err, (Store.put s e o).1 = .error err
  /-- an accepted write puts the entry in -/
  held_put_stored : ∀ {s : σ} {e : Entry} {o : Option Generation}, Valid s →
    (Store.put s e o).1 = .ok .stored → (held s).Takes (kept e) (held (Store.put s e o).2)
  /-- any other write changes nothing -/
  held_put_of_ne : ∀ {s : σ} {e : Entry} {o : Option Generation}, Valid s →
    (Store.put s e o).1 ≠ .ok .stored → held (Store.put s e o).2 = held s
  /-- a write keeps the store in a state that it can be in -/
  valid_put : ∀ {s : σ} (e : Entry) (o : Option Generation), Valid s → Valid (Store.put s e o).2
  /-- a removal says whether the key was there -/
  delete_answer : ∀ {s : σ} (k : Key), Valid s → (Store.delete s k).1 = .ok (held s k).isSome
  /-- a removal takes away the key and nothing else -/
  held_delete : ∀ {s : σ} (k : Key), Valid s → held (Store.delete s k).2 = (held s).without k
  /-- a removal keeps the store in a state that it can be in -/
  valid_delete : ∀ {s : σ} (k : Key), Valid s → Valid (Store.delete s k).2
  /-- a listing answers each key that is held once -/
  list_answer : ∀ {s : σ} (start : String), Valid s → ∃ ks, (Store.list s start).1 = .ok ks ∧
    ks.Nodup ∧ ∀ k, k ∈ ks ↔ (held s k).isSome ∧ k.startsWith start
  /-- a listing changes nothing -/
  held_list : ∀ {s : σ} (start : String), Valid s → held (Store.list s start).2 = held s
  /-- a listing keeps the store in a state that it can be in -/
  valid_list : ∀ {s : σ} (start : String), Valid s → Valid (Store.list s start).2

/-- **A write** answers by the rule of generations, or its generation does not fit and it fails where
it should be accepted. -/
theorem LawfulStore.put_answer_cases {σ : Type} [Store σ] [LawfulStore σ] {s : σ} (e : Entry)
    (o : Option Generation) (hv : Valid s) :
    (Store.put s e o).1 = .ok (checkGeneration ((held s).generation e.key) o e.generation) ∨
      ¬ Fits σ e.generation ∧
        checkGeneration ((held s).generation e.key) o e.generation = .stored ∧
        ∃ err, (Store.put s e o).1 = .error err := by
  by_cases hfits : Fits σ e.generation
  · exact .inl (put_answer e o hv hfits)
  · rcases put_answer_unfit e o hv hfits with ⟨c, hc, hanswer⟩ | ⟨hc, herror⟩
    · exact .inl (hanswer.trans (congrArg Except.ok hc.symm))
    · exact .inr ⟨hfits, hc, herror⟩

/-- A write of a generation that fits says by its answer what it has done. -/
theorem LawfulStore.put_of_fits {σ : Type} [Store σ] [LawfulStore σ] {s : σ} {e : Entry}
    (o : Option Generation) (hv : Valid s) (hfits : Fits σ e.generation) :
    ∃ a, (Store.put s e o).1 = .ok a ∧
      a = checkGeneration ((held s).generation e.key) o e.generation ∧
      Valid (Store.put s e o).2 ∧
      (a = .stored → (held s).Takes (kept σ e) (held (Store.put s e o).2)) ∧
      (∀ c, a = .conflict c → held (Store.put s e o).2 = held s) := by
  have hanswer := put_answer e o hv hfits
  refine ⟨_, hanswer, rfl, valid_put e o hv, fun ha => ?_, fun c ha => ?_⟩
  · rw [ha] at hanswer
    exact held_put_stored hv hanswer
  · rw [ha] at hanswer
    exact held_put_of_ne hv fun hstored => nomatch hanswer.symm.trans hstored

/-! ## The rule of generations -/

/-- A write is accepted exactly when it saw what is held and goes beyond it. -/
theorem checkGeneration_eq_stored_iff {current observed : Option Generation} {g : Generation} :
    checkGeneration current observed g = .stored ↔ current = observed ∧ observed.getD 0 < g := by
  unfold checkGeneration
  by_cases h : current = observed <;> simp [h]

/-- A refused write is told the generation that is held. -/
theorem eq_of_checkGeneration_conflict {current observed c : Option Generation} {g : Generation}
    (h : checkGeneration current observed g = .conflict c) : c = current := by
  unfold checkGeneration at h
  split at h
  · cases h
    rfl
  · cases h

end PageCache
