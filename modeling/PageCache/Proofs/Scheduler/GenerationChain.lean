import PageCache.Proofs.Scheduler.Cluster

/-!
# Generations follow each other

A write is accepted over the generation that its flight was led for, and has the next one. So between
two removals of a key its generations are counted from one on without a gap, however many schedulers
write to the store, and no write is lost: what a write replaces is of the generation that the call
had read which led its flight.

* `Event.effect` — what an event does to the contents of the store;
* `exists_observed` — what a flight observed was held when its call read it;
* `generation_chain` — all of it, for every run of a cluster.
-/

namespace PageCache

/-- The entry that an event writes, if the write is accepted. -/
def Event.written? {ρ : Type} (b : Backend) : Event ρ → Option Entry
  | .move (.storeCall _ (.put e o) none) =>
    match (Store.put b e o).1 with
    | .ok .stored => some e
    | _ => none
  | _ => none

/-- **What an event does** to the contents: what is held stays or leaves the store, or an entry is
written over the generation that it was made for. -/
theorem Event.effect {ρ : Type} (ev : Event ρ) {b : Backend} (hv : b.Valid)
    (hg : ∀ f e o, ev = .move (.storeCall f (.put e o) none) →
      e.generation < 18446744073709551616) :
    (ev.after b).Valid ∧
      (ev.written? b = none ∧
          (∀ k, (ev.after b).contents k = b.contents k ∨ (ev.after b).contents k = none) ∨
        ∃ f e o, ev = .move (.storeCall f (.put e o) none) ∧ ev.written? b = some e ∧
          b.contents.generation e.key = o ∧ b.contents.Takes (b.kept e) (ev.after b).contents) := by
  cases ev with
  | breakDown id message => exact ⟨hv, .inl ⟨rfl, fun _ => .inl rfl⟩⟩
  | move m =>
    cases m with
    | storeCall f call fault =>
      cases fault with
      | some err => exact ⟨hv, .inl ⟨by cases call <;> rfl, fun _ => .inl rfl⟩⟩
      | none =>
        cases call with
        | get k =>
          obtain ⟨-, hv', hsame⟩ := Backend.get_spec hv k
          exact ⟨hv', .inl ⟨rfl, fun j => .inl (congrFun hsame j)⟩⟩
        | list =>
          obtain ⟨hv', hsame⟩ := Backend.list_spec hv ""
          exact ⟨hv', .inl ⟨rfl, fun j => .inl (congrFun hsame j)⟩⟩
        | delete k =>
          obtain ⟨-, hv', hwithout⟩ := Backend.delete_spec hv k
          refine ⟨hv', .inl ⟨rfl, fun j => ?_⟩⟩
          show (Store.delete b k).2.contents j = _ ∨ (Store.delete b k).2.contents j = _
          rw [hwithout]
          by_cases hj : j = k
          · rw [hj, Contents.without_self]
            exact .inr rfl
          · exact .inl (Contents.without_of_ne _ hj)
        | put e o =>
          obtain ⟨a, ha, hcheck, hv', hstored, hconflict⟩ := Backend.put_spec hv o (hg f e o rfl)
          refine ⟨hv', ?_⟩
          cases a with
          | stored =>
            obtain ⟨hgen, -⟩ := checkGeneration_eq_stored_iff.mp hcheck.symm
            refine .inr ⟨f, e, o, rfl, ?_, hgen, hstored rfl⟩
            simp only [written?, ha]
          | conflict c =>
            refine .inl ⟨?_, fun j => .inl (congrFun (hconflict c rfl) j)⟩
            simp only [written?, ha]
    | _ => exact ⟨hv, .inl ⟨rfl, fun _ => .inl rfl⟩⟩

namespace ClusterRun

open Scheduler

variable {ρ : Type} (r : ClusterRun ρ)

/-- What the store holds at a position. -/
def held (i : Nat) : Contents := (r.state i).store.contents

/-- The entry that is written at an event. -/
def written? (i : Nat) : Option Entry := (r.event i).2.written? (r.state i).store

/-- The generations of the entries that are written under a key at so many events from a position
on. -/
def generations (k : Key) (a : Nat) : Nat → List Generation
  | 0 => []
  | n + 1 => generations k a n ++
    (((written? r (a + n)).filter (·.key = k)).map (·.generation)).toList

/-- The generations that are held can be counted on in sixty-four bits. -/
def Bounded : Prop :=
  ∀ i ≤ r.length, ∀ k g, (held r i).generation k = some g → g < 18446744073709551615

/-- **The generations of a run.** -/
structure GenerationChain : Prop where
  /-- from a position at which a key is absent, and as long as it is not removed, the entries written
  under it have the generations from one on -/
  chain : ∀ k a n, a + n ≤ r.length → held r a k = none →
    (∀ i, a ≤ i → i < a + n → held r i k ≠ none → held r (i + 1) k ≠ none) →
    generations r k a n = List.range' 1 (generations r k a n).length
  /-- an entry that is written takes the place of what is of the generation that the call had read
  which led its flight, or of nothing if it had read nothing -/
  replaces : ∀ i < r.length, ∀ n f e o fault,
    r.event i = (n, .move (.storeCall f (.put e o) fault)) → written? r i = some e →
    ∃ j < i, ∃ l < j, ∃ c found, Reads r l n c e.key found ∧ found = held r l e.key ∧
      Leads r j n c f e.key found ∧
      (held r i).generation e.key = found.map Entry.generation ∧
      (held r (i + 1)).generation e.key = some (((found.map Entry.generation).getD 0) + 1)
  /-- a write that meets a conflict changes nothing and is told the generation that is held -/
  conflicts : ∀ i < r.length, ∀ n f e o g,
    r.event i = (n, .move (.storeCall f (.put e o) none)) →
    (Store.put (r.state i).store e o).1 = .ok (.conflict g) →
    held r (i + 1) = held r i ∧ g = (held r i).generation e.key

variable {r} {i n : Nat} {f : FlightId} {k : Key} {e : Entry} {o : Option Generation}

/-- What a flight observed was held when its call read it. -/
theorem exists_observed (h₀ : (r.state 0).New) (hi : i ≤ r.length)
    (hv : ∀ l < i, (r.state l).store.Valid) {x : ρ} {p : Flight}
    (hf : (r.state i).task? n f = some (.flight k o x p)) :
    ∃ j < i, ∃ l < j, ∃ c found, Reads r l n c k found ∧ found = held r l k ∧
      Leads r j n c f k found ∧ o = found.map Entry.generation := by
  obtain ⟨j, hj, c, found, hlead, rfl⟩ := exists_leads r h₀ hi hf
  obtain ⟨y, hread⟩ := hlead.read
  obtain ⟨l, hl, hreads⟩ := exists_reads r h₀ (Nat.le_of_lt hlead.lt) hread
  have hget := (Backend.get_spec (hv l (by omega)) k).1
  have hfound : found = held r l k := Except.ok.inj (hreads.asks.2.symm.trans hget)
  exact ⟨j, hj, l, hl, c, found, hreads, hfound, hlead, rfl⟩

/-- A write is that of a flight of its key, and has the generation after the one observed. -/
theorem exists_committing (h₀ : (r.state 0).New) (hi : i < r.length) {fault : Option StoreError}
    (he : r.event i = (n, .move (.storeCall f (.put e o) fault))) :
    (∃ x, (r.state i).task? n f = some (.flight e.key o x (.committing e))) ∧
      e.generation = o.getD 0 + 1 := by
  obtain ⟨n', ev, s, s', hev, hs, hh, -⟩ := exists_actor r hi
  obtain ⟨rfl, rfl⟩ := Prod.mk.inj (hev.symm.trans he)
  obtain ⟨t, ht, hmem⟩ := mem_storeCalls_of_step hh
  obtain ⟨k, x, rfl⟩ := Task.eq_of_put_mem hmem
  obtain ⟨out, now, rfl⟩ :=
    rendered r h₀ i (Nat.le_of_lt hi) s (List.mem_of_getElem? hs) ht .committing
  refine ⟨⟨x, ?_⟩, generation_entryOf k o out now⟩
  rw [Cluster.task?_of_scheduler hs, ht, key_entryOf]

/-- A generation that is written can be persisted. -/
theorem generation_lt (h₀ : (r.state 0).New) (hb : Bounded r) (hi : i < r.length)
    (hv : ∀ l < i, (r.state l).store.Valid)
    (he : r.event i = (n, .move (.storeCall f (.put e o) none))) :
    e.generation < 18446744073709551616 := by
  obtain ⟨⟨x, hf⟩, hgen⟩ := exists_committing h₀ hi he
  obtain ⟨j, hj, l, hl, c, found, -, hfound, -, rfl⟩ :=
    exists_observed h₀ (Nat.le_of_lt hi) hv hf
  rw [hgen]
  cases hg : found.map Entry.generation with
  | none => decide
  | some g =>
    have hlt := hb l (by omega) e.key g (by rw [Contents.generation, ← hfound, hg])
    exact Nat.add_lt_add_right hlt 1

/-- The store is in a state that it can be in all along. -/
theorem valid (h₀ : (r.state 0).New) (hb : Bounded r) :
    ∀ i ≤ r.length, (r.state i).store.Valid := by
  intro i
  induction i using Nat.strongRecOn with
  | ind i ih =>
    intro hi
    cases i with
    | zero => exact h₀.store.valid.1
    | succ i =>
      have hv : ∀ l < i, (r.state l).store.Valid := fun l hl => ih l (by omega) (by omega)
      obtain ⟨n, ev, s, s', hev, -, hh, -⟩ := exists_actor r hi
      rw [store_of_happen hh]
      refine (ev.effect (ih i (by omega) (by omega)) fun f e o he => ?_).1
      exact generation_lt h₀ hb hi hv (by rw [hev, he])

/-- What an event of a run does to the contents. -/
theorem effect (h₀ : (r.state 0).New) (hb : Bounded r) (hi : i < r.length) :
    (written? r i = none ∧ (∀ k, held r (i + 1) k = held r i k ∨ held r (i + 1) k = none)) ∨
      ∃ n f e o, r.event i = (n, .move (.storeCall f (.put e o) none)) ∧
        written? r i = some e ∧ (held r i).generation e.key = o ∧
        (held r i).Takes ((r.state i).store.kept e) (held r (i + 1)) := by
  have hv := valid h₀ hb
  obtain ⟨n, ev, s, s', hev, -, hh, -⟩ := exists_actor r hi
  have heffect := (ev.effect (hv i (Nat.le_of_lt hi)) fun f e o he =>
    generation_lt h₀ hb hi (fun l hl => hv l (by omega)) (by rw [hev, he])).2
  rw [← store_of_happen hh] at heffect
  rcases heffect with ⟨hnone, hsame⟩ | ⟨f, e, o, he, hw, hgen, htakes⟩
  · refine .inl ⟨?_, hsame⟩
    rw [written?, hev, hnone]
  · refine .inr ⟨n, f, e, o, by rw [hev, he], ?_, hgen, htakes⟩
    rw [written?, hev, hw]

/-- What is held after a write. -/
theorem held_after_write {e : Entry} {c c' : Contents} {b : Backend} (h : c.Takes (b.kept e) c') :
    c'.generation e.key = some e.generation := by
  have hself := h.1
  rw [Backend.key_kept] at hself
  rw [Contents.generation, hself, Option.map_some, Backend.generation_kept]

/-- From the position `a`, at which the key is absent, to the position `a + n` the entries written
under the key have the generations up to the one held, if it is not removed in between. -/
theorem exists_generations (h₀ : (r.state 0).New) (hb : Bounded r) {a : Nat}
    (hn : a + n ≤ r.length) (ha : held r a k = none)
    (hstays : ∀ i, a ≤ i → i < a + n → held r i k ≠ none → held r (i + 1) k ≠ none) :
    ∃ m, generations r k a n = List.range' 1 m ∧
      (held r (a + n)).generation k = if m = 0 then none else some m := by
  induction n with
  | zero =>
    refine ⟨0, rfl, ?_⟩
    show (held r a k).map _ = _
    rw [ha]
    rfl
  | succ n ih =>
    obtain ⟨m, hm, hheld⟩ := ih (by omega) fun i hai hi => hstays i hai (by omega)
    -- an event that does not write under the key leaves it as it is
    have hkeep : (written? r (a + n)).filter (·.key = k) = none →
        held r (a + n + 1) k = held r (a + n) k ∨ held r (a + n + 1) k = none →
        ∃ m, generations r k a (n + 1) = List.range' 1 m ∧
          (held r (a + (n + 1))).generation k = if m = 0 then none else some m := by
      intro hw hor
      have hsame : held r (a + n + 1) k = held r (a + n) k := by
        rcases hor with h | h
        · exact h
        · by_cases hne : held r (a + n) k = none
          · rw [h, hne]
          · exact absurd h (hstays (a + n) (by omega) (by omega) hne)
      refine ⟨m, ?_, ?_⟩
      · rw [generations, hw, hm, Option.map_none, Option.toList_none, List.append_nil]
      · rw [← hheld]
        exact congrArg (Option.map _) hsame
    rcases effect h₀ hb (i := a + n) (by omega) with ⟨hw, hor⟩ | ⟨n', f, e, o, he, hw, hgen, htakes⟩
    · exact hkeep (by rw [hw, Option.filter_none]) (hor k)
    · by_cases hk : e.key = k
      · subst hk
        have hnext := (exists_committing h₀ (by omega) he).2
        have hobserved : o.getD 0 = m := by
          rw [← hgen, hheld]
          split
          · rename_i hm₀
            exact hm₀.symm
          · rfl
        rw [hobserved] at hnext
        refine ⟨m + 1, ?_, ?_⟩
        · rw [generations, hm, hw, Option.filter_some, if_pos (decide_eq_true rfl), Option.map_some,
            Option.toList_some, hnext, List.range'_1_concat, Nat.add_comm 1 m]
        · rw [if_neg (Nat.succ_ne_zero m), ← hnext]
          exact held_after_write htakes
      · refine hkeep ?_ ?_
        · rw [hw, Option.filter_some, if_neg (by simpa using hk)]
        · have hne : k ≠ ((r.state (a + n)).store.kept e).key := by
            rw [Backend.key_kept]
            exact Ne.symm hk
          exact htakes.2 k hne

/-- **Generations follow each other.** However many schedulers share a store that was empty, in every
run the entries written under a key between two removals have the generations from one on, each
takes the place of what its flight's call had read, and a write that meets a conflict changes
nothing. -/
theorem generation_chain (r : ClusterRun ρ) (h₀ : (r.state 0).New) (hb : Bounded r) :
    GenerationChain r where
  chain k a n hn ha hstays := by
    obtain ⟨m, hm, -⟩ := exists_generations h₀ hb hn ha hstays
    rw [hm, List.length_range']
  replaces i hi n f e o fault he hw := by
    rcases effect h₀ hb hi with ⟨hnone, -⟩ | ⟨n', f', e', o', he', hw', hgen, htakes⟩
    · cases hnone.symm.trans hw
    · obtain rfl := Option.some.inj (hw'.symm.trans hw)
      obtain ⟨rfl, hm⟩ := Prod.mk.inj (he'.symm.trans he)
      cases hm
      obtain ⟨⟨x, hf⟩, hnext⟩ := exists_committing h₀ hi he
      obtain ⟨j, hj, l, hl, c, found, hreads, hfound, hlead, rfl⟩ :=
        exists_observed h₀ (Nat.le_of_lt hi)
          (fun l hl => valid h₀ hb l (by omega)) hf
      refine ⟨j, hj, l, hl, c, found, hreads, hfound, hlead, hgen, ?_⟩
      rw [← hnext]
      exact held_after_write htakes
  conflicts i hi n f e o g he hanswer := by
    have hv := valid h₀ hb
    have hlt := generation_lt h₀ hb hi (fun l hl => hv l (by omega)) he
    obtain ⟨n', ev, s, s', hev, -, hh, -⟩ := exists_actor r hi
    obtain ⟨rfl, rfl⟩ := Prod.mk.inj (hev.symm.trans he)
    obtain ⟨a, ha, hcheck, -, -, hconflict⟩ :=
      Backend.put_spec (hv i (Nat.le_of_lt hi)) o hlt
    obtain rfl := Except.ok.inj (ha.symm.trans hanswer)
    refine ⟨?_, eq_of_checkGeneration_conflict hcheck.symm⟩
    rw [held, store_of_happen hh]
    exact hconflict g rfl

/-- Two schedulers miss a page at the same time. The first writes it and the second meets a conflict.
Then the second finds it stale and writes it again. -/
def twoWriters : List (Nat × Event Nat) :=
  [(0, .move (.lookup ⟨"home"⟩ 1)), (1, .move (.lookup ⟨"home"⟩ 2)),
    (0, .move (.storeCall 0 (.get ⟨"home"⟩) none)), (1, .move (.storeCall 0 (.get ⟨"home"⟩) none)),
    (0, .move (.proceed 0 .epoch)), (1, .move (.proceed 0 .epoch)),
    (0, .move (.storeCall 1 (.get ⟨"home"⟩) none)), (1, .move (.storeCall 1 (.get ⟨"home"⟩) none)),
    (0, .move (.proceed 1 .epoch)), (1, .move (.proceed 1 .epoch)),
    (0, .move (.render 1 (.output stalePage) .epoch)),
    (1, .move (.render 1 (.output stalePage) .epoch)),
    (0, .move (.storeCall 1 (.put (entryOf ⟨"home"⟩ none stalePage .epoch) none) none)),
    (1, .move (.storeCall 1 (.put (entryOf ⟨"home"⟩ none stalePage .epoch) none) none)),
    (1, .move (.proceed 1 .epoch)), (1, .move (.lookup ⟨"home"⟩ 3)),
    (1, .move (.storeCall 2 (.get ⟨"home"⟩) none)), (1, .move (.proceed 2 .epoch)),
    (1, .move (.storeCall 3 (.get ⟨"home"⟩) none)), (1, .move (.proceed 3 .epoch)),
    (1, .move (.render 3 (.output stalePage) .epoch)),
    (1, .move (.storeCall 3 (.put (entryOf ⟨"home"⟩ (some 1) stalePage .epoch) (some 1)) none))]

/-- The run of these events over a memory store that has room for one entry. -/
def twoWritersRun : ClusterRun Nat :=
  .ofList ⟨[.new ⟨none⟩ (.ofSecs 5), .new ⟨none⟩ (.ofSecs 5)], .memory (.bounded 1)⟩ twoWriters rfl

/-- Whether a store is in memory and its generations are below a bound. -/
def memoryBelow (bound : Nat) : Backend → Bool
  | .memory m => m.entries.all (·.generation < bound)
  | .disk .. => false

theorem generation_chain_of_two_writers :
    GenerationChain twoWritersRun ∧ generations twoWritersRun ⟨"home"⟩ 0 22 = [1, 2] := by
  have hnew : (twoWritersRun.state 0).New := by
    refine ⟨?_, .memory rfl⟩
    rintro s hs
    have hs' : s = .new ⟨none⟩ (.ofSecs 5) ∨ s = .new ⟨none⟩ (.ofSecs 5) := by
      simpa [twoWritersRun, Run.ofList] using hs
    exact ⟨_, _, hs'.elim id id⟩
  have hsmall : ∀ i < 23, memoryBelow 3 (twoWritersRun.state i).store = true := by decide +kernel
  have hbounded : Bounded twoWritersRun := by
    intro i hi k g hg
    have hi' := hsmall i (Nat.lt_succ_of_le hi)
    rw [held] at hg
    cases hst : (twoWritersRun.state i).store with
    | memory m =>
      rw [hst] at hi' hg
      rw [Backend.contents_memory] at hg
      obtain ⟨e, he, rfl⟩ := Option.map_eq_some_iff.mp hg
      have hlt := of_decide_eq_true (List.all_eq_true.mp hi' e (List.mem_of_find?_eq_some he))
      exact Nat.lt_trans hlt (by decide)
    | disk d files m =>
      rw [hst] at hi'
      cases hi'
  exact ⟨generation_chain twoWritersRun hnew hbounded, by decide +kernel⟩

end ClusterRun

end PageCache
