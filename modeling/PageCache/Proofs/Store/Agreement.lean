import Mathlib.Data.List.Sort
import PageCache.Proofs.Store.Disk
import PageCache.Proofs.Store.Memory

/-!
# Both stores agree

A memory store without a limit and a disk store answer the same requests alike: a disk store answers
a reading by the persisted form of the entry, and all else as the memory store does. That is so for
any sequence of requests on an empty folder, as long as no two of the keys in it have one digest.

* `Store.answers` — the answers to a sequence of requests;
* `Agrees` — how a memory store and a folder belong together, which each request keeps;
* `stores_agree` — the answers, and what they are for a listing.
-/

namespace PageCache

/-- What a store can be asked. -/
inductive Request where
  /-- the entry of a key -/
  | get (k : Key)
  /-- to write an entry if the generation observed is the one stored -/
  | put (e : Entry) (observed : Option Generation)
  /-- to remove a key's entry -/
  | delete (k : Key)
  /-- the keys that start with a text -/
  | list (start : String)

/-- The key that a request is about. -/
def Request.key? : Request → Option Key
  | get k => some k
  | put e _ => some e.key
  | delete k => some k
  | list _ => none

/-- The keys that some requests are about. -/
def Request.keys (qs : List Request) : Set Key := {k | ∃ q ∈ qs, q.key? = some k}

/-- What a store answers. -/
inductive Answer where
  /-- to a reading -/
  | got (r : Except StoreError (Option Entry))
  /-- to a write -/
  | written (r : Except StoreError PutOutcome)
  /-- to a removal -/
  | deleted (r : Except StoreError Bool)
  /-- to a listing -/
  | listed (r : Except StoreError (List Key))

/-- The answer with the persisted form of its entry. -/
def Answer.persisted : Answer → Answer
  | got r => got (r.map (·.map Entry.persisted))
  | a => a

namespace Store

variable {σ : Type} [Store σ]

/-- The answer to a request, and the store after it. -/
def answer (s : σ) : Request → Answer × σ
  | .get k => (.got (Store.get s k).1, (Store.get s k).2)
  | .put e o => (.written (Store.put s e o).1, (Store.put s e o).2)
  | .delete k => (.deleted (Store.delete s k).1, (Store.delete s k).2)
  | .list start => (.listed (Store.list s start).1, (Store.list s start).2)

/-- The answers to some requests, one after the other. -/
def answers (s : σ) : List Request → List Answer
  | [] => []
  | q :: qs => (answer s q).1 :: answers (answer s q).2 qs

/-- The store after some requests. -/
def after (s : σ) : List Request → σ
  | [] => s
  | q :: qs => after (answer s q).2 qs

end Store

/-- The contents with each entry in its persisted form. -/
def Contents.persisted (c : Contents) : Contents := fun k => (c k).map Entry.persisted

theorem Contents.generation_persisted (c : Contents) (k : Key) :
    c.persisted.generation k = c.generation k := by
  rw [generation, persisted, Option.map_map]
  rfl

theorem Contents.without_persisted (c : Contents) (k : Key) :
    c.persisted.without k = (c.without k).persisted := by
  funext j
  simp only [without, persisted]
  split <;> rfl

open DiskStore Function Store

/-! ## A memory store without a limit -/

/-- Without a limit nothing is pushed out. -/
theorem MemoryStore.find_push {m : MemoryStore} (h : m.capacity = none) (e : Entry) :
    (m.push e).find = update m.find e.key (some e) ∧ (m.push e).capacity = none := by
  have hfull : m.full = false := by
    rw [full, h]
  rw [push, hfull, Bool.and_false, if_neg Bool.false_ne_true]
  refine ⟨?_, h⟩
  funext k
  show List.find? _ (e :: m.others e.key) = _
  rw [update_apply]
  by_cases hk : k = e.key
  · rw [hk, List.find?_cons_of_pos (by simp), if_pos rfl]
  · rw [List.find?_cons_of_neg (by simpa using Ne.symm hk), find?_others, if_neg hk, if_neg hk]

/-- A listing is in strict order, and has the keys that are held and start with the text. -/
theorem MemoryStore.sorted_list {m : MemoryStore} (h : m.Distinct) (start : String) :
    (m.list start).Pairwise (· < ·) :=
  sorted_mergeSort (h.sublist List.filter_sublist)

/-! ## Each request -/

/-- The folder has what the memory store has, in its persisted form. -/
structure Agrees (keys : Set Key) (m : MemoryStore) (s : DiskStore) (t : FileTree) : Prop where
  /-- the memory store has no key twice -/
  distinct : m.Distinct
  /-- it has no limit -/
  limitless : m.capacity = none
  /-- the folder has the same entries, all of the given keys -/
  stored : ∃ slots, Stored s t slots ∧ Within slots keys ∧ held slots = Contents.persisted m.find

variable {keys : Set Key} {m : MemoryStore} {s : DiskStore} {t : FileTree}

/-- A store without entries and an empty folder agree. -/
theorem agrees_empty (h : Ready s t) : Agrees keys .unbounded s t where
  distinct := MemoryStore.distinct_unbounded
  limitless := rfl
  stored := ⟨_, h.stored, fun _ _ he => absurd he.symm (Option.some_ne_none _), rfl⟩

/-- A reading. -/
theorem Agrees.get (h : Agrees keys m s t) (k : Key) :
    (s.get k).run t = (.ok ((m.get k).1.map Entry.persisted), t) ∧ Agrees keys (m.get k).2 s t := by
  obtain ⟨slots, hs, hwithin, hheld⟩ := h.stored
  refine ⟨?_, h.distinct.get k, ?_, slots, hs, hwithin, ?_⟩
  · rw [hs.get_run, hheld, m.get_fst]
    rfl
  · unfold MemoryStore.get
    split <;> exact h.limitless
  · rw [m.find_get, hheld]

/-- A removal. -/
theorem Agrees.delete (h : Agrees keys m s t) (k : Key) :
    ∃ t', (s.delete k).run t = (.ok (m.delete k).1, t') ∧ Agrees keys (m.delete k).2 s t' := by
  obtain ⟨slots, hs, hwithin, hheld⟩ := h.stored
  obtain ⟨t', hrun, hs'⟩ := hs.delete_run k
  refine ⟨t', ?_, h.distinct.sublist (List.filter_sublist.map _), h.limitless, _, hs',
    hwithin.remove k, ?_⟩
  · rw [hrun, hheld, Contents.persisted, Option.isSome_map]
    rfl
  · rw [held_remove, hheld, m.find_delete, Contents.without_persisted]

/-- A write. -/
theorem Agrees.put (h : Agrees keys m s t) (hkeys : keys.InjOn Key.digest) {e : Entry}
    (o : Option Generation) {bodyToken recordToken : String} (hbt : IsToken bodyToken)
    (hrt : IsToken recordToken) (hk : e.key ∈ keys) (hg : e.generation < 18446744073709551616) :
    ∃ t', (s.put bodyToken recordToken e o).run t = (.ok (m.put e o).1, t') ∧
      Agrees keys (m.put e o).2 s t' := by
  obtain ⟨slots, hs, hwithin, hheld⟩ := h.stored
  obtain ⟨a, t', hrun, ha, hs'⟩ := hs.put_run o hbt hrt hg
  rw [hheld, Contents.generation_persisted] at ha
  refine ⟨t', ?_⟩
  cases a with
  | stored =>
    obtain ⟨hfind, hcapacity⟩ := MemoryStore.find_push h.limitless e
    rw [MemoryStore.put_of_stored ha.symm]
    refine ⟨hrun, h.distinct.push e, hcapacity, _, hs', ?_, ?_⟩
    · exact hwithin.put hk
    · show held (slots.put e) = _
      rw [held_put_of_alone (hs.alone hkeys hwithin hk), hheld, hfind]
      funext k
      simp only [Contents.persisted, update_apply]
      split <;> rfl
  | conflict c =>
    rw [MemoryStore.put_of_conflict ha.symm]
    exact ⟨hrun, h.distinct, h.limitless, slots, hs', hwithin, hheld⟩

/-- A listing. -/
theorem Agrees.list (h : Agrees keys m s t) (start : String) :
    (s.list start).run t = (.ok (m.list start), t) := by
  obtain ⟨slots, hs, -, hheld⟩ := h.stored
  obtain ⟨ks, hrun, hsorted, hmem⟩ := hs.list_run start
  have hks : ks = m.list start := by
    refine hsorted.eq_of_mem_iff (MemoryStore.sorted_list h.distinct start) fun k => ?_
    rw [hmem, m.mem_list_iff, hheld, Contents.persisted, Option.isSome_map]
  rw [hrun, hks]

/-- **A request** is answered alike, and the stores agree after it. -/
theorem Agrees.answer (h : Agrees keys m s t) (hkeys : keys.InjOn Key.digest) (serial : Nat)
    {q : Request} (hk : ∀ k, q.key? = some k → k ∈ keys)
    (hg : ∀ e o, q = .put e o → e.generation < 18446744073709551616) :
    ∃ t', answer (Backend.disk s t serial) q =
        ((answer m q).1.persisted, .disk s t' (serial + 2)) ∧
      Agrees keys (answer m q).2 s t' := by
  cases q with
  | get k =>
    obtain ⟨hrun, h'⟩ := h.get k
    refine ⟨t, ?_, h'⟩
    simp only [Store.answer, Store.get, Backend.use, hrun]
    rfl
  | put e o =>
    obtain ⟨t', hrun, h'⟩ := h.put hkeys o (isToken_stagingToken serial)
      (isToken_stagingToken (serial + 1)) (hk _ rfl) (hg e o rfl)
    refine ⟨t', ?_, h'⟩
    simp only [Store.answer, Store.put, Backend.use, hrun]
    rfl
  | delete k =>
    obtain ⟨t', hrun, h'⟩ := h.delete k
    refine ⟨t', ?_, h'⟩
    simp only [Store.answer, Store.delete, Backend.use, hrun]
    rfl
  | list start =>
    have hrun := h.list start
    refine ⟨t, ?_, h⟩
    simp only [Store.answer, Store.list, Backend.use, hrun]
    rfl

/-! ## All requests -/

/-- **A sequence of requests** is answered alike, and the stores agree after it. -/
theorem Agrees.answers (h : Agrees keys m s t) (hkeys : keys.InjOn Key.digest) (serial : Nat)
    {qs : List Request} (hk : Request.keys qs ⊆ keys)
    (hg : ∀ e o, .put e o ∈ qs → e.generation < 18446744073709551616) :
    answers (Backend.disk s t serial) qs = (answers m qs).map Answer.persisted ∧
      ∃ t' n, after (Backend.disk s t serial) qs = .disk s t' n ∧ Agrees keys (after m qs) s t' := by
  induction qs generalizing m t serial with
  | nil => exact ⟨rfl, t, serial, rfl, h⟩
  | cons q qs ih =>
    obtain ⟨t₁, hq, h₁⟩ := h.answer hkeys serial (fun k hq => hk ⟨q, List.mem_cons_self, hq⟩)
      (fun e o hq => hg e o (hq ▸ List.mem_cons_self))
    have hk' : Request.keys qs ⊆ keys := by
      rintro k ⟨q', hq', hkey⟩
      exact hk ⟨q', List.mem_cons_of_mem _ hq', hkey⟩
    obtain ⟨hanswers, t', n, hafter, h'⟩ := ih h₁ (serial + 2) hk'
      (fun e o hmem => hg e o (List.mem_cons_of_mem _ hmem))
    refine ⟨?_, t', n, ?_, h'⟩
    · simp only [Store.answers, List.map_cons, hq, hanswers]
    · simp only [Store.after, hq, hafter]

/-- **Both stores agree.** An empty folder is opened, and answers any requests as a memory store
without a limit does, but for the form of the entries that are read. After any requests a listing has
the keys that can be read and start with the text, in strict order. The form of the entries keeps all
but the times, which are cut to whole milliseconds, and is its own form. -/
theorem stores_agree {root : Path} (h : Ready ⟨root⟩ t) (serial : Nat) (qs : List Request)
    (hkeys : (Request.keys qs).InjOn Key.digest)
    (hg : ∀ e o, .put e o ∈ qs → e.generation < 18446744073709551616) :
    ∃ d, (openAt root).run t = (.ok d, t) ∧
      answers (Backend.disk d t serial) qs =
        (answers MemoryStore.unbounded qs).map Answer.persisted ∧
      (∀ start, ∃ ks, (Store.list (after (Backend.disk d t serial) qs) start).1 = .ok ks ∧
        (Store.list (after MemoryStore.unbounded qs) start).1 = .ok ks ∧ ks.Pairwise (· < ·) ∧
        ∀ k, k ∈ ks ↔ (∃ e, (Store.get (after MemoryStore.unbounded qs) k).1 = .ok (some e)) ∧
          k.startsWith start) ∧
      ∀ e : Entry, e.persisted.key = e.key ∧ e.persisted.body = e.body ∧
        e.persisted.tags = e.tags ∧ e.persisted.generation = e.generation ∧
        e.persisted.created.nanos = e.created.nanos.tdiv 1000000 * 1000000 ∧
        e.persisted.revalidate = .ofMillis e.revalidate.toMillis ∧
        e.persisted.persisted = e.persisted := by
  have hagrees : Agrees (Request.keys qs) .unbounded ⟨root⟩ t := agrees_empty h
  obtain ⟨hanswers, t', n, hafter, h'⟩ := hagrees.answers hkeys serial subset_rfl hg
  refine ⟨⟨root⟩, h.open_run, hanswers, fun start => ?_, fun e => ?_⟩
  · refine ⟨(after MemoryStore.unbounded qs).list start, ?_, rfl,
      MemoryStore.sorted_list h'.distinct start, fun k => ?_⟩
    · rw [hafter]
      simp only [Store.list, Backend.use, h'.list start]
    · rw [MemoryStore.mem_list_iff, Option.isSome_iff_exists]
      simp only [Store.get, MemoryStore.get_fst, Except.ok.injEq]
  · exact ⟨rfl, rfl, rfl, rfl, rfl, rfl, e.persisted_persisted⟩

/-- Two pages are written, one of them once more by someone who has not seen it. That one is removed,
and comes back. -/
def pageRequests : List Request :=
  [.put homeEntry none, .put aboutEntry none, .put homeEntry none, .list "",
    .delete homeEntry.key, .get homeEntry.key, .list "", .put homeEntry none, .get homeEntry.key,
    .get aboutEntry.key]

theorem stores_agree_on_pages :
    ∃ d, (openAt ⟨["cache"]⟩).run bareTree = (.ok d, bareTree) ∧
      answers (Backend.disk d bareTree 0) pageRequests =
        [.written (.ok .stored), .written (.ok .stored), .written (.ok (.conflict (some 1))),
          .listed (.ok [aboutEntry.key, homeEntry.key]), .deleted (.ok true), .got (.ok none),
          .listed (.ok [aboutEntry.key]), .written (.ok .stored),
          .got (.ok (some homeEntry.persisted)), .got (.ok (some aboutEntry.persisted))] := by
  have hkeys : Request.keys pageRequests ⊆ {homeEntry.key, aboutEntry.key} := by
    have hall : ∀ q ∈ pageRequests,
        q.key? ∈ [none, some homeEntry.key, some aboutEntry.key] := by decide
    rintro k ⟨q, hq, hk⟩
    have hmem := hall q hq
    rw [hk] at hmem
    simpa using hmem
  have hg : ∀ e o, .put e o ∈ pageRequests → e.generation < 18446744073709551616 := by
    intro e o hq
    simp only [pageRequests, List.mem_cons, List.not_mem_nil, or_false, Request.put.injEq,
      reduceCtorEq, false_or] at hq
    rcases hq with ⟨rfl, -⟩ | ⟨rfl, -⟩ | ⟨rfl, -⟩ | ⟨rfl, -⟩ <;> decide
  obtain ⟨d, hopen, hanswers, -⟩ :=
    stores_agree ready_cacheFolder 0 pageRequests (injOn_homeAndAbout.mono hkeys) hg
  -- what a listing puts in order is in order already
  have hboth : MemoryStore.list ⟨none, [aboutEntry, homeEntry], 0⟩ "" =
      [aboutEntry.key, homeEntry.key] := List.mergeSort_of_pairwise (by decide)
  have hone : MemoryStore.list ⟨none, [aboutEntry], 0⟩ "" = [aboutEntry.key] :=
    List.mergeSort_of_pairwise (by decide)
  refine ⟨d, hopen, hanswers.trans ?_⟩
  show [_, _, _, Answer.listed (.ok (MemoryStore.list ⟨none, [aboutEntry, homeEntry], 0⟩ "")), _, _,
    Answer.listed (.ok (MemoryStore.list ⟨none, [aboutEntry], 0⟩ "")), _, _, _] = _
  rw [hboth, hone]
  rfl

end PageCache
