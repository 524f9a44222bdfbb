import Mathlib.Data.List.Count
import PageCache.Proofs.Run
import PageCache.Proofs.Store.Agreement

/-!
# Recency

A memory store keeps no record of the past but the order of its entries. Over any series of requests
this order is the order in which the keys were last used, a use being a reading that found its key or
a write that was accepted, so the entry at the end is the one whose last use is the oldest:

* **one request** — `Handled`: it changes nothing, or it brings one entry to the front, which may
  push the last one out, or it takes one entry away;
* **last uses** — `LastUse`, and `Ordered` for a list of entries in the order of their last uses;
* **all requests** — `Recent.succ` and `recent` carry the order through a run, and `Recent.exact` says
  which key an eviction costs;
* `exact_lru` — all of it, with the account of the keys that came and went.
-/

namespace PageCache

namespace MemoryStore

/-! ## One request -/

/-- The store after a request; none is ever turned away. -/
def next (m : MemoryStore) (q : Request) : Option MemoryStore := some (Store.answer m q).2

/-- The key that a request uses: one that it reads and finds, or one that it writes. -/
def uses (m : MemoryStore) (q : Request) : Option Key :=
  match q, (Store.answer m q).1 with
  | .get k, .got (.ok (some _)) => some k
  | .put e _, .written (.ok .stored) => some e.key
  | _, _ => none

/-- Whether a request writes a key that was not there. -/
def creates (m : MemoryStore) (q : Request) : Bool :=
  match q, (Store.answer m q).1 with
  | .put e _, .written (.ok .stored) => (m.find e.key).isNone
  | _, _ => false

/-- Whether a request is a removal that answers that the key was there. -/
def removes (m : MemoryStore) (q : Request) : Bool :=
  match (Store.answer m q).1 with
  | .deleted (.ok b) => b
  | _ => false

/-- What a request does to a store: the store after it, with what it uses, creates and removes. -/
inductive Handled (m : MemoryStore) (q : Request) : MemoryStore → Prop where
  /-- nothing -/
  | idle : m.uses q = none → m.creates q = false → m.removes q = false → Handled m q m
  /-- it brings a key that is there to the front -/
  | moved {e : Entry} : (m.find e.key).isSome → m.uses q = some e.key → m.creates q = false →
      m.removes q = false → Handled m q { m with entries := e :: m.others e.key }
  /-- it adds a key for which there is room -/
  | added {e : Entry} : m.find e.key = none → m.full = false → m.uses q = some e.key →
      m.creates q = true → m.removes q = false → Handled m q { m with entries := e :: m.entries }
  /-- it adds a key in place of the last one -/
  | evicted {e : Entry} : m.find e.key = none → m.full = true → m.uses q = some e.key →
      m.creates q = true → m.removes q = false →
      Handled m q { m with entries := e :: m.entries.dropLast, evictions := m.evictions + 1 }
  /-- it takes a key away -/
  | removed {k : Key} : (m.find k).isSome → m.uses q = none → m.creates q = false →
      m.removes q = true → Handled m q { m with entries := m.others k }

variable {m m' : MemoryStore} {k : Key} {e : Entry} {o : Option Generation}

theorem key_ne_of_find_eq_none (h : m.find k = none) {x : Entry} (hx : x ∈ m.entries) :
    x.key ≠ k := by
  rw [find, List.find?_eq_none] at h
  exact fun hk => h x hx (by simpa using hk)

/-- Leaving out a key that is not there leaves everything. -/
theorem others_of_find_eq_none (h : m.find k = none) : m.others k = m.entries :=
  List.filter_eq_self.mpr fun _ hx => by simpa using key_ne_of_find_eq_none h hx

theorem mem_others {x : Entry} : x ∈ m.others k ↔ x ∈ m.entries ∧ x.key ≠ k := by
  simp [others]

/-- Leaving out a key that is there leaves one entry less. -/
theorem length_others (hd : m.Distinct) (h : (m.find k).isSome) :
    (m.others k).length + 1 = m.size := by
  have hmem : k ∈ m.entries.map (·.key) := by
    simpa [find, List.find?_isSome] using h
  have hone : m.entries.countP (fun x => decide (x.key = k)) = 1 := by
    have hcount := List.count_eq_one_of_mem hd hmem
    rw [List.count, List.countP_map] at hcount
    rw [← hcount]
    exact List.countP_congr fun x _ => by simp
  have hsum := List.length_eq_countP_add_countP (fun x : Entry => decide (x.key = k)) (l := m.entries)
  rw [hone, List.countP_eq_length_filter] at hsum
  rw [others, size, hsum, Nat.add_comm]
  simp

/-- A pushed entry is in front, over the old one of its key. -/
theorem push_of_found (h : (m.find e.key).isSome) :
    m.push e = { m with entries := e :: m.others e.key } := by
  rw [push, Option.isNone_eq_false_iff.mpr h, Bool.false_and, if_neg Bool.false_ne_true]

theorem push_of_room (h : m.find e.key = none) (hfull : m.full = false) :
    m.push e = { m with entries := e :: m.entries } := by
  rw [push, hfull, Bool.and_false, if_neg Bool.false_ne_true, others_of_find_eq_none h]

theorem push_of_full (h : m.find e.key = none) (hfull : m.full = true) :
    m.push e = { m with entries := e :: m.entries.dropLast, evictions := m.evictions + 1 } := by
  rw [push, h, hfull]
  rfl

/-- A store that is not empty has a last entry. -/
theorem exists_last (m : MemoryStore) (h : 0 < m.size) : ∃ l x, m.entries = l ++ [x] :=
  have hne := List.ne_nil_of_length_pos h
  ⟨_, _, (List.dropLast_append_getLast hne).symm⟩

/-- A write is refused, or it is accepted and pushes its entry. -/
theorem put_cases (m : MemoryStore) (e : Entry) (o : Option Generation) :
    (∃ g, m.put e o = (.conflict g, m)) ∨ m.put e o = (.stored, m.push e) := by
  cases hc : checkGeneration (Contents.generation m.find e.key) o e.generation with
  | stored => exact .inr (put_of_stored hc)
  | conflict g => exact .inl ⟨g, put_of_conflict hc⟩

/-- **One request** does one of five things. -/
theorem handled (m : MemoryStore) (q : Request) : Handled m q (Store.answer m q).2 := by
  cases q with
  | get k =>
    show Handled m (.get k) (m.get k).2
    have hanswer : (Store.answer m (.get k)).1 = .got (.ok (m.find k)) :=
      congrArg (fun r => Answer.got (.ok r)) (m.get_fst k)
    simp only [get]
    cases hf : m.find k with
    | none => exact .idle (by simp only [uses, hanswer, hf]) rfl rfl
    | some e =>
      obtain rfl := key_of_find hf
      exact .moved (by rw [hf]; rfl) (by simp only [uses, hanswer, hf]) rfl rfl
  | put e o =>
    show Handled m (.put e o) (m.put e o).2
    obtain ⟨g, hput⟩ | hput := m.put_cases e o
    · have hanswer : Store.answer m (.put e o) = (.written (.ok (.conflict g)), m) := by
        show (Answer.written (.ok (m.put e o).1), (m.put e o).2) = _
        rw [hput]
      rw [hput]
      refine .idle ?_ ?_ rfl
      · simp only [uses, hanswer]
      · simp only [creates, hanswer]
    · have hanswer : Store.answer m (.put e o) = (.written (.ok .stored), m.push e) := by
        show (Answer.written (.ok (m.put e o).1), (m.put e o).2) = _
        rw [hput]
      have huses : m.uses (.put e o) = some e.key := by simp only [uses, hanswer]
      have hcreates : m.creates (.put e o) = (m.find e.key).isNone := by
        simp only [creates, hanswer]
      rw [hput]
      show Handled m (.put e o) (m.push e)
      cases hf : m.find e.key with
      | some old =>
        have hfound : (m.find e.key).isSome := by rw [hf]; rfl
        rw [push_of_found hfound]
        exact .moved hfound huses (by rw [hcreates, hf]; rfl) rfl
      | none =>
        cases hfull : m.full with
        | false =>
          rw [push_of_room hf hfull]
          exact .added hf hfull huses (by rw [hcreates, hf]; rfl) rfl
        | true =>
          rw [push_of_full hf hfull]
          exact .evicted hf hfull huses (by rw [hcreates, hf]; rfl) rfl
  | delete k =>
    show Handled m (.delete k) { m with entries := m.others k }
    cases hf : m.find k with
    | none =>
      rw [others_of_find_eq_none hf]
      refine .idle rfl rfl ?_
      show (m.find k).isSome = false
      rw [hf]
      rfl
    | some e =>
      have hfound : (m.find k).isSome := by rw [hf]; rfl
      exact .removed hfound rfl rfl hfound
  | list start => exact .idle rfl rfl rfl

/-! ## Last uses -/

variable {r : Run next} {n i j : Nat} {x y : Key} {l : List Entry}

/-- Of the first `n` requests of a run, this is the last one that uses the key. -/
structure LastUse (r : Run next) (n : Nat) (k : Key) (i : Nat) : Prop where
  /-- it is one of them -/
  lt : i < n
  /-- it uses the key -/
  used : (r.state i).uses (r.event i) = some k
  /-- none after it does -/
  unused : ∀ j, i < j → j < n → (r.state j).uses (r.event j) ≠ some k

/-- The last use of `x` is after that of `y`. -/
def LaterUsed (r : Run next) (n : Nat) (x y : Key) : Prop :=
  ∃ i j, LastUse r n x i ∧ LastUse r n y j ∧ j < i

/-- Of all keys that are held after the first `n` requests, this one's last use is the oldest. -/
def Oldest (r : Run next) (n : Nat) (x : Key) : Prop :=
  ((r.state n).find x).isSome ∧ ∃ i, LastUse r n x i ∧
    ∀ y, ((r.state n).find y).isSome → y ≠ x → ∃ j, LastUse r n y j ∧ i < j

theorem LastUse.of_uses (h : (r.state n).uses (r.event n) = some k) : LastUse r (n + 1) k n where
  lt := Nat.lt_succ_self n
  used := h
  unused j hnj hj := by omega

theorem LastUse.succ (hl : LastUse r n k i) (h : (r.state n).uses (r.event n) ≠ some k) :
    LastUse r (n + 1) k i where
  lt := Nat.lt_succ_of_lt hl.lt
  used := hl.used
  unused j hij hj := by
    rcases Nat.lt_succ_iff_lt_or_eq.mp hj with hj | rfl
    · exact hl.unused j hij hj
    · exact h

/-- A key has one last use. -/
theorem LastUse.unique (hi : LastUse r n k i) (hj : LastUse r n k j) : i = j := by
  rcases Nat.lt_trichotomy i j with h | h | h
  · exact absurd hj.used (hi.unused j h hj.lt)
  · exact h
  · exact absurd hi.used (hj.unused i h hi.lt)

/-- These entries have been used, each one later than those after it. -/
structure Ordered (r : Run next) (n : Nat) (l : List Entry) : Prop where
  /-- each has a last use -/
  used : ∀ e ∈ l, ∃ i, LastUse r n e.key i
  /-- they are in the order of their last uses -/
  ordered : l.Pairwise fun e e' => LaterUsed r n e.key e'.key

theorem Ordered.nil : Ordered r n [] := ⟨by simp, .nil⟩

theorem Ordered.sublist {l' : List Entry} (h : Ordered r n l) (hs : l'.Sublist l) :
    Ordered r n l' :=
  ⟨fun e he => h.used e (hs.subset he), h.ordered.sublist hs⟩

/-- A request that uses none of the entries leaves them in order. -/
theorem Ordered.succ (h : Ordered r n l)
    (hother : ∀ e ∈ l, (r.state n).uses (r.event n) ≠ some e.key) : Ordered r (n + 1) l := by
  refine ⟨fun e he => ?_, h.ordered.imp_of_mem fun {e e'} he he' hlater => ?_⟩
  · obtain ⟨i, hi⟩ := h.used e he
    exact ⟨i, hi.succ (hother e he)⟩
  · obtain ⟨i, j, hi, hj, hji⟩ := hlater
    exact ⟨i, j, hi.succ (hother e he), hj.succ (hother e' he'), hji⟩

/-- The entry that is used now belongs in front of all others. -/
theorem Ordered.cons (h : Ordered r n l) (hother : ∀ x ∈ l, x.key ≠ e.key)
    (huse : (r.state n).uses (r.event n) = some e.key) : Ordered r (n + 1) (e :: l) := by
  have hl : Ordered r (n + 1) l := h.succ fun x hx => by
    rw [huse]
    exact fun heq => hother x hx (Option.some.inj heq).symm
  refine ⟨?_, List.pairwise_cons.mpr ⟨fun x hx => ?_, hl.ordered⟩⟩
  · intro x hx
    rcases List.mem_cons.mp hx with rfl | hx
    · exact ⟨n, .of_uses huse⟩
    · exact hl.used x hx
  · -- the other's last use was before this request, as the request uses another key
    obtain ⟨i, hi⟩ := h.used x hx
    refine ⟨n, i, .of_uses huse, hi.succ ?_, hi.lt⟩
    rw [huse]
    exact fun heq => hother x hx (Option.some.inj heq).symm

theorem LaterUsed.ne (h : LaterUsed r n x y) : x ≠ y := by
  rintro rfl
  obtain ⟨i, j, hi, hj, hji⟩ := h
  exact Nat.ne_of_lt hji (hj.unique hi)

/-- Entries in the order of their last uses have distinct keys. -/
theorem Ordered.distinct (h : Ordered r n m.entries) : m.Distinct :=
  List.pairwise_map.mpr (h.ordered.imp fun hlater => hlater.ne)

/-! ## All requests -/

variable {c : Nat}

theorem full_eq_true_iff (h : m.capacity = some c) : m.full = true ↔ c ≤ m.size := by
  rw [full, h, decide_eq_true_iff]

theorem full_eq_false_iff (h : m.capacity = some c) : m.full = false ↔ m.size < c := by
  rw [full, h, decide_eq_false_iff_not, Nat.not_le]

theorem Handled.capacity {q : Request} (h : Handled m q m') : m'.capacity = m.capacity := by
  cases h <;> rfl

/-- **The account of one request**: a key that comes makes one more or costs another its place. -/
theorem Handled.account {q : Request} (h : Handled m q m') (hd : m.Distinct)
    (hc : m.capacity ≠ some 0) :
    m'.size + m'.evictions + (m.removes q).toNat = m.size + m.evictions + (m.creates q).toNat := by
  cases h with
  | idle _ hcr hre => rw [hcr, hre]
  | moved hf _ hcr hre =>
    have hlength := length_others hd hf
    rw [hcr, hre]
    simp only [size, List.length_cons] at hlength ⊢
    omega
  | added _ _ _ hcr hre =>
    rw [hcr, hre]
    simp only [size, List.length_cons, Bool.toNat_true, Bool.toNat_false]
    omega
  | evicted _ hfull _ hcr hre =>
    -- a store that has room for a key is not full while it is empty
    have hpos : 0 < m.size := by
      cases hcap : m.capacity with
      | none => rw [full, hcap] at hfull; cases hfull
      | some c =>
        rw [full_eq_true_iff hcap] at hfull
        have hne : c ≠ 0 := by rintro rfl; exact hc hcap
        omega
    rw [hcr, hre]
    simp only [size, List.length_cons, List.length_dropLast, Bool.toNat_true,
      Bool.toNat_false] at hpos ⊢
    omega
  | removed hf _ hcr hre =>
    have hlength := length_others hd hf
    rw [hcr, hre]
    simp only [size, Bool.toNat_true, Bool.toNat_false] at hlength ⊢
    omega

/-- **The bound of one request.** -/
theorem Handled.size_le {q : Request} (h : Handled m q m') (hd : m.Distinct) (hc : 1 ≤ c)
    (hcap : m.capacity = some c) (hle : m.size ≤ c) : m'.size ≤ c := by
  cases h with
  | idle => exact hle
  | moved hf =>
    have hlength := length_others hd hf
    simp only [size, List.length_cons] at hlength hle ⊢
    omega
  | added _ hroom =>
    rw [full_eq_false_iff hcap] at hroom
    exact hroom
  | evicted =>
    simp only [size, List.length_cons, List.length_dropLast] at hle ⊢
    omega
  | removed hf =>
    have hlength := length_others hd hf
    simp only [size] at hlength hle ⊢
    omega

/-- **The order of one request**: the one entry that it brings in comes to the front, and all others
keep their places. -/
theorem Handled.ordered (h : Handled (r.state n) (r.event n) m')
    (ho : Ordered r n (r.state n).entries) : Ordered r (n + 1) m'.entries := by
  cases h with
  | idle huse => exact ho.succ fun x _ => by rw [huse]; exact (Option.some_ne_none _).symm
  | moved hf huse =>
    exact (ho.sublist List.filter_sublist).cons (fun x hx => (mem_others.mp hx).2) huse
  | added hf _ huse => exact ho.cons (fun x hx => key_ne_of_find_eq_none hf hx) huse
  | evicted hf _ huse =>
    exact (ho.sublist (List.dropLast_sublist _)).cons
      (fun x hx => key_ne_of_find_eq_none hf (List.dropLast_subset _ hx)) huse
  | removed _ huse =>
    exact (ho.sublist List.filter_sublist).succ fun x _ => by
      rw [huse]; exact (Option.some_ne_none _).symm

/-- What holds of a bounded store after the first `n` requests of a run. -/
structure Recent (r : Run next) (c n : Nat) : Prop where
  /-- the bound is the same as ever -/
  capacity : (r.state n).capacity = some c
  /-- the store keeps to it -/
  size_le : (r.state n).size ≤ c
  /-- its entries are in the order of their last uses -/
  ordered : Ordered r n (r.state n).entries

theorem state_succ (r : Run next) (hn : n < r.length) :
    r.state (n + 1) = (Store.answer (r.state n) (r.event n)).2 :=
  (Option.some.inj (r.step n hn)).symm

theorem handled_at (hn : n < r.length) :
    Handled (r.state n) (r.event n) (r.state (n + 1)) := by
  rw [state_succ r hn]
  exact handled _ _

/-- **One request** keeps the bound and the order. -/
theorem Recent.succ (hc : 1 ≤ c) (h : Recent r c n) (hn : n < r.length) : Recent r c (n + 1) where
  capacity := (handled_at hn).capacity.trans h.capacity
  size_le := (handled_at hn).size_le h.ordered.distinct hc h.capacity h.size_le
  ordered := (handled_at hn).ordered h.ordered

/-- **All requests** to a store that is empty at first. -/
theorem recent (hc : 1 ≤ c) (h₀ : r.state 0 = bounded c) (hn : n ≤ r.length) : Recent r c n := by
  induction n with
  | zero =>
    refine ⟨?_, ?_, ?_⟩
    · rw [h₀]; rfl
    · rw [h₀]; exact Nat.zero_le c
    · rw [h₀]; exact .nil
  | succ n ih => exact (ih (Nat.le_of_succ_le hn)).succ hc hn

/-- **The account of all requests.** -/
theorem account (hc : 1 ≤ c) (h₀ : r.state 0 = bounded c) (hn : n ≤ r.length) :
    (r.state n).size + (r.state n).evictions + r.number removes n = r.number creates n := by
  have hbalance := r.balance (fun m => m.size + m.evictions) (fun _ => 0) removes creates
    (by rw [h₀]; rfl) (fun i hi => ?_) n hn
  · rw [hbalance, Nat.zero_add]
  · have hr := recent hc h₀ (Nat.le_of_lt hi)
    have hcap : (r.state i).capacity ≠ some 0 := by
      rw [hr.capacity]
      rintro ⟨⟩
      omega
    exact (handled_at hi).account hr.ordered.distinct hcap

/-! ## What each request does -/

open Function

/-- The keys that are there are as many as the entries. -/
theorem encard_found (hd : m.Distinct) : {k | (m.find k).isSome}.encard = m.size := by
  have hset : {k | (m.find k).isSome} = {k | k ∈ m.entries.map (·.key)} := by
    ext k
    simp [find, List.find?_isSome]
  rw [hset, encard_of_nodup hd, List.length_map]
  rfl

/-- What is found in a list with an entry in front. -/
theorem find?_cons_eq_update (e : Entry) (l : List Entry) :
    (fun k => (e :: l).find? (·.key = k)) =
      update (fun k => l.find? (·.key = k)) e.key (some e) := by
  funext k
  rw [update_apply]
  by_cases hk : k = e.key
  · rw [hk, List.find?_cons_of_pos (by simp), if_pos rfl]
  · rw [List.find?_cons_of_neg (by simpa using Ne.symm hk), if_neg hk]

/-- Without its last entry a store of distinct keys has lost one key. -/
theorem find_dropLast (hd : m.Distinct) {x : Entry} {l : List Entry} (h : m.entries = l ++ [x]) :
    (fun k => m.entries.dropLast.find? (·.key = k)) = Contents.without m.find x.key := by
  funext k
  rw [h, List.dropLast_concat]
  by_cases hk : k = x.key
  · subst hk
    rw [Contents.without_self, List.find?_eq_none]
    rw [Distinct, h, List.map_append, List.nodup_append] at hd
    intro y hy
    have hne := hd.2.2 _ (List.mem_map_of_mem hy) x.key (by simp)
    simpa using hne
  · rw [Contents.without_of_ne _ hk, find, h, List.find?_append]
    simp [Ne.symm hk]

/-- A pushed entry is found in place of the old one of its key. -/
theorem find_push_of_found (h : (m.find e.key).isSome) :
    (m.push e).find = update m.find e.key (some e) := by
  rw [push_of_found h]
  refine (find?_cons_eq_update e (m.others e.key)).trans ?_
  funext k
  rw [update_apply, update_apply]
  split
  · rfl
  · rename_i hk
    rw [find?_others, if_neg hk]

theorem find_push_of_room (h : m.find e.key = none) (hfull : m.full = false) :
    (m.push e).find = update m.find e.key (some e) := by
  rw [push_of_room h hfull]
  exact find?_cons_eq_update e m.entries

/-- In a full store the last entry gives way. -/
theorem find_push_of_full (hd : m.Distinct) (h : m.find e.key = none) (hfull : m.full = true)
    {x : Entry} {l : List Entry} (hl : m.entries = l ++ [x]) :
    (m.push e).find = update (Contents.without m.find x.key) e.key (some e) := by
  rw [push_of_full h hfull, ← find_dropLast hd hl]
  exact find?_cons_eq_update e m.entries.dropLast

/-- **The last entry of a full store** is the one whose last use is the oldest. -/
theorem Recent.oldest (h : Recent r c n) {x : Entry} {l : List Entry}
    (hl : (r.state n).entries = l ++ [x]) : Oldest r n x.key := by
  have hx : x ∈ (r.state n).entries := by rw [hl]; simp
  obtain ⟨i, hi⟩ := h.ordered.used x hx
  refine ⟨?_, i, hi, fun y hy hne => ?_⟩
  · rw [find, List.find?_isSome]
    exact ⟨x, hx, by simp⟩
  · obtain ⟨e, he, hey⟩ := List.find?_isSome.mp hy
    have hey : e.key = y := by simpa using hey
    subst hey
    have hel : e ∈ l := by
      rw [hl] at he
      rcases List.mem_append.mp he with he | he
      · exact he
      · rw [List.mem_singleton.mp he] at hne
        exact absurd rfl hne
    have hordered := h.ordered.ordered
    rw [hl] at hordered
    obtain ⟨j, i', hj, hi', hlater⟩ :=
      (List.pairwise_append.mp hordered).2.2 e hel x (List.mem_singleton.mpr rfl)
    exact ⟨j, hj, hi.unique hi' ▸ hlater⟩

/-- What the request after the first `n` does to a store of at most `c` keys. -/
structure Exact (r : Run next) (c n : Nat) : Prop where
  /-- a refused write changes neither the contents nor the order -/
  refused : ∀ e o g, r.event n = .put e o →
    (Store.put (r.state n) e o).1 = .ok (.conflict g) → r.state (n + 1) = r.state n
  /-- nor does a reading that finds nothing -/
  missed : ∀ k, r.event n = .get k → (Store.get (r.state n) k).1 = .ok none →
    r.state (n + 1) = r.state n
  /-- nor a listing -/
  listed : ∀ start, r.event n = .list start → r.state (n + 1) = r.state n
  /-- a reading that finds its key changes the order alone -/
  read : ∀ k, r.event n = .get k → (r.state (n + 1)).find = (r.state n).find ∧
    (r.state (n + 1)).evictions = (r.state n).evictions
  /-- a removal takes away its key and no other -/
  removed : ∀ k, r.event n = .delete k →
    (r.state (n + 1)).find = Contents.without (r.state n).find k ∧
    (r.state (n + 1)).evictions = (r.state n).evictions
  /-- an accepted write over a key that is there pushes nothing out -/
  replaced : ∀ e o, r.event n = .put e o → (Store.put (r.state n) e o).1 = .ok .stored →
    ((r.state n).find e.key).isSome →
    (r.state (n + 1)).find = update (r.state n).find e.key (some e) ∧
    (r.state (n + 1)).evictions = (r.state n).evictions
  /-- nor does one of a new key for which there is room -/
  added : ∀ e o, r.event n = .put e o → (Store.put (r.state n) e o).1 = .ok .stored →
    (r.state n).find e.key = none → (r.state n).size < c →
    (r.state (n + 1)).find = update (r.state n).find e.key (some e) ∧
    (r.state (n + 1)).evictions = (r.state n).evictions
  /-- one of a new key to a full store pushes out one other key, the one whose last use is the
  oldest, and nothing else -/
  evicted : ∀ e o, r.event n = .put e o → (Store.put (r.state n) e o).1 = .ok .stored →
    (r.state n).find e.key = none → (r.state n).size = c →
    ∃ x, Oldest r n x ∧ x ≠ e.key ∧
      (r.state (n + 1)).find = update (Contents.without (r.state n).find x) e.key (some e) ∧
      (r.state (n + 1)).evictions = (r.state n).evictions + 1

/-- An accepted write pushes its entry. -/
theorem put_snd_of_stored (h : (Store.put m e o).1 = .ok .stored) : (m.put e o).2 = m.push e := by
  obtain ⟨g, hput⟩ | hput := m.put_cases e o
  · have hfst : (Store.put m e o).1 = .ok (.conflict g) := congrArg (fun a => Except.ok a.1) hput
    rw [hfst] at h
    cases h
  · rw [hput]

theorem put_snd_of_conflict {g : Option Generation}
    (h : (Store.put m e o).1 = .ok (.conflict g)) : (m.put e o).2 = m := by
  obtain ⟨g', hput⟩ | hput := m.put_cases e o
  · rw [hput]
  · have hfst : (Store.put m e o).1 = .ok .stored := congrArg (fun a => Except.ok a.1) hput
    rw [hfst] at h
    cases h

/-- A reading that finds nothing changes nothing. -/
theorem get_snd_of_none (h : m.find k = none) : (m.get k).2 = m := by
  rw [get, h]

/-- A reading pushes nothing out. -/
theorem evictions_get (m : MemoryStore) (k : Key) : (m.get k).2.evictions = m.evictions := by
  rw [get]
  split <;> rfl

/-- The store after an accepted write. -/
theorem state_of_stored (hn : n < r.length) (he : r.event n = .put e o)
    (hanswer : (Store.put (r.state n) e o).1 = .ok .stored) :
    r.state (n + 1) = (r.state n).push e := by
  rw [state_succ r hn, he]
  exact put_snd_of_stored hanswer

theorem Recent.exact (hc : 1 ≤ c) (h : Recent r c n) (hn : n < r.length) : Exact r c n where
  refused e o g he hanswer := by
    rw [state_succ r hn, he]
    exact put_snd_of_conflict hanswer
  missed k he hanswer := by
    have hnone : ((r.state n).get k).1 = none := Except.ok.inj hanswer
    rw [get_fst] at hnone
    rw [state_succ r hn, he]
    exact get_snd_of_none hnone
  listed start he := by
    rw [state_succ r hn, he]
    rfl
  read k he := by
    rw [state_succ r hn, he]
    exact ⟨find_get _ k, evictions_get _ k⟩
  removed k he := by
    rw [state_succ r hn, he]
    exact ⟨find_delete _ k, rfl⟩
  replaced e o he hanswer hfound := by
    rw [state_of_stored hn he hanswer]
    exact ⟨find_push_of_found hfound, by rw [push_of_found hfound]⟩
  added e o he hanswer hnone hroom := by
    have hfull : (r.state n).full = false := (full_eq_false_iff h.capacity).mpr hroom
    rw [state_of_stored hn he hanswer]
    exact ⟨find_push_of_room hnone hfull, by rw [push_of_room hnone hfull]⟩
  evicted e o he hanswer hnone hsize := by
    have hfull : (r.state n).full = true :=
      (full_eq_true_iff h.capacity).mpr (Nat.le_of_eq hsize.symm)
    obtain ⟨l, x, hl⟩ := (r.state n).exists_last (hsize ▸ hc)
    have hx : x ∈ (r.state n).entries := by rw [hl]; simp
    refine ⟨x.key, h.oldest hl, key_ne_of_find_eq_none hnone hx, ?_⟩
    rw [state_of_stored hn he hanswer]
    exact ⟨find_push_of_full h.ordered.distinct hnone hfull hl, by rw [push_of_full hnone hfull]⟩

/-- **Exactly the least recently used.** Over any requests to a store of at most `c` keys that is
empty at first, the keys that are held are never more than `c`, in the order of their last uses, and
as many as have been created and neither removed nor evicted; and each request does what `Exact`
says. -/
theorem exact_lru {c : Nat} (hc : 1 ≤ c) (r : Run next) (h₀ : r.state 0 = bounded c) :
    (∀ n ≤ r.length,
      {k | ((r.state n).find k).isSome}.encard = (r.state n).size ∧ (r.state n).size ≤ c ∧
      (r.state n).entries.Pairwise (fun e e' => LaterUsed r n e.key e'.key) ∧
      (r.number creates n : Int) - r.number removes n - (r.state n).evictions = (r.state n).size) ∧
    ∀ n < r.length, Exact r c n := by
  refine ⟨fun n hn => ?_, fun n hn => (recent hc h₀ (Nat.le_of_lt hn)).exact hc hn⟩
  have h := recent hc h₀ hn
  refine ⟨encard_found h.ordered.distinct, h.size_le, h.ordered.ordered, ?_⟩
  have haccount := account hc h₀ hn
  omega

instance : Inhabited Request := ⟨.list ""⟩

/-- The first entry of a key. -/
def pageEntry (k : String) : Entry := { DiskStore.homeEntry with key := ⟨k⟩ }

/-- Two pages fill a store, the older one is read again, and a third one comes. -/
def rereadRun : Run next :=
  Run.ofList (bounded 2) [.put (pageEntry "a") none, .put (pageEntry "b") none, .get ⟨"a"⟩,
    .put (pageEntry "c") none] rfl

theorem exact_lru_of_reread :
    rereadRun.state 0 = bounded 2 ∧ (rereadRun.state 4).find ⟨"b"⟩ = none ∧
      ∃ x, Oldest rereadRun 3 x ∧ x ≠ ⟨"c"⟩ ∧
        (rereadRun.state 4).find = update (Contents.without (rereadRun.state 3).find x) ⟨"c"⟩
          (some (pageEntry "c")) ∧
        (rereadRun.state 4).evictions = (rereadRun.state 3).evictions + 1 :=
  ⟨rfl, by decide +kernel,
    ((exact_lru (by decide) rereadRun rfl).2 3 (by decide)).evicted (pageEntry "c") none rfl rfl
      (by decide +kernel) rfl⟩

end MemoryStore

end PageCache
