/-!
# Finite maps in key order

A `SortedMap κ ν` is the list of its bindings, keys strictly increasing. The order is part of the
type, so a map has exactly one representation:

* **look-up** — `get?_insert`, `get?_erase`: a write is seen under its own key and nowhere else;
* **one form** — `SortedMap.ext`: maps that answer every look-up alike are equal;
* **listing** — `toList` and `keys` come out in key order, which is the order every listing of the
  library promises.
-/

namespace PageCache

universe u v

/-- A finite map, stored as its bindings in strictly increasing key order. -/
structure SortedMap (κ : Type u) (ν : Type v) [LT κ] where
  /-- the bindings -/
  toList : List (κ × ν)
  /-- each key is below all later ones, hence bound once -/
  sorted : toList.Pairwise (fun a b => a.1 < b.1)

namespace SortedMap

variable {κ : Type u} {ν : Type v}

/-! ## Look-up and update on the list of bindings -/

section Bindings

variable [DecidableEq κ]

/-- The value bound to `k`. -/
def find (k : κ) : List (κ × ν) → Option ν
  | [] => none
  | (a, x) :: rest => if a = k then some x else find k rest

theorem mem_of_find {k : κ} {v : ν} : ∀ {l : List (κ × ν)}, find k l = some v → (k, v) ∈ l
  | [], h => by simp [find] at h
  | (a, x) :: rest, h => by
    simp only [find] at h
    split at h
    · simp_all
    · exact List.mem_cons_of_mem _ (mem_of_find h)

theorem find_filter (k j : κ) : ∀ l : List (κ × ν),
    find j (l.filter (fun p => p.1 ≠ k)) = if k = j then none else find j l
  | [] => by simp [find]
  | (a, x) :: rest => by
    have ih := find_filter k j rest
    by_cases hak : a = k
    · subst hak
      have hstep : ((a, x) :: rest).filter (fun p => p.1 ≠ a) =
          rest.filter (fun p => p.1 ≠ a) := by simp
      rw [hstep, ih]
      by_cases haj : a = j <;> simp [find, haj]
    · have hstep : ((a, x) :: rest).filter (fun p => p.1 ≠ k) =
          (a, x) :: rest.filter (fun p => p.1 ≠ k) := by simp [hak]
      rw [hstep]
      simp only [find, ih]
      grind

variable [LT κ]

section Order

variable [LE κ] [Std.LawfulOrderLT κ]

theorem find_eq_none {k : κ} : ∀ {l : List (κ × ν)},
    (∀ p ∈ l, k < p.1) → find k l = none
  | [], _ => rfl
  | (a, x) :: rest, h => by
    have hk : k < a := h (a, x) (by simp)
    have hne : a ≠ k := fun e => Std.lt_irrefl (e ▸ hk)
    simp only [find, if_neg hne]
    exact find_eq_none fun p hp => h p (by simp [hp])

theorem find_of_mem {k : κ} {v : ν} : ∀ {l : List (κ × ν)},
    l.Pairwise (fun a b => a.1 < b.1) → (k, v) ∈ l → find k l = some v
  | (a, x) :: rest, h, hm => by
    obtain ⟨ha, hr⟩ := List.pairwise_cons.1 h
    rcases List.mem_cons.1 hm with e | hm
    · cases e; simp [find]
    · have hlt : a < k := ha (k, v) hm
      have hne : a ≠ k := fun e => Std.lt_irrefl (e ▸ hlt)
      simpa [find, hne] using find_of_mem hr hm

variable [Std.IsLinearOrder κ]

theorem eq_of_find : ∀ {l r : List (κ × ν)},
    l.Pairwise (fun a b => a.1 < b.1) → r.Pairwise (fun a b => a.1 < b.1) →
    (∀ k, find k l = find k r) → l = r
  | [], [], _, _, _ => rfl
  | [], (b, y) :: r, _, _, h => by simpa [find] using h b
  | (a, x) :: l, [], _, _, h => by simpa [find] using h a
  | (a, x) :: l, (b, y) :: r, hl, hr, h => by
    obtain ⟨hal, hl'⟩ := List.pairwise_cons.1 hl
    obtain ⟨hbr, hr'⟩ := List.pairwise_cons.1 hr
    have hab : a = b := by
      rcases Std.lt_trichotomy a b with lt | eq | lt
      · have := h a
        rw [find_eq_none (l := (b, y) :: r) (fun p hp => by
          rcases List.mem_cons.1 hp with rfl | hp
          · exact lt
          · exact Std.lt_trans lt (hbr p hp))] at this
        simp [find] at this
      · exact eq
      · have := h b
        rw [find_eq_none (l := (a, x) :: l) (fun p hp => by
          rcases List.mem_cons.1 hp with rfl | hp
          · exact lt
          · exact Std.lt_trans lt (hal p hp))] at this
        simp [find] at this
    subst hab
    have hxy : x = y := by simpa [find] using h a
    subst hxy
    congr 1
    refine eq_of_find hl' hr' fun k => ?_
    by_cases hk : a = k
    · subst hk
      rw [find_eq_none hal, find_eq_none hbr]
    · simpa [find, hk] using h k

end Order

variable [DecidableLT κ]

/-- Bind `k` at its place, over what was bound to it. -/
def bind (k : κ) (v : ν) : List (κ × ν) → List (κ × ν)
  | [] => [(k, v)]
  | (a, x) :: rest =>
    if k < a then (k, v) :: (a, x) :: rest
    else if a = k then (k, v) :: rest
    else (a, x) :: bind k v rest

theorem mem_bind {k : κ} {v : ν} {p : κ × ν} :
    ∀ {l : List (κ × ν)}, p ∈ bind k v l → p = (k, v) ∨ p ∈ l
  | [], h => by simp_all [bind]
  | (a, x) :: rest, h => by
    simp only [bind] at h
    split at h
    · simpa using h
    · split at h
      · simp at h ⊢; grind
      · simp only [List.mem_cons] at h ⊢
        rcases h with h | h
        · exact .inr (.inl h)
        · rcases mem_bind h with h | h
          · exact .inl h
          · exact .inr (.inr h)

theorem find_bind (k j : κ) (v : ν) :
    ∀ l : List (κ × ν), find j (bind k v l) = if k = j then some v else find j l
  | [] => by simp [bind, find]
  | (a, x) :: rest => by
    simp only [bind]
    split
    · simp [find]
    · split
      · subst_vars; simp only [find]; split <;> simp_all
      · simp only [find, find_bind k j v rest]; grind

variable [LE κ] [Std.IsLinearOrder κ] [Std.LawfulOrderLT κ]

theorem bind_sorted (k : κ) (v : ν) : ∀ {l : List (κ × ν)},
    l.Pairwise (fun a b => a.1 < b.1) → (bind k v l).Pairwise (fun a b => a.1 < b.1)
  | [], _ => by simp [bind]
  | (a, x) :: rest, h => by
    obtain ⟨ha, hr⟩ := List.pairwise_cons.1 h
    simp only [bind]
    split
    · rename_i hk
      refine List.pairwise_cons.2 ⟨fun b hb => ?_, h⟩
      rcases List.mem_cons.1 hb with rfl | hb
      · exact hk
      · exact Std.lt_trans hk (ha b hb)
    · split
      · subst_vars; exact List.pairwise_cons.2 ⟨ha, hr⟩
      · rename_i hk hne
        refine List.pairwise_cons.2 ⟨fun b hb => ?_, bind_sorted k v hr⟩
        rcases mem_bind hb with rfl | hb
        · exact Std.lt_of_le_of_ne (Std.not_lt.1 hk) hne
        · exact ha b hb

end Bindings

/-! ## The operations of a map -/

variable [LT κ]

/-- Two maps with the same bindings are the same map. -/
theorem toList_inj {m n : SortedMap κ ν} : m.toList = n.toList → m = n := by
  intro h; cases m; cases n; simp_all

instance [DecidableEq κ] [DecidableEq ν] : DecidableEq (SortedMap κ ν) := fun m n =>
  if h : m.toList = n.toList then isTrue (toList_inj h)
  else isFalse fun e => h (e ▸ rfl)

/-- The map without bindings. -/
def empty : SortedMap κ ν := ⟨[], .nil⟩

instance : EmptyCollection (SortedMap κ ν) := ⟨empty⟩
instance : Inhabited (SortedMap κ ν) := ⟨empty⟩

/-- The keys, in order. -/
def keys (m : SortedMap κ ν) : List κ := m.toList.map (·.1)

/-- The number of bindings. -/
def size (m : SortedMap κ ν) : Nat := m.toList.length

/-- Whether nothing is bound. -/
def isEmpty (m : SortedMap κ ν) : Bool := m.toList.isEmpty

/-- No key is listed twice. -/
theorem nodup_keys [LE κ] [Std.LawfulOrderLT κ] (m : SortedMap κ ν) : m.keys.Nodup :=
  List.pairwise_map.mpr (m.sorted.imp fun hlt => Std.ne_of_lt hlt)

variable [DecidableEq κ]

/-- The value bound to `k`. -/
def get? (m : SortedMap κ ν) (k : κ) : Option ν := find k m.toList

/-- Whether `k` is bound. -/
def contains (m : SortedMap κ ν) (k : κ) : Bool := (m.get? k).isSome

/-- The map without the binding of `k`. -/
def erase (m : SortedMap κ ν) (k : κ) : SortedMap κ ν :=
  ⟨m.toList.filter (fun p => p.1 ≠ k), m.sorted.filter _⟩

/-- **Erasing.** The erased key has no value; every other keeps its own. -/
@[simp] theorem get?_erase (m : SortedMap κ ν) (k j : κ) :
    (m.erase k).get? j = if k = j then none else m.get? j := find_filter k j m.toList

/-- **The empty map** answers no look-up. -/
@[simp] theorem get?_empty (k : κ) : (∅ : SortedMap κ ν).get? k = none := rfl

variable [LE κ] [Std.LawfulOrderLT κ]

/-- A binding is listed exactly when the look-up finds it. -/
theorem mem_toList_iff {m : SortedMap κ ν} {k : κ} {v : ν} :
    (k, v) ∈ m.toList ↔ m.get? k = some v :=
  ⟨find_of_mem m.sorted, mem_of_find⟩

/-- A key is listed exactly when it is bound. -/
theorem mem_keys_iff {m : SortedMap κ ν} {k : κ} : k ∈ m.keys ↔ (m.get? k).isSome := by
  simp only [keys, List.mem_map, Option.isSome_iff_exists]
  constructor
  · rintro ⟨⟨a, x⟩, h, rfl⟩; exact ⟨x, mem_toList_iff.1 h⟩
  · rintro ⟨x, h⟩; exact ⟨(k, x), mem_toList_iff.2 h, rfl⟩

variable [Std.IsLinearOrder κ]

/-- **Extensionality.** Maps that answer every look-up alike are equal. -/
theorem ext {m n : SortedMap κ ν} (h : ∀ k, m.get? k = n.get? k) : m = n :=
  toList_inj (eq_of_find m.sorted n.sorted h)

variable [DecidableLT κ]

/-- Bind `k` to `v`, over what was bound to it. -/
def insert (m : SortedMap κ ν) (k : κ) (v : ν) : SortedMap κ ν :=
  ⟨bind k v m.toList, bind_sorted k v m.sorted⟩

/-- The map of a list of bindings; a later one replaces an earlier one of its key. -/
def ofList (l : List (κ × ν)) : SortedMap κ ν := l.foldl (fun m p => m.insert p.1 p.2) ∅

/-- **Inserting.** The written key has the new value; every other keeps its own. -/
@[simp] theorem get?_insert (m : SortedMap κ ν) (k j : κ) (v : ν) :
    (m.insert k v).get? j = if k = j then some v else m.get? j := find_bind k j v m.toList

end SortedMap

end PageCache
