import Mathlib.Data.List.Nodup
import Mathlib.Data.Nat.Init
import Mathlib.Data.Set.Card
import Mathlib.Tactic.Common

/-!
# Runs

A transition system is a partial function `next`: the state that an event leads to, nothing if the
event is not open. A `Run` is a state before each of its events and one after the last, so what
happens earlier and later in it can be compared by its position:

* **invariants** — `Run.invariant`: what holds at the start and survives every event holds
  throughout; `Run.stays` is the same from some position on;
* **changes** — `Run.exists_change`: what does not hold at first and does later on comes to hold at
  some event in between;
* **accounts** — `Run.number`: how many events of a kind there have been; `Run.balance` compares it
  with what the states say;
* **inevitability** — `Completes`: however the events of one kind are ordered, they come to an end,
  and they end well.
-/

namespace PageCache

/-- A list without repetitions is as long as it has elements. -/
theorem encard_of_nodup {α : Type} {l : List α} (h : l.Nodup) : {a | a ∈ l}.encard = l.length := by
  classical
  rw [← List.coe_toFinset, Set.encard_coe_eq_coe_finsetCard, List.toFinset_card_of_nodup h]

/-- A finite run of the transition system `next`. -/
structure Run {S E : Type} (next : S → E → Option S) where
  /-- the number of events -/
  length : Nat
  /-- the state after so many events -/
  state : Nat → S
  /-- the events, counted from `0` -/
  event : Nat → E
  /-- each event is open where it happens and leads to the state after it -/
  step : ∀ i < length, next (state i) (event i) = some (state (i + 1))

namespace Run

variable {S E : Type} {next : S → E → Option S}

/-- **From there on.** What holds at a position and survives every event up to another one holds at
all positions in between. -/
theorem stays (r : Run next) {P : S → Prop} {a b : Nat} (ha : P (r.state a))
    (hstep : ∀ i, a ≤ i → i < b → P (r.state i) → P (r.state (i + 1))) :
    ∀ i, a ≤ i → i ≤ b → P (r.state i) := by
  intro i hai
  induction i, hai using Nat.le_induction with
  | base => intro _; exact ha
  | succ i hai ih =>
    intro hi
    exact hstep i hai (by omega) (ih (by omega))

/-- **Invariants.** What holds at the start and survives every event holds throughout. -/
theorem invariant (r : Run next) {P : S → Prop} (h₀ : P (r.state 0))
    (hstep : ∀ s e s', next s e = some s' → P s → P s') :
    ∀ i ≤ r.length, P (r.state i) := by
  intro i hi
  exact r.stays h₀ (fun j _ hj hP => hstep _ _ _ (r.step j hj) hP) i (Nat.zero_le i) hi

/-- **Changes.** What does not hold at a position and holds at a later one comes to hold at an event
in between. -/
theorem exists_change (r : Run next) {P : S → Prop} {a b : Nat} (hab : a ≤ b)
    (ha : ¬ P (r.state a)) (hb : P (r.state b)) :
    ∃ i, a ≤ i ∧ i < b ∧ ¬ P (r.state i) ∧ P (r.state (i + 1)) := by
  induction b, hab using Nat.le_induction with
  | base => exact absurd hb ha
  | succ b hab ih =>
    by_cases h : P (r.state b)
    · obtain ⟨i, hi, hib, hn, hp⟩ := ih h
      exact ⟨i, hi, by omega, hn, hp⟩
    · exact ⟨b, hab, by omega, h, hb⟩

/-! ## Counting events -/

/-- How many of the first events are of a kind, which may depend on the state they happen in. -/
def number (r : Run next) (kind : S → E → Bool) (n : Nat) : Nat :=
  (List.range n).countP fun i => kind (r.state i) (r.event i)

@[simp] theorem number_zero (r : Run next) (kind : S → E → Bool) : r.number kind 0 = 0 := rfl

theorem number_succ (r : Run next) (kind : S → E → Bool) (n : Nat) :
    r.number kind (n + 1) = r.number kind n + (kind (r.state n) (r.event n)).toNat := by
  unfold number
  rw [List.range_succ, List.countP_append, List.countP_singleton]
  cases kind (r.state n) (r.event n) <;> rfl

@[simp] theorem number_never (r : Run next) (n : Nat) : r.number (fun _ _ => false) n = 0 := by
  unfold number
  simp

/-- **Accounts.** Of two numbers that agree at the start the first, with the events of one kind that
take from it, stays the second, with the events of another kind that add to it. -/
theorem balance (r : Run next) (f g : S → Nat) (taken added : S → E → Bool)
    (h₀ : f (r.state 0) = g (r.state 0))
    (hstep : ∀ i < r.length,
      f (r.state (i + 1)) + g (r.state i) + (taken (r.state i) (r.event i)).toNat =
        f (r.state i) + g (r.state (i + 1)) + (added (r.state i) (r.event i)).toNat) :
    ∀ n ≤ r.length, f (r.state n) + r.number taken n = g (r.state n) + r.number added n := by
  intro n hn
  induction n with
  | zero => exact h₀
  | succ n ih =>
    have hstep := hstep n hn
    have ih := ih (Nat.le_of_succ_le hn)
    rw [number_succ, number_succ]
    omega

/-- If there has been one event of a kind, there is one place where it was. -/
theorem exists_of_number_eq_one (r : Run next) {kind : S → E → Bool} {n : Nat}
    (h : r.number kind n = 1) :
    ∃ i < n, kind (r.state i) (r.event i) = true ∧
      ∀ j < n, kind (r.state j) (r.event j) = true → j = i := by
  induction n with
  | zero => cases h
  | succ n ih =>
    rw [number_succ] at h
    cases hk : kind (r.state n) (r.event n) with
    | false =>
      rw [hk] at h
      obtain ⟨i, hi, hki, hu⟩ := ih h
      refine ⟨i, by omega, hki, fun j hj hkj => hu j ?_ hkj⟩
      have hne : j ≠ n := by
        rintro rfl
        rw [hk] at hkj
        cases hkj
      omega
    | true =>
      rw [hk] at h
      have hnone : r.number kind n = 0 := Nat.succ.inj h
      refine ⟨n, Nat.lt_succ_self n, hk, fun j hj hkj => ?_⟩
      by_contra hne
      have hall := List.countP_eq_zero.mp hnone j (List.mem_range.mpr (by omega))
      exact hall hkj

/-- If events of a kind can only have been at one place, there has been one or none of them. -/
theorem number_eq_toNat (r : Run next) {kind : S → E → Bool} {n i : Nat} (hi : i < n)
    (h : ∀ j < n, kind (r.state j) (r.event j) = true → j = i) :
    r.number kind n = (kind (r.state i) (r.event i)).toNat := by
  have heq : r.number kind n =
      (List.range n).countP fun j => j == i && kind (r.state i) (r.event i) := by
    refine List.countP_congr fun j hj => ?_
    rw [Bool.and_eq_true, beq_iff_eq]
    constructor
    · intro hk
      have hji := h j (List.mem_range.mp hj) hk
      exact ⟨hji, hji ▸ hk⟩
    · rintro ⟨rfl, hk⟩
      exact hk
  rw [heq]
  cases kind (r.state i) (r.event i) with
  | false => simp
  | true =>
    simp only [Bool.and_true, Bool.toNat_true]
    exact List.count_eq_one_of_mem List.nodup_range (List.mem_range.mpr hi)

/-! ## The run of a list of events -/

/-- A run that goes well goes well up to each of its positions. -/
theorem foldlM_take_isSome {s : S} {es : List E} (h : (es.foldlM next s).isSome) (i : Nat) :
    ((es.take i).foldlM next s).isSome := by
  rw [← List.take_append_drop i es, List.foldlM_append] at h
  cases hf : (es.take i).foldlM next s with
  | none => rw [hf] at h; cases h
  | some s' => rfl

/-- The run of a list of events that are open one after the other. -/
def ofList [Inhabited E] (s : S) (es : List E) (h : (es.foldlM next s).isSome) : Run next where
  length := es.length
  state i := ((es.take i).foldlM next s).getD s
  event i := es.getD i default
  step i hi := by
    obtain ⟨s', hs'⟩ := Option.isSome_iff_exists.mp (foldlM_take_isSome h (i + 1))
    obtain ⟨t, ht⟩ := Option.isSome_iff_exists.mp (foldlM_take_isSome h i)
    have hget : es.getD i default = es[i] := by simp [hi]
    rw [hs', ht, hget]
    rw [List.take_succ_eq_append_getElem hi, List.foldlM_append, ht] at hs'
    simpa using hs'

end Run

/-- **Inevitability.** From this state, events of the kind `own` lead to `Q` whatever their order:
until `Q` holds one of them is open, and none of them can be made for ever. -/
inductive Completes {S E : Type} (next : S → E → Option S) (own : E → Prop) (Q : S → Prop) :
    S → Prop where
  /-- it is done -/
  | done {s : S} : Q s → Completes next own Q s
  /-- it goes on, and each way to go on completes -/
  | more {s : S} : (∃ e s', own e ∧ next s e = some s') →
      (∀ e s', own e → next s e = some s' → Completes next own Q s') → Completes next own Q s

namespace Completes

variable {S E : Type} {next : S → E → Option S} {own : E → Prop} {Q Q' : S → Prop} {s : S}

/-- What can go on completes if each way to go on does. -/
theorem of_open (hopen : ∃ e, own e ∧ (next s e).isSome)
    (h : ∀ e s', own e → next s e = some s' → Completes next own Q s') :
    Completes next own Q s := by
  obtain ⟨e, hown, hsome⟩ := hopen
  obtain ⟨s', hs'⟩ := Option.isSome_iff_exists.mp hsome
  exact .more ⟨e, s', hown, hs'⟩ h

/-- What completes well completes as well as less. -/
theorem imp (h : Completes next own Q s) (himp : ∀ s, Q s → Q' s) : Completes next own Q' s := by
  induction h with
  | done hq => exact .done (himp _ hq)
  | more hopen _ ih => exact .more hopen ih

/-- What completes has an end. -/
theorem exists_end (h : Completes next own Q s) : ∃ s', Q s' := by
  induction h with
  | done hq => exact ⟨_, hq⟩
  | more hopen _ ih =>
    obtain ⟨e, s', hown, hs'⟩ := hopen
    exact ih e s' hown hs'

end Completes

end PageCache
