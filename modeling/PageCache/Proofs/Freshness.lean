import Mathlib.Tactic.Common
import PageCache.Policy

/-!
# Freshness is exact

Ages and grace windows are computed with durations, which saturate at both ends: an entry from the
future has no age, and no window is longer than the longest duration. Neither end changes a verdict.
The calendar is so much shorter than the longest duration that no age comes near it (`Entry.age_eq`,
`Entry.age_lt_longest`), so a verdict is the one that numbers of nanoseconds without bounds give
(`Policy.classify_of_after`), and what ageing does can be read off these:

* `Freshness.verdict_noLater` — a verdict gets later with the age, and earlier with a longer window;
* `Policy.ages_exactly` — the boundaries of each verdict, and the order in which entries age.
-/

namespace PageCache

namespace Freshness

/-- The place of a verdict on an entry in the order in which entries age. -/
def stage? : Freshness → Option Nat
  | .miss => none
  | .fresh => some 0
  | .stale => some 1
  | .hardExpired => some 2

/-- Both are verdicts on an entry, and the first is no later than the second. -/
def NoLater (v w : Freshness) : Prop := ∃ i ∈ v.stage?, ∃ j ∈ w.stage?, i ≤ j

instance (v w : Freshness) : Decidable (v.NoLater w) :=
  inferInstanceAs (Decidable (∃ i ∈ v.stage?, ∃ j ∈ w.stage?, i ≤ j))

/-- The verdict on an entry of some age that is fresh before `after` and may be served stale before
`window`, in numbers without bounds. -/
def verdict (age after window : Int) : Freshness :=
  if age < after then .fresh else if age < window then .stale else .hardExpired

variable {age age' after window window' : Int}

theorem verdict_eq_fresh_iff : verdict age after window = .fresh ↔ age < after := by
  simp only [verdict]
  split
  · simpa
  · split <;> simp <;> omega

theorem verdict_eq_stale_iff : verdict age after window = .stale ↔ after ≤ age ∧ age < window := by
  simp only [verdict]
  split
  · simp; omega
  · split <;> simp <;> omega

/-- The bound is needed: a window that closes before `after` never comes to its turn. -/
theorem verdict_eq_hardExpired_iff (h : after ≤ window) :
    verdict age after window = .hardExpired ↔ window ≤ age := by
  simp only [verdict]
  split
  · simp; omega
  · split <;> simp <;> omega

/-- **Ageing.** A verdict gets later with the age, and earlier with a longer window. -/
theorem verdict_noLater (hage : age ≤ age') (hwindow : window' ≤ window) :
    (verdict age after window).NoLater (verdict age' after window') := by
  simp only [verdict]
  -- of the nine pairs of verdicts, the ones in the wrong order contradict the bounds
  split
  · split
    · decide
    · split <;> decide
  · rw [if_neg (by omega : ¬age' < after)]
    split
    · split <;> decide
    · rw [if_neg (by omega : ¬age' < window')]
      decide

end Freshness

/-! ## No age saturates -/

/-- The whole calendar is shorter than the longest duration. -/
theorem Instant.toNat_sub_lt_longest (now start : Instant) :
    (now.nanos - start.nanos).toNat < Duration.longest := by
  have h₁ := start.ge_first
  have h₂ := now.le_last
  rw [Duration.longest]
  omega

theorem Instant.since_nanos (now start : Instant) :
    (now.since start).nanos = (now.nanos - start.nanos).toNat :=
  Nat.min_eq_left (Nat.le_of_lt (toNat_sub_lt_longest now start))

namespace Entry

variable (e : Entry) (now : Instant)

/-- **The age is exact**: the time since the entry was created, and none for one from the future. -/
theorem age_eq : ((e.age now).nanos : Int) = max 0 (now.nanos - e.created.nanos) := by
  rw [age, Instant.since_nanos]
  omega

theorem age_lt_longest : (e.age now).nanos < Duration.longest := by
  rw [age, Instant.since_nanos]
  exact Instant.toNat_sub_lt_longest now e.created

variable {now} {now' : Instant}

theorem age_mono (h : now ≤ now') : (e.age now).nanos ≤ (e.age now').nanos := by
  have h₁ := e.age_eq now
  have h₂ := e.age_eq now'
  have hle : now.nanos ≤ now'.nanos := h
  omega

end Entry

/-! ## No verdict depends on the ends -/

namespace Policy

variable {p : Policy} {e : Entry} {after : Duration}

/-- **A saturated window is as good as the exact one**: both lie beyond every age. -/
theorem lt_add_iff (now : Instant) (d d' : Duration) :
    e.age now < d + d' ↔ (e.age now).nanos < d.nanos + d'.nanos := by
  have h := e.age_lt_longest now
  show (e.age now).nanos < min (d.nanos + d'.nanos) Duration.longest ↔ _
  omega

/-- **The verdict in exact numbers** on an entry that is revalidated after some time. -/
theorem classify_of_after (p : Policy) (h : e.revalidate = .after after) (now : Instant) :
    p.classify (some e) now =
      Freshness.verdict (e.age now).nanos after.nanos (after.nanos + (p.graceFor after).nanos) := by
  have hfresh : e.age now < after ↔ ((e.age now).nanos : Int) < after.nanos := by
    rw [Int.ofNat_lt]
    rfl
  have hstale : e.age now < after + p.graceFor after ↔
      ((e.age now).nanos : Int) < after.nanos + (p.graceFor after).nanos := by
    rw [lt_add_iff]
    omega
  simp only [classify, h, hfresh, hstale, Freshness.verdict]

/-- Time takes no verdict back. -/
theorem classify_noLater (p : Policy) (e : Entry) {now now' : Instant} (h : now ≤ now') :
    (p.classify (some e) now).NoLater (p.classify (some e) now') := by
  cases hr : e.revalidate with
  | never =>
    simp only [classify, hr]
    decide
  | always =>
    simp only [classify, hr]
    decide
  | after after =>
    rw [classify_of_after p hr, classify_of_after p hr]
    exact Freshness.verdict_noLater (Int.ofNat_le.mpr (e.age_mono h)) (Int.le_refl _)

/-- A longer grace makes no verdict later. -/
theorem classify_noLater_of_grace (e : Entry) {g g' : Duration} (h : g ≤ g') (now : Instant) :
    (classify ⟨some g'⟩ (some e) now).NoLater (classify ⟨some g⟩ (some e) now) := by
  cases hr : e.revalidate with
  | never =>
    simp only [classify, hr]
    decide
  | always =>
    simp only [classify, hr]
    decide
  | after after =>
    rw [classify_of_after _ hr, classify_of_after _ hr]
    have hg : g.nanos ≤ g'.nanos := h
    refine Freshness.verdict_noLater (Int.le_refl _) ?_
    show (after.nanos + g.nanos : Int) ≤ after.nanos + g'.nanos
    omega

/-- **Freshness is exact and only ages.** An entry that is revalidated after some time has the
verdict that unbounded arithmetic gives, whatever the grace and wherever the two instants lie in the
calendar. Its age is exact and no sum or difference leaves its range. Whatever the entry's mode, no
verdict on it is taken back by time, and a longer grace does not make one later. -/
theorem ages_exactly (p : Policy) (e : Entry) :
    (∀ after, e.revalidate = .after after → ∀ now : Instant,
      let age : Int := max 0 (now.nanos - e.created.nanos)
      let window : Int := after.nanos + (p.staleGrace.getD after).nanos
      (p.classify (some e) now = .fresh ↔ age < after.nanos) ∧
      (p.classify (some e) now = .stale ↔ after.nanos ≤ age ∧ age < window) ∧
      (p.classify (some e) now = .hardExpired ↔ window ≤ age)) ∧
    (∀ now : Instant,
      (e.age now).nanos = max 0 (now.nanos - e.created.nanos) ∧
      (now.nanos - e.created.nanos).toNat < Duration.longest ∧
      -9223372036854775808 ≤ (now.nanos - e.created.nanos) / 1000000000 ∧
      (now.nanos - e.created.nanos) / 1000000000 < 9223372036854775808) ∧
    (∀ now now' : Instant, now ≤ now' →
      (p.classify (some e) now).NoLater (p.classify (some e) now')) ∧
    (∀ (g g' : Duration) (now : Instant), g ≤ g' →
      (classify ⟨some g'⟩ (some e) now).NoLater (classify ⟨some g⟩ (some e) now)) := by
  refine ⟨fun after h now => ?_, fun now => ?_, fun now now' h => classify_noLater p e h,
    fun g g' now h => classify_noLater_of_grace e h now⟩
  · rw [classify_of_after p h now, e.age_eq now]
    refine ⟨Freshness.verdict_eq_fresh_iff, Freshness.verdict_eq_stale_iff,
      Freshness.verdict_eq_hardExpired_iff ?_⟩
    exact Int.le_add_of_nonneg_right (Int.natCast_nonneg _)
  · have h₁ := e.created.ge_first
    have h₂ := e.created.le_last
    have h₃ := now.ge_first
    have h₄ := now.le_last
    exact ⟨e.age_eq now, Instant.toNat_sub_lt_longest now e.created, by omega, by omega⟩

/-- The first moment of the calendar. -/
def firstMoment : Instant := ⟨-377705116800000000000, by decide, by decide⟩

/-- The last moment of the calendar. -/
def lastMoment : Instant := ⟨253402300799999999999, by decide, by decide⟩

/-- The longest duration there is. -/
def longestDuration : Duration := ⟨Duration.longest, Nat.le_refl _⟩

/-- An entry that is revalidated after `after`. -/
def timedEntry (created : Instant) (after : Duration) : Entry where
  key := ⟨"home"⟩
  body := "home page".toUTF8
  created := created
  revalidate := .after after
  tags := ∅
  generation := 1

/-- At the limits: the oldest entry there can be, with the longest time and the longest grace, is
fresh; an entry from the far end of the calendar, revalidated at once, is stale. -/
theorem ages_exactly_at_limits :
    let oldest := timedEntry firstMoment longestDuration
    let ahead := timedEntry lastMoment Duration.zero
    let p : Policy := ⟨some longestDuration⟩
    p.classify (some oldest) lastMoment = .fresh ∧
    p.classify (some ahead) firstMoment = .stale ∧
    (classify ⟨some .zero⟩ (some ahead) firstMoment = .hardExpired) ∧
    (p.classify (some oldest) firstMoment).NoLater (p.classify (some oldest) lastMoment) ∧
    (p.classify (some ahead) firstMoment).NoLater
      (classify ⟨some .zero⟩ (some ahead) firstMoment) := by
  intro oldest ahead p
  obtain ⟨holdest, -, hlater, -⟩ := ages_exactly p oldest
  obtain ⟨hahead, -, -, hgrace⟩ := ages_exactly p ahead
  obtain ⟨hzero, -, -, -⟩ := ages_exactly ⟨some .zero⟩ ahead
  exact ⟨(holdest _ rfl lastMoment).1.mpr (by decide),
    (hahead _ rfl firstMoment).2.1.mpr (by decide),
    (hzero _ rfl firstMoment).2.2.mpr (by decide),
    hlater firstMoment lastMoment (by decide),
    hgrace .zero longestDuration firstMoment (by decide)⟩

end Policy

end PageCache
