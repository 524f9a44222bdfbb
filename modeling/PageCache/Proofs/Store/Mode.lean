import PageCache.Policy
import PageCache.Proofs.Store.Shown

/-!
# The mode that is read back

A record has a number of milliseconds or none for the mode of its entry, and `0` stands for an entry
that is stale at every access. So a mode is read back as it was, but for one that is `Brief`: a time
below a millisecond is cut to `0`.

* `Revalidate.toMillis_eq_zero_iff` — what is persisted as `0`;
* `Revalidate.mode_ofMillis_toMillis_iff` — the modes that come back;
* `Revalidate.brief_ofDuration_iff` and its neighbours — which of the modes that are made of
  durations and numbers are brief: only those of a duration;
* `DiskStore.mode_kept_unless_brief` — what has been put into a folder is read back in its mode.
-/

namespace PageCache

namespace Revalidate

/-- A mode without its time. -/
inductive Mode where
  /-- it never expires -/
  | never
  /-- it is stale at every access -/
  | always
  /-- it is stale from some age on -/
  | after
deriving DecidableEq

/-- The mode of a way to age. -/
def mode : Revalidate → Mode
  | .never => .never
  | .always => .always
  | .after _ => .after

/-- The time is below a millisecond. -/
def Brief (r : Revalidate) : Prop := ∃ d, r = .after d ∧ d.nanos < 1000000

variable {r : Revalidate} {d : Duration}

@[simp] theorem mode_after : (after d).mode = .after := rfl

@[simp] theorem brief_after_iff : (after d).Brief ↔ d.nanos < 1000000 := by simp [Brief]

@[simp] theorem not_brief_never : ¬ never.Brief := by simp [Brief]

@[simp] theorem not_brief_always : ¬ always.Brief := by simp [Brief]

/-! ## The persisted form -/

theorem toMillis_eq_none_iff : r.toMillis = none ↔ r = .never := by
  cases r <;> simp [toMillis]

/-- Only what is below a millisecond is cut to `0`; the bound from above is not `0`. -/
theorem min_millis_eq_zero_iff : min d.millis maxMillis = 0 ↔ d.nanos < 1000000 := by
  unfold Duration.millis maxMillis
  omega

/-- **What is persisted as `0`** is what is always stale, and what is brief. -/
theorem toMillis_eq_zero_iff : r.toMillis = some 0 ↔ r = .always ∨ r.Brief := by
  cases r with
  | never => simp [toMillis]
  | always => simp [toMillis]
  | after d => simp only [toMillis, Option.some_inj, min_millis_eq_zero_iff, reduceCtorEq, false_or,
      brief_after_iff]

/-- A brief time is read back as none. -/
theorem ofMillis_toMillis_of_brief (h : r.Brief) : ofMillis r.toMillis = .always := by
  rw [toMillis_eq_zero_iff.mpr (.inr h)]
  rfl

/-- Any other time is read back cut to whole milliseconds. -/
theorem ofMillis_toMillis_after (h : ¬ (after d).Brief) :
    ofMillis (after d).toMillis = .after (.ofMillis (min d.millis maxMillis)) := by
  have hpositive := mt min_millis_eq_zero_iff.mp (mt brief_after_iff.mpr h)
  simp only [toMillis, ofMillis, Option.map_some, ofDuration?, ofDuration]
  rw [if_neg]
  intro hzero
  have hmillis := Duration.millis_ofMillis (Nat.min_le_right d.millis maxMillis)
  rw [Duration.millis, hzero] at hmillis
  exact hpositive hmillis.symm

/-- **The modes that come back** are those that are not brief. -/
theorem mode_ofMillis_toMillis_iff : (ofMillis r.toMillis).mode = r.mode ↔ ¬ r.Brief := by
  cases r with
  | never => exact iff_of_true rfl not_brief_never
  | always => exact iff_of_true rfl not_brief_always
  | after d =>
    by_cases h : (after d).Brief
    · rw [ofMillis_toMillis_of_brief h]
      exact iff_of_false nofun (not_not_intro h)
    · rw [ofMillis_toMillis_after h, mode_after, mode_after]
      exact iff_of_true rfl h

/-! ## The modes that are made -/

/-- **Of a duration** the mode is brief if the duration is, and is not none at all. -/
theorem brief_ofDuration_iff : (ofDuration d).Brief ↔ 0 < d.nanos ∧ d.nanos < 1000000 := by
  unfold ofDuration
  split
  · rename_i hzero
    exact iff_of_false not_brief_always fun h => Nat.ne_of_gt h.1 hzero
  · rename_i hpositive
    rw [brief_after_iff]
    exact (and_iff_right (Nat.pos_of_ne_zero hpositive)).symm

theorem brief_ofDuration?_iff {o : Option Duration} :
    (ofDuration? o).Brief ↔ ∃ d, o = some d ∧ 0 < d.nanos ∧ d.nanos < 1000000 := by
  cases o with
  | none => simp [ofDuration?]
  | some d => simp [ofDuration?, brief_ofDuration_iff]

/-- **Of so many seconds** it is not. -/
theorem not_brief_afterSecs (n : Nat) : ¬ (afterSecs n).Brief := by
  unfold afterSecs
  rw [brief_ofDuration_iff]
  simp only [Duration.ofSecs, Duration.ofNanos, Duration.longest]
  omega

/-- **Of so many milliseconds** it is not. -/
theorem not_brief_ofMillis (ms : Option Nat) : ¬ (ofMillis ms).Brief := by
  unfold ofMillis
  rw [brief_ofDuration?_iff]
  rintro ⟨d, hd, hpositive, hbrief⟩
  obtain ⟨n, -, rfl⟩ := Option.map_eq_some_iff.mp hd
  simp only [Duration.ofMillis, Duration.ofNanos, Duration.longest] at hpositive hbrief
  omega

end Revalidate

namespace DiskStore

open FileProgram FileTree Revalidate

variable {s : DiskStore} {t t' : FileTree} {files : Files} {e : Entry} {o : Option Generation}
  {bodyToken recordToken : String}

/-- **The mode is kept**, unless it is brief. An entry that has been stored in a folder, with
whatever other files and whatever faults, is read back in the mode it had, exactly if its time is
not below a millisecond. One that is brief is read back stale at every access. Only a duration below
a millisecond makes a mode brief, no number of seconds or milliseconds does. -/
theorem mode_kept_unless_brief (h : Holds t s.root files) (hbt : IsToken bodyToken)
    (hrt : IsToken recordToken) (hg : e.generation < 18446744073709551616)
    (hput : Runs True (s.put bodyToken recordToken e o) t (some (.ok .stored)) t') :
    (e.revalidate.toMillis = none ↔ e.revalidate = .never) ∧
    (e.revalidate.toMillis = some 0 ↔ e.revalidate = .always ∨ e.revalidate.Brief) ∧
    (∃ back, (s.get e.key).run t' = (.ok (some back), t') ∧
      (∀ found t'', Runs True (s.get e.key) t' (some (.ok found)) t'' →
        found = some back ∧ t'' = t') ∧
      (back.revalidate.mode = e.revalidate.mode ↔ ¬ e.revalidate.Brief) ∧
      (∀ d, e.revalidate = .after d → ¬ e.revalidate.Brief →
        back.revalidate = .after (.ofMillis (min d.millis maxMillis))) ∧
      (e.revalidate.Brief → back.revalidate = .always ∧
        ∀ (p : Policy) now, p.classify (some back) now = .stale)) ∧
    (∀ d, (ofDuration d).Brief ↔ 0 < d.nanos ∧ d.nanos < 1000000) ∧
    (∀ o, (ofDuration? o).Brief ↔ ∃ d, o = some d ∧ 0 < d.nanos ∧ d.nanos < 1000000) ∧
    (∀ n, ¬ (afterSecs n).Brief) ∧
    ∀ ms, ¬ (ofMillis ms).Brief := by
  obtain ⟨files', h', hlies⟩ := lies_of_put_stored h hbt hrt hg hput
  have hget : ∀ {faults : Prop},
      Ends faults (s.get e.key) t' (Reads faults t' (· = some e.persisted)) :=
    ends_get_of_lies (e := e.persisted) h' hlies
  refine ⟨toMillis_eq_none_iff, toMillis_eq_zero_iff, ⟨e.persisted, ?_, fun found t'' hfound => ?_,
      mode_ofMillis_toMillis_iff, fun d hd hlong => ?_, fun hbrief => ?_⟩,
    fun _ => brief_ofDuration_iff, fun _ => brief_ofDuration?_iff, not_brief_afterSecs,
    not_brief_ofMillis⟩
  · obtain ⟨_, _, hrun, rfl, rfl⟩ := run_ok hget
    exact hrun
  · obtain ⟨rfl, rfl⟩ := hget _ _ hfound
    exact ⟨rfl, rfl⟩
  · show ofMillis e.revalidate.toMillis = _
    rw [hd] at hlong ⊢
    exact ofMillis_toMillis_after hlong
  · have hback : e.persisted.revalidate = .always := ofMillis_toMillis_of_brief hbrief
    refine ⟨hback, fun p now => ?_⟩
    simp only [Policy.classify, hback]

/-- In an empty folder every entry of a first generation is stored. -/
theorem put_cacheFolder (hg : 0 < e.generation ∧ e.generation < 18446744073709551616) :
    ∃ t₁, (cacheFolder.put (stagingToken 0) (stagingToken 1) e none).run bareTree =
        (.ok .stored, t₁) ∧
      (cacheFolder.get e.key).run t₁ = (.ok (some e.persisted), t₁) := by
  obtain ⟨t₁, files, hrun, h₁, hlies⟩ := lies_of_put_cacheFolder hg
  have hget : Ends False (cacheFolder.get e.key) t₁ _ :=
    ends_get_of_lies (e := e.persisted) h₁ hlies
  obtain ⟨_, t₂, hrun', rfl, rfl⟩ := run_ok hget
  exact ⟨_, hrun, hrun'⟩

/-- Half a millisecond. -/
def halfMilli : Duration := ⟨500000, by decide⟩

/-- A millisecond and a half. -/
def threeHalfMillis : Duration := ⟨1500000, by decide⟩

/-- An entry that is revalidated after some time. -/
def revalidatedEntry (d : Duration) : Entry := { homeEntry with revalidate := .ofDuration d }

/-- A time of a millisecond and a half is read back as one, half a millisecond as none. -/
theorem mode_kept_from_a_millisecond_on :
    let long := revalidatedEntry threeHalfMillis
    let short := revalidatedEntry halfMilli
    (∃ t₁ back, (cacheFolder.put (stagingToken 0) (stagingToken 1) long none).run bareTree =
        (.ok .stored, t₁) ∧
      (cacheFolder.get long.key).run t₁ = (.ok (some back), t₁) ∧
      back.revalidate = .after (.ofMillis 1)) ∧
    ∃ t₁ back, (cacheFolder.put (stagingToken 0) (stagingToken 1) short none).run bareTree =
        (.ok .stored, t₁) ∧
      (cacheFolder.get short.key).run t₁ = (.ok (some back), t₁) ∧ back.revalidate = .always := by
  intro long short
  have hempty := FileTree.holds_of_list_nil ready_cacheFolder.empty ready_cacheFolder.room
  have hlong : long.revalidate = .after threeHalfMillis := rfl
  have hshort : short.revalidate = .after halfMilli := rfl
  have hmilli : min threeHalfMillis.millis maxMillis = 1 := rfl
  obtain ⟨t₁, hput₁, -⟩ := put_cacheFolder (e := long) (by decide)
  obtain ⟨-, -, ⟨back₁, hget₁, -, -, hafter, -⟩, -⟩ := mode_kept_unless_brief hempty
    (isToken_stagingToken 0) (isToken_stagingToken 1) (by decide) (.of_run_eq hput₁)
  obtain ⟨t₂, hput₂, -⟩ := put_cacheFolder (e := short) (by decide)
  obtain ⟨-, -, ⟨back₂, hget₂, -, -, -, halways⟩, -⟩ := mode_kept_unless_brief hempty
    (isToken_stagingToken 0) (isToken_stagingToken 1) (by decide) (.of_run_eq hput₂)
  rw [hlong, brief_after_iff] at hafter
  rw [hshort, brief_after_iff] at halways
  have hback₁ := hafter _ rfl (by decide)
  rw [hmilli] at hback₁
  exact ⟨⟨t₁, back₁, hput₁, hget₁, hback₁⟩, t₂, back₂, hput₂, hget₂, (halways (by decide)).1⟩

/-- An entry that is fresh for half a millisecond is made, is persisted as one that is always stale,
and is read back as such: at the moment at which it was made it is fresh as it was written and stale
as it is read. -/
theorem half_millisecond_read_as_always :
    let e := revalidatedEntry halfMilli
    e.revalidate = ofDuration halfMilli ∧ e.revalidate.toMillis = some 0 ∧ e.revalidate ≠ .always ∧
    ∃ t₁ back, (cacheFolder.put (stagingToken 0) (stagingToken 1) e none).run bareTree =
        (.ok .stored, t₁) ∧
      (cacheFolder.get e.key).run t₁ = (.ok (some back), t₁) ∧
      back.revalidate.mode ≠ e.revalidate.mode ∧
      Policy.classify ⟨none⟩ (some e) .epoch = .fresh ∧
      Policy.classify ⟨none⟩ (some back) .epoch = .stale := by
  intro e
  have hbrief : e.revalidate.Brief :=
    (brief_ofDuration_iff (d := halfMilli)).mpr (by decide)
  have hback : e.persisted.revalidate = .always := ofMillis_toMillis_of_brief hbrief
  obtain ⟨t₁, hput, hget⟩ := put_cacheFolder (e := e) (by decide)
  refine ⟨rfl, toMillis_eq_zero_iff.mpr (.inr hbrief), nofun, t₁, _, hput, hget, ?_, by decide, ?_⟩
  · rw [hback]
    nofun
  · simp only [Policy.classify, hback]

end DiskStore

end PageCache
