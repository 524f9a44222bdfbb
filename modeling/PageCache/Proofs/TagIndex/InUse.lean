import PageCache.Proofs.TagIndex.Sweep

/-!
# An index in use

An index is changed by whoever links and unlinks keys, and by any number of purges, compactions and
rebuilds that go on at once and give way to everything else at each of their calls on a store. What
the store answers is part of what happens, so nothing is assumed of it (`InUse.step`): it may fail
at any call, and say of a key one thing now and another thing later.

* `Sweep.Sound.take`, `Sweep.Sound.proceed` — what one step of a sweep keeps;
* `InUse.Sound.step` — what everything that can happen keeps;
* `InUse.linked_both_ways` — so in every run from the empty index both maps show the same links.

All this takes of the store is that no listing gives a key twice. A rebuild that reads a key again
would record other tags for it and keep the links to those it has recorded before, on one side only.
-/

namespace PageCache

/-! ## Sweeps over an index -/

/-- A sweep that changes the index. -/
inductive Sweep where
  /-- the purge of a tag -/
  | purge (phase : Purge)
  /-- a compaction -/
  | compaction (phase : Compaction)
  /-- a rebuild -/
  | rebuild (phase : Rebuild)

/-- What a store answers a sweep. -/
inductive SweepAnswer where
  /-- to the deletion of a key, which a purge chooses among those that are due -/
  | deleted (key : Key) (answer : Except StoreError Bool)
  /-- to the reading of a key, which a compaction chooses among those that are due -/
  | read (key : Key) (answer : Except StoreError (Option Entry))
  /-- to the listing of all keys -/
  | listed (answer : Except StoreError (List Key))
  /-- to the reading of the key that is next in the listing -/
  | readNext (answer : Except StoreError (Option Entry))

/-- No key is listed twice. -/
def SweepAnswer.ListsOnce : SweepAnswer → Prop
  | listed (.ok keys) => keys.Nodup
  | _ => True

instance : DecidablePred SweepAnswer.ListsOnce
  | .listed (.ok keys) => inferInstanceAs (Decidable keys.Nodup)
  | .listed (.error _) | .deleted .. | .read .. | .readNext _ => isTrue trivial

namespace Sweep

/-- Take an answer of the store. -/
def take : Sweep → SweepAnswer → Option Sweep
  | purge p, .deleted k answer => (p.visit k answer).map purge
  | compaction c, .read k answer => (c.visit k answer).map compaction
  | rebuild r, .listed answer => (r.listed answer).map rebuild
  | rebuild r, .readNext answer => (r.visit answer).map rebuild
  | _, _ => none

/-- Go on without the store. -/
def proceed : Sweep → TagIndex → Option (Sweep × TagIndex)
  | purge p, x => (p.proceed x).map fun (p, x, _) => (.purge p, x)
  | compaction c, x => (c.proceed x).map fun (c, x) => (.compaction c, x)
  | rebuild r, _ => r.proceed.map fun (r, x) => (.rebuild r, x)

/-- What a rebuild has recorded is a consistent index of the keys that it has read. -/
def Sound : Sweep → Prop
  | rebuild (.reading due built) => built.Consistent ∧ built.Records due
  | _ => True

variable {s s' : Sweep} {x x' : TagIndex} {answer : SweepAnswer}

/-- **An answer** leaves a sweep sound, if it does not list a key twice. -/
theorem Sound.take (h : s.Sound) (honce : answer.ListsOnce) (htake : s.take answer = some s') :
    s'.Sound := by
  cases s with
  | purge p =>
    cases answer with
    | deleted k answer =>
      obtain ⟨p', -, rfl⟩ := Option.map_eq_some_iff.mp htake
      trivial
    | _ => cases htake
  | compaction c =>
    cases answer with
    | read k answer =>
      obtain ⟨c', -, rfl⟩ := Option.map_eq_some_iff.mp htake
      trivial
    | _ => cases htake
  | rebuild r =>
    cases answer with
    | listed answer =>
      obtain ⟨r', hlisted, rfl⟩ := Option.map_eq_some_iff.mp htake
      cases r' with
      | reading due built =>
        obtain ⟨rfl, rfl⟩ := Rebuild.of_listed hlisted
        exact ⟨.empty, TagIndex.records_empty honce⟩
      | _ => trivial
    | readNext answer =>
      obtain ⟨r', hvisit, rfl⟩ := Option.map_eq_some_iff.mp htake
      cases r' with
      | reading due' built' =>
        -- only a rebuild that reads can be answered so
        cases r with
        | reading due built =>
          cases due with
          | nil => cases hvisit
          | cons k due =>
            obtain ⟨found, rfl, rfl, rfl⟩ := Rebuild.of_visit hvisit
            exact ⟨h.1.record h.2 found, h.2.record found⟩
        | _ => cases hvisit
      | _ => trivial
    | _ => cases htake

/-- **Going on** leaves a sweep sound and the index consistent. -/
theorem Sound.proceed (h : s.Sound) (hx : x.Consistent) (hnext : s.proceed x = some (s', x')) :
    s'.Sound ∧ x'.Consistent := by
  cases s with
  | purge p =>
    obtain ⟨⟨p', y, n⟩, hp, he⟩ := Option.map_eq_some_iff.mp hnext
    obtain ⟨rfl, rfl⟩ := Prod.mk.inj he
    refine ⟨trivial, ?_⟩
    cases p with
    | answered t due n k answer =>
      cases answer with
      | ok removed =>
        cases hp
        exact hx
      | error e =>
        cases hp
        exact hx.linkKeys t _
    | deleting t due n =>
      obtain ⟨-, he⟩ := Option.ite_none_right_eq_some.mp hp
      cases he
      exact hx
    | finished result => cases hp
  | compaction c =>
    obtain ⟨⟨c', y⟩, hc, he⟩ := Option.map_eq_some_iff.mp hnext
    obtain ⟨rfl, rfl⟩ := Prod.mk.inj he
    refine ⟨trivial, ?_⟩
    cases c with
    | missing k due n =>
      cases hc
      exact hx.forget k
    | reading due n =>
      obtain ⟨-, he⟩ := Option.ite_none_right_eq_some.mp hc
      cases he
      exact hx
    | finished result => cases hc
  | rebuild r =>
    obtain ⟨⟨r', y⟩, hr, he⟩ := Option.map_eq_some_iff.mp hnext
    obtain ⟨rfl, rfl⟩ := Prod.mk.inj he
    cases r with
    | reading due built =>
      cases due with
      | nil =>
        cases hr
        exact ⟨trivial, h.1⟩
      | cons k due => cases hr
    | _ => cases hr

end Sweep

/-! ## Everything that can happen -/

/-- An index and all sweeps over it so far, by number. -/
structure InUse where
  /-- the index -/
  index : TagIndex
  /-- the sweeps -/
  sweeps : List Sweep

namespace InUse

/-- The empty index, over which no sweep goes yet. -/
def new : InUse := ⟨∅, []⟩

/-- What can happen to an index in use. -/
inductive Event where
  /-- a tag and a key are linked -/
  | associate (tag : Tag) (key : Key)
  /-- some tags become the only ones of a key -/
  | replaceTags (key : Key) (tags : SortedSet Tag)
  /-- every link of a key is dropped -/
  | forget (key : Key)
  /-- the purge of a tag begins -/
  | purge (tag : Tag)
  /-- a compaction begins -/
  | compact
  /-- a rebuild begins -/
  | rebuild
  /-- a sweep is answered by the store -/
  | answer (sweep : Nat) (answer : SweepAnswer)
  /-- a sweep goes on without the store -/
  | proceed (sweep : Nat)
deriving Inhabited

/-- What happens lists no key twice. -/
def Event.ListsOnce : Event → Prop
  | answer _ a => a.ListsOnce
  | _ => True

instance : DecidablePred Event.ListsOnce
  | .answer _ a => inferInstanceAs (Decidable a.ListsOnce)
  | .associate .. | .replaceTags .. | .forget _ | .purge _ | .compact | .rebuild | .proceed _ =>
    isTrue trivial

/-- The index in use after an event; nothing if the event is not open. -/
def step (y : InUse) : Event → Option InUse
  | .associate t k => some { y with index := y.index.link t k }
  | .replaceTags k ts => some { y with index := y.index.replaceTags k ts }
  | .forget k => some { y with index := (y.index.forget k).2 }
  | .purge t =>
    let (p, x) := Purge.start y.index t
    some ⟨x, y.sweeps ++ [.purge p]⟩
  | .compact => some { y with sweeps := y.sweeps ++ [.compaction (.start y.index)] }
  | .rebuild => some { y with sweeps := y.sweeps ++ [.rebuild .listing] }
  | .answer i a =>
    (y.sweeps[i]?.bind (·.take a)).map fun s => { y with sweeps := y.sweeps.set i s }
  | .proceed i =>
    (y.sweeps[i]?.bind (·.proceed y.index)).map fun (s, x) => ⟨x, y.sweeps.set i s⟩

/-- The index is consistent, and so is what rebuilds have recorded. -/
structure Sound (y : InUse) : Prop where
  /-- the index is consistent -/
  index : y.index.Consistent
  /-- every sweep is sound -/
  sweeps : ∀ s ∈ y.sweeps, s.Sound

theorem sound_new : new.Sound := ⟨.empty, fun _ hs => nomatch hs⟩

variable {y y' : InUse} {e : Event}

/-- **Everything that can happen** keeps an index in use sound. -/
theorem Sound.step (h : y.Sound) (honce : e.ListsOnce) (hstep : y.step e = some y') :
    y'.Sound := by
  have hbegun : ∀ s₀ : Sweep, s₀.Sound → ∀ s ∈ y.sweeps ++ [s₀], s.Sound := by
    intro s₀ hs₀ s hs
    obtain hs | rfl := List.mem_append.mp hs |>.imp_right List.mem_singleton.mp
    · exact h.sweeps s hs
    · exact hs₀
  have hset : ∀ i (s₀ : Sweep), s₀.Sound → ∀ s ∈ y.sweeps.set i s₀, s.Sound := by
    intro i s₀ hs₀ s hs
    obtain hs | rfl := List.mem_or_eq_of_mem_set hs
    · exact h.sweeps s hs
    · exact hs₀
  cases e with
  | associate t k =>
    cases hstep
    exact ⟨h.index.link t k, h.sweeps⟩
  | replaceTags k ts =>
    cases hstep
    exact ⟨h.index.replaceTags k ts, h.sweeps⟩
  | forget k =>
    cases hstep
    exact ⟨h.index.forget k, h.sweeps⟩
  | purge t =>
    cases hstep
    exact ⟨h.index.detach t, hbegun _ trivial⟩
  | compact =>
    cases hstep
    exact ⟨h.index, hbegun _ trivial⟩
  | rebuild =>
    cases hstep
    exact ⟨h.index, hbegun _ trivial⟩
  | answer i a =>
    obtain ⟨s', htake, rfl⟩ := Option.map_eq_some_iff.mp hstep
    obtain ⟨s, hs, htake⟩ := Option.bind_eq_some_iff.mp htake
    exact ⟨h.index, hset i s' ((h.sweeps s (List.mem_of_getElem? hs)).take honce htake)⟩
  | proceed i =>
    obtain ⟨⟨s', x'⟩, hnext, rfl⟩ := Option.map_eq_some_iff.mp hstep
    obtain ⟨s, hs, hnext⟩ := Option.bind_eq_some_iff.mp hnext
    obtain ⟨hs', hx'⟩ := (h.sweeps s (List.mem_of_getElem? hs)).proceed h.index hnext
    exact ⟨hx', hset i s' hs'⟩

/-- **A whole run** from the empty index keeps it sound. -/
theorem sound_of_run (r : Run step) (h₀ : r.state 0 = new)
    (honce : ∀ i < r.length, (r.event i).ListsOnce) {n : Nat} (hn : n ≤ r.length) :
    (r.state n).Sound := by
  refine r.stays (P := Sound) (h₀ ▸ sound_new) ?_ n (Nat.zero_le n) hn
  intro i _ hi h
  exact h.step (honce i hi) (r.step i hi)

end InUse

/-! ## The main result -/

/-- The two maps of an index show the same links. -/
structure TagIndex.LinkedBothWays (x : TagIndex) : Prop where
  /-- a key is in the set of a tag exactly when the tag is in the set of the key -/
  linked : ∀ t k, (∃ ks, x.keysOf.get? t = some ks ∧ k ∈ ks) ↔
    ∃ ts, x.tagsOf.get? k = some ts ∧ t ∈ ts
  /-- no tag has an empty set -/
  keysOf : ∀ t ks, x.keysOf.get? t = some ks → ∃ k, k ∈ ks
  /-- no key has an empty set -/
  tagsOf : ∀ k ts, x.tagsOf.get? k = some ts → ∃ t, t ∈ ts
  /-- the keys of a tag are those whose tags have it -/
  inverse : ∀ t k, k ∈ x.keysForTag t ↔ t ∈ x.tagsForKey k
  /-- the tags that are counted are those with a key -/
  tagCount : {t | ∃ k, k ∈ x.keysForTag t}.encard = x.tagCount
  /-- the keys that are counted are those with a tag -/
  keyCount : {k | ∃ t, t ∈ x.tagsForKey k}.encard = x.keyCount

namespace SortedMap

variable {α β : Type} [LT α] [DecidableEq α] [LT β] [DecidableEq β]

/-- A member of the set of a name is one of a set that is bound. -/
theorem mem_bucket_iff {m : SortedMap α (SortedSet β)} {a : α} {b : β} :
    b ∈ m.bucket a ↔ ∃ s, m.get? a = some s ∧ b ∈ s := by
  unfold bucket
  cases m.get? a <;> simp

end SortedMap

/-- A consistent index shows its links both ways. -/
theorem TagIndex.Consistent.linkedBothWays {x : TagIndex} (h : x.Consistent) :
    x.LinkedBothWays where
  linked t k := by
    rw [← SortedMap.mem_bucket_iff, ← SortedMap.mem_bucket_iff]
    exact (h.coherent t k).symm
  keysOf t ks hks := SortedSet.exists_mem_of_isEmpty (h.keysOf t ks hks)
  tagsOf k ts hts := SortedSet.exists_mem_of_isEmpty (h.tagsOf k ts hts)
  inverse t k := (h.coherent t k).symm
  tagCount := h.keysOf.encard_names
  keyCount := h.tagsOf.encard_names

namespace InUse

/-- **Linked both ways.** However purges, compactions and rebuilds are interleaved with all else that
is done to an index that was empty at first, and whatever a store answers them, if it only lists no
key twice: a key is among the keys of a tag exactly when the tag is among the tags of the key, no
empty set is kept, and what is counted are the tags and the keys that have a link. -/
theorem linked_both_ways (r : Run step) (h₀ : r.state 0 = new)
    (honce : ∀ i < r.length, (r.event i).ListsOnce) {n : Nat} (hn : n ≤ r.length) :
    (r.state n).index.LinkedBothWays :=
  (sound_of_run r h₀ honce hn).index.linkedBothWays

/-- A page with two tags, as a store gives it. -/
def frontPage : Entry := { (default : Entry) with tags := .ofList ["news", "top"] }

/-- A purge, a compaction and a rebuild go on at once. The purge fails at a page that has been linked
again meanwhile, and links it once more; the compaction drops the links of a page that has got
another one meanwhile; the rebuild puts its index in the place of what has been linked last. -/
def threeSweeps : List Event :=
  [.associate "news" ⟨"home"⟩, .replaceTags ⟨"about"⟩ (.ofList ["news", "top"]),
    .purge "news", .compact, .rebuild,
    .answer 0 (.deleted ⟨"about"⟩ (.ok true)), .proceed 0, .replaceTags ⟨"home"⟩ (.ofList ["news"]),
    .answer 0 (.deleted ⟨"home"⟩ (.error (.unavailable "down"))), .proceed 0,
    .answer 1 (.read ⟨"about"⟩ (.ok none)), .associate "late" ⟨"about"⟩, .proceed 1, .proceed 1,
    .answer 2 (.listed (.ok [⟨"about"⟩, ⟨"home"⟩])), .answer 2 (.readNext (.ok none)),
    .associate "late" ⟨"home"⟩, .answer 2 (.readNext (.ok (some frontPage))), .proceed 2]

/-- The run of these events. -/
def threeSweepsRun : Run step := .ofList new threeSweeps rfl

theorem linked_both_ways_after_three_sweeps :
    (∀ i < threeSweepsRun.length, (threeSweepsRun.event i).ListsOnce) ∧
      (threeSweepsRun.state 10).index.LinkedBothWays ∧
      (threeSweepsRun.state 10).index.keyCount = 2 ∧
      (threeSweepsRun.state 19).index.LinkedBothWays ∧
      (threeSweepsRun.state 19).index.tagCount = 2 ∧
      (threeSweepsRun.state 19).index.keyCount = 1 := by
  have honce : ∀ i < threeSweepsRun.length, (threeSweepsRun.event i).ListsOnce := by decide +kernel
  exact ⟨honce, linked_both_ways threeSweepsRun rfl honce (by decide), by decide +kernel,
    linked_both_ways threeSweepsRun rfl honce (by decide), by decide +kernel, by decide +kernel⟩

end InUse

end PageCache
