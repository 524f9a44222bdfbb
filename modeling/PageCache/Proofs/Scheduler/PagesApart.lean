import PageCache.Proofs.Key
import PageCache.Proofs.Scheduler.Answers

/-!
# Pages apart

A scheduler goes by the key of a request alone: what is stored and what is rendered for one request
is served for every other of its key. Requests for pages whose keys tell them apart have nothing in
common:

* `Boards.not_both`, `Obtains.not_both` — calls of different keys board no flight together, and no
  entry is given to both;
* `pages_apart` — so it is for requests for different pages, if each page is plain and the two cannot
  be confused.
-/

namespace PageCache

open LawfulStore

namespace Scheduler

namespace EventRun

variable {ρ σ : Type} [Store σ] {r : EventRun ρ σ} {c d : TaskId} {f : FlightId} {k j : Key}
  {x y : ρ} {p q : Call} {policy : Policy} {renderTimeout : Duration}

/-- The call leads the flight or joins it, whether it waits for it or has been served already. -/
def Boards (r : EventRun ρ σ) (c : TaskId) (f : FlightId) : Prop :=
  ∃ i, r.Leads i c f ∨ r.Joins i c f

/-- A call that boards a flight has read, and the flight is under way and of its key. -/
theorem Boards.flying (h : r.Boards c f) (h₀ : (r.state 0).1 = new policy renderTimeout) :
    ∃ k x found, (∃ i ≤ r.length, (r.state i).1.tasks[c]? = some (.call k x (.read found))) ∧
      ∃ i ≤ r.length, (r.state i).1.Flying k f := by
  obtain ⟨i, h | h⟩ := h
  · obtain ⟨m, k, x, found, -, hb, -⟩ := h.boarding
    exact ⟨k, x, found, ⟨i, Nat.le_of_lt h.lt, hb.read⟩,
      i + 1, h.lt, ((r.oneFlight h₀ (i + 1) h.lt).1 k f).mp hb.recorded⟩
  · obtain ⟨k, x, found, now, -, hread, -, hrecorded⟩ := h.recorded
    have hi := Nat.le_of_lt h.lt
    exact ⟨k, x, found, ⟨i, hi, hread⟩, i, hi, ((r.oneFlight h₀ i hi).1 k f).mp hrecorded⟩

/-- What a call boards is a flight of its key. -/
theorem Boards.flight (h : r.Boards c f) (h₀ : (r.state 0).1 = new policy renderTimeout)
    (hc : (r.state r.length).1.tasks[c]? = some (.call k x p)) :
    ∃ o z u, (r.state r.length).1.tasks[f]? = some (.flight k o z u) := by
  obtain ⟨_, _, found, ⟨n, hn, hread⟩, i, hi, hflying⟩ := h.flying h₀
  obtain ⟨_, hc', -⟩ := (r.later hn (Nat.le_refl _)).call hread
  cases hc'.symm.trans hc
  obtain ⟨o, z, u, hf, -⟩ := flying_iff.mp hflying
  obtain ⟨u', hf', -⟩ := (r.later hi (Nat.le_refl _)).flight hf
  exact ⟨o, z, u', hf'⟩

/-- **Flights.** Calls of different keys board no flight together. -/
theorem Boards.not_both (h : r.Boards c f) (h₀ : (r.state 0).1 = new policy renderTimeout)
    (hc : (r.state r.length).1.tasks[c]? = some (.call k x p))
    (hd : (r.state r.length).1.tasks[d]? = some (.call j y q)) (hkj : k ≠ j) : ¬ r.Boards d f := by
  intro h'
  obtain ⟨_, _, _, hf⟩ := h.flight h₀ hc
  obtain ⟨_, _, _, hf'⟩ := h'.flight h₀ hd
  cases hf.symm.trans hf'
  exact hkj rfl

variable [LawfulStore σ]

/-- The call has the entry from the store, or from a flight that it waits for. -/
def Obtains (r : EventRun ρ σ) (c : TaskId) (k : Key) (e : Entry) : Prop :=
  r.Reads r.length c k (some e) ∨ ∃ found f, r.Awaits r.length c k found f (.ok e)

/-- What a call has is an entry of its key. -/
theorem Obtains.key_eq {e : Entry} (h : r.Obtains c k e)
    (h₀ : (r.state 0).1 = new policy renderTimeout) (hv : Valid (r.state 0).2) : e.key = k := by
  have hvalid : ∀ i ≤ r.length, Valid (r.state i).2 := fun i hi => (r.standing h₀ hv i hi).valid
  rcases h with hread | ⟨found, f, hawaits⟩
  · exact hread.key_eq hvalid (Nat.le_refl _)
  · obtain hread | ⟨i, -, o, x, out, now, -, -, rfl⟩ := hawaits.source hvalid h₀ (Nat.le_refl _)
    · exact hread.key_eq hvalid (Nat.le_refl _)
    · rfl

/-- **Entries.** No entry is given to calls of different keys. -/
theorem Obtains.not_both {e : Entry} (h : r.Obtains c k e)
    (h₀ : (r.state 0).1 = new policy renderTimeout) (hv : Valid (r.state 0).2) (hkj : k ≠ j) :
    ¬ r.Obtains d j e :=
  fun h' => hkj ((h.key_eq h₀ hv).symm.trans (h'.key_eq h₀ hv))

end EventRun

open EventRun

variable {σ : Type} [Store σ] [LawfulStore σ] {a b : Page}

/-- **Pages apart.** Two pages that are plain and cannot be confused have one key only if they are
one page. However the lookups of requests for two such pages interleave, whatever fails and whatever
else is looked up, renderings of the one are never given to the other: the calls board no flight
together, and no entry is given to both. -/
theorem pages_apart (ha : a.Plain) (hb : b.Plain) (hab : ¬ a.Confusable b)
    (hba : ¬ b.Confusable a) :
    (a.key = b.key → a = b) ∧
    ∀ (r : EventRun RouteRequest σ) (policy : Policy) (renderTimeout : Duration),
      (r.state 0).1 = new policy renderTimeout → Valid (r.state 0).2 →
      ∀ (x y : RouteRequest), x.IsFor a → y.IsFor b → a ≠ b →
      ∀ (c d : TaskId) (p q : Call),
        (r.state r.length).1.tasks[c]? = some (.call x.key x p) →
        (r.state r.length).1.tasks[d]? = some (.call y.key y q) →
        (∀ f, r.Boards c f → ¬ r.Boards d f) ∧
        ∀ e, r.Obtains c x.key e → ¬ r.Obtains d y.key e := by
  refine ⟨Page.key_inj ha hb hab hba,
    fun r policy renderTimeout h₀ hv x y hx hy hne c d p q hc hd => ?_⟩
  have hkeys : x.key ≠ y.key := by
    rw [hx.eq, hy.eq]
    exact mt (Page.key_inj ha hb hab hba) hne
  exact ⟨fun f h => h.not_both h₀ hc hd hkeys, fun e h => h.not_both h₀ hv hkeys⟩

/-- A page in a language. -/
def englishPage : Page := ⟨"/a", ∅, some "en"⟩

/-- The second page of the same route. -/
def secondPage : Page := ⟨"/a", .ofList [("page", "2")], none⟩

theorem plain_englishPage : englishPage.Plain where
  locale l h := by
    cases h
    decide
  route := by decide
  params := nofun

theorem plain_secondPage : secondPage.Plain where
  locale l h := by cases h
  route := by decide
  params p h := by
    cases List.mem_singleton.mp h
    decide

/-- The request for the first one. -/
def englishRequest : RouteRequest := (RouteRequest.ofRoute "/a" ∅).localized "en"

/-- The request for the other. -/
def secondRequest : RouteRequest := .ofRoute "/a" (.ofList [("page", "2")])

/-- Both are looked up at once, and each lookup starts a flight. -/
def bothPages : List (Event RouteRequest) :=
  [.move (.lookup ⟨"en:/a"⟩ englishRequest), .move (.lookup ⟨"/a?page=2"⟩ secondRequest),
    .move (.storeCall 0 (.get ⟨"en:/a"⟩) none), .move (.storeCall 1 (.get ⟨"/a?page=2"⟩) none),
    .move (.proceed 0 .epoch), .move (.proceed 1 .epoch)]

/-- The run of these events over an empty store. -/
def bothPagesRun : EventRun RouteRequest MemoryStore :=
  .ofList (new ⟨none⟩ (.ofSecs 5), .unbounded) bothPages rfl

theorem pages_apart_when_both_missed :
    englishPage.key ≠ secondPage.key ∧ bothPagesRun.Boards 0 2 ∧ ¬ bothPagesRun.Boards 1 2 := by
  obtain ⟨hkey, hruns⟩ := pages_apart (σ := MemoryStore) plain_englishPage plain_secondPage
    (fun h => by cases h.bare) (fun h => absurd h.colon (by decide))
  obtain ⟨hflights, -⟩ := hruns bothPagesRun ⟨none⟩ (.ofSecs 5) rfl
    MemoryStore.distinct_unbounded
    englishRequest secondRequest (.localized "en" (.ofRoute "/a" ∅)) (.ofRoute "/a" _) (by decide)
    0 1 (.waiting none 2) (.waiting none 3) rfl rfl
  have hboards : bothPagesRun.Boards 0 2 := ⟨4, .inl ⟨by decide, rfl, rfl, _, _, _, _, rfl⟩⟩
  exact ⟨fun h => absurd (hkey h) (by decide), hboards, hflights 2 hboards⟩

end Scheduler

end PageCache
