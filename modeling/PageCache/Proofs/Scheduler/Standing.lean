import PageCache.Proofs.Scheduler.Contents
import PageCache.Proofs.Scheduler.Flying
import PageCache.Proofs.Scheduler.Served

/-!
# What always holds

The facts about a scheduler over a store that keeps its promises on which the larger results build:
one flight a key, a flight for each wait, and an entry to be written that was made for its flight's
key and for what its flight observed. `Standing` has them all, and `EventRun.standing` and
`MoveRun.standing` say that they hold all along a run.
-/

namespace PageCache

open LawfulStore

/-- The phase holds an entry that the flight has rendered. -/
inductive Flight.Holds (e : Entry) : Flight → Prop where
  /-- it is still to be written -/
  | committing : Flight.Holds e (.committing e)
  /-- it is written -/
  | committed : Flight.Holds e (.committed e)

namespace Scheduler

variable {ρ σ : Type}

/-! ## The entry of a flight -/

/-- What a flight has rendered is an entry made for its key and for what it observed. -/
def Rendered (s : Scheduler ρ) : Prop :=
  ∀ ⦃f : FlightId⦄ ⦃k : Key⦄ ⦃o : Option Generation⦄ ⦃x : ρ⦄ ⦃p : Flight⦄ ⦃e : Entry⦄,
    s.tasks[f]? = some (.flight k o x p) → p.Holds e → ∃ out now, e = entryOf k o out now

theorem rendered_new (policy : Policy) (renderTimeout : Duration) :
    Rendered (new policy renderTimeout : Scheduler ρ) := by
  intro f k o x p e h
  cases h

variable [Store σ]

/-- **One move** keeps what flights have rendered. -/
theorem Rendered.of_transition {s s' : Scheduler ρ} {st st' : σ} {m : Move ρ} (h : Rendered s)
    (ht : Transition s st m s' st') : Rendered s' := by
  intro f k o x p e hf hp
  cases hp with
  | committing =>
    obtain hf₀ | ⟨-, out, now, -, he⟩ := ht.committing hf
    · exact h hf₀ .committing
    · exact ⟨out, now, he⟩
  | committed =>
    obtain hf₀ | ⟨hf₀, -⟩ := ht.committed hf
    · exact h hf₀ .committed
    · exact h hf₀ .committing

/-- **One event** keeps what flights have rendered: a flight that breaks down has nothing to be
written any more. -/
theorem Rendered.of_occurs {s s' : Scheduler ρ} {st st' : σ} {e : Event ρ} (h : Rendered s)
    (he : Occurs s st e s' st') : Rendered s' := by
  cases he with
  | moved ht => exact h.of_transition ht
  | flightBroke hid _ =>
    intro f k o x p e hf hp
    obtain ⟨-, ht⟩ | hf := of_getElem?_setTask hid hf
    · cases ht
      cases hp
    · exact h hf hp
  | callBroke hid _ =>
    intro f k o x p e hf hp
    obtain ⟨-, ht⟩ | hf := of_getElem?_setTask hid hf
    · cases ht
    · exact h hf hp
  | otherBroke _ _ => exact h

/-! ## All together -/

/-- What always holds of a scheduler and its store. -/
structure Standing [LawfulStore σ] (s : Scheduler ρ) (st : σ) : Prop where
  /-- a key has one flight -/
  oneFlight : OneFlight s
  /-- a wait has a flight -/
  awaited : Awaited s
  /-- what is to be written was made for its flight -/
  rendered : Rendered s
  /-- the store is in a state that it can be in -/
  valid : Valid st

variable [LawfulStore σ]

theorem standing_new (policy : Policy) (renderTimeout : Duration) {st : σ} (hv : Valid st) :
    Standing (new policy renderTimeout : Scheduler ρ) st :=
  ⟨oneFlight_new policy renderTimeout, awaited_new policy renderTimeout,
    rendered_new policy renderTimeout, hv⟩

/-- **One move** keeps what always holds. -/
theorem Standing.of_transition {s s' : Scheduler ρ} {st st' : σ} {m : Move ρ} (h : Standing s st)
    (ht : Transition s st m s' st') : Standing s' st' where
  oneFlight := h.oneFlight.of_transition ht
  awaited := h.awaited.of_occurs h.oneFlight (.moved ht)
  rendered := h.rendered.of_transition ht
  valid := (ht.change h.valid).1

/-- **One event** keeps what always holds. -/
theorem Standing.of_occurs {s s' : Scheduler ρ} {st st' : σ} {e : Event ρ} (h : Standing s st)
    (he : Occurs s st e s' st') : Standing s' st' where
  oneFlight := h.oneFlight.of_occurs he
  awaited := h.awaited.of_occurs h.oneFlight he
  rendered := h.rendered.of_occurs he
  valid := by
    cases he with
    | moved ht => exact (ht.change h.valid).1
    | _ => exact h.valid

/-- **A whole run** keeps what always holds. -/
theorem EventRun.standing (r : EventRun ρ σ) {policy : Policy} {renderTimeout : Duration}
    (h₀ : (r.state 0).1 = new policy renderTimeout) (hv : Valid (r.state 0).2) :
    ∀ i ≤ r.length, Standing (r.state i).1 (r.state i).2 := by
  refine r.invariant (P := fun y => Standing y.1 y.2) ?_ ?_
  · rw [h₀]
    exact standing_new policy renderTimeout hv
  · intro y e y' he h
    exact h.of_occurs (.of_happen he)

theorem MoveRun.standing (r : MoveRun ρ σ) {policy : Policy} {renderTimeout : Duration}
    (h₀ : (r.state 0).1 = new policy renderTimeout) (hv : Valid (r.state 0).2) :
    ∀ i ≤ r.length, Standing (r.state i).1 (r.state i).2 := by
  refine r.invariant (P := fun y => Standing y.1 y.2) ?_ ?_
  · rw [h₀]
    exact standing_new policy renderTimeout hv
  · intro y m y' hm h
    exact h.of_transition (.of_moved hm)

/-- The entry that a flight is about to write is of its key. -/
theorem Standing.key_of_holds {s : Scheduler ρ} {st : σ} (h : Standing s st) {f : FlightId}
    {k : Key} {o : Option Generation} {x : ρ} {p : Flight} {e : Entry}
    (hf : s.tasks[f]? = some (.flight k o x p)) (hp : p.Holds e) : e.key = k := by
  obtain ⟨out, now, rfl⟩ := h.rendered hf hp
  rfl

/-- What is held under a key was held before, or a flight of the key has just stored it over the
generation that it was started for. -/
theorem Transition.held_or_stored {s s' : Scheduler ρ} {st st' : σ} {m : Move ρ} {k : Key}
    {e : Entry} (ht : Transition s st m s' st') (hs : Standing s st) (he : held st' k = some e) :
    held st k = some e ∨
      ∃ (f : FlightId) (o : Option Generation) (x : ρ) (e' : Entry),
        s.tasks[f]? = some (.flight k o x (.committing e')) ∧ (held st).generation k = o ∧
          s'.tasks[f]? = some (.flight k o x (.committed e')) ∧ e = kept σ e' := by
  cases (ht.change hs.valid).2 with
  | nothing hheld => exact .inl (hheld ▸ he)
  | deleted hheld =>
    rw [hheld] at he
    exact .inl (Contents.eq_of_without he).2
  | @stored f j o x e' _ hf hg _ htakes =>
    obtain ⟨hk, rfl⟩ | ⟨-, he⟩ := htakes.eq_or he
    · rw [key_kept, hs.key_of_holds hf .committing] at hk
      subst hk
      rw [hs.key_of_holds hf .committing] at hg
      exact .inr ⟨f, o, x, e', hf, hg, getElem?_setTask_self hf _, rfl⟩
    · exact .inl he

end Scheduler

end PageCache
