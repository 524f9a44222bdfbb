import Mathlib.Tactic.Common
import PageCache.Files.Program

/-!
# Programs that are disturbed

A program over files may be broken off after any of its calls, and each of its calls may fail. A call
that fails has had no effect, but for a write, which may have put some bytes there. `Runs` has all
ways in which a program can go, with the result if it comes to its end; that of `FileProgram.run` is
the one without faults.

What holds at the end of every way is proved along the program: `Ends` is a condition on the result
and the tree, with one rule for each form of a program.
-/

namespace PageCache

/-- The errors with which a call may fail. That nothing is there is no failure of a reading or a
removal, but its answer. -/
def FileCall.MayFail : FileCall → IoError → Prop
  | .read _, e => e ≠ .notFound
  | .remove _, e => e ≠ .notFound
  | _, _ => True

namespace FileProgram

variable {α β : Type} {faults : Prop} {t t' : FileTree}

/-- The ways in which a program can go: the tree at its beginning, its result unless it is broken
off, and the tree afterwards. -/
inductive Runs (faults : Prop) : FileProgram α → FileTree → Option α → FileTree → Prop where
  /-- it comes to its end -/
  | done {a t} : Runs faults (.done a) t (some a) t
  /-- it is broken off -/
  | stopped {p t} : faults → Runs faults p t none t
  /-- a call is answered -/
  | answered {c next t out t'} : Runs faults (next (t.answer c).1) (t.answer c).2 out t' →
      Runs faults (.call c next) t out t'
  /-- a call fails without effect -/
  | failed {c next t e out t'} : faults → c.MayFail e → Runs faults (next (.error e)) t out t' →
      Runs faults (.call c next) t out t'
  /-- a write fails after having put some bytes there -/
  | torn {p bytes next t part t₁ e out t'} : faults → t.write p part = .ok t₁ →
      Runs faults (next (.error e)) t₁ out t' → Runs faults (.call (.write p bytes) next) t out t'

/-- What holds of the result, if there is one, and of the tree, however the program goes. -/
def Ends (faults : Prop) (p : FileProgram α) (t : FileTree)
    (Q : Option α → FileTree → Prop) : Prop :=
  ∀ out t', Runs faults p t out t' → Q out t'

/-- The way without faults is a way. -/
theorem Runs.of_run (p : FileProgram α) (t : FileTree) :
    Runs faults p t (some (p.run t).1) (p.run t).2 := by
  induction p generalizing t with
  | done a => exact .done
  | call c next ih => exact .answered (ih _ _)

theorem Runs.of_run_eq {p : FileProgram α} {a : α} (h : p.run t = (a, t')) :
    Runs faults p t (some a) t' := by
  have hway : Runs faults p t _ _ := .of_run p t
  rwa [h] at hway

/-- What holds in all ways holds of the way without faults. -/
theorem Ends.run {p : FileProgram α} {Q : Option α → FileTree → Prop} (h : Ends faults p t Q) :
    Q (some (p.run t).1) (p.run t).2 := h _ _ (.of_run p t)

theorem Ends.mono {p : FileProgram α} {Q Q' : Option α → FileTree → Prop} (h : Ends faults p t Q)
    (hq : ∀ out t', Q out t' → Q' out t') : Ends faults p t Q' :=
  fun out t' hr => hq out t' (h out t' hr)

/-! ## Rules -/

variable {Q : Option α → FileTree → Prop}

/-- A program without calls. -/
theorem ends_done {a : α} (hdone : Q (some a) t) (hstop : faults → Q none t) :
    Ends faults (done a) t Q := by
  intro out t' hr
  cases hr with
  | done => exact hdone
  | stopped hf => exact hstop hf

/-- A call that is no write. -/
theorem ends_call {c : FileCall} {next : Except IoError c.Answer → FileProgram α}
    (hc : ∀ p bytes, c ≠ .write p bytes) (hstop : faults → Q none t)
    (hanswer : Ends faults (next (t.answer c).1) (t.answer c).2 Q)
    (hfail : ∀ e, faults → c.MayFail e → Ends faults (next (.error e)) t Q) :
    Ends faults (call c next) t Q := by
  intro out t' hr
  cases hr with
  | stopped hf => exact hstop hf
  | answered h => exact hanswer out t' h
  | failed hf he h => exact hfail _ hf he out t' h
  | torn _ _ _ => exact absurd rfl (hc _ _)

/-- A write. -/
theorem ends_write {p : Path} {bytes : ByteArray}
    {next : Except IoError Unit → FileProgram α} (hstop : faults → Q none t)
    (hanswer : Ends faults (next (t.answer (.write p bytes)).1) (t.answer (.write p bytes)).2 Q)
    (hfail : ∀ e, faults → Ends faults (next (.error e)) t Q)
    (htorn : ∀ part t₁ e, faults → t.write p part = .ok t₁ → Ends faults (next (.error e)) t₁ Q) :
    Ends faults (call (.write p bytes) next) t Q := by
  intro out t' hr
  cases hr with
  | stopped hf => exact hstop hf
  | answered h => exact hanswer out t' h
  | failed hf _ h => exact hfail _ hf out t' h
  | torn hf hw h => exact htorn _ _ _ hf hw out t' h

/-- A program that goes on with another is broken off in the first, or in the second. -/
theorem runs_bind {p : FileProgram α} {f : α → FileProgram β} {out : Option β}
    (h : Runs faults (p.bind f) t out t') :
    (out = none ∧ Runs faults p t none t') ∨
      ∃ a t₁, Runs faults p t (some a) t₁ ∧ Runs faults (f a) t₁ out t' := by
  induction p generalizing t with
  | done a => exact .inr ⟨a, t, .done, h⟩
  | call c next ih =>
    have hrest : ∀ {r t₀}, Runs faults ((next r).bind f) t₀ out t' →
        (∀ {o t₁}, Runs faults (next r) t₀ o t₁ → Runs faults (call c next) t o t₁) →
        (out = none ∧ Runs faults (call c next) t none t') ∨
          ∃ a t₁, Runs faults (call c next) t (some a) t₁ ∧ Runs faults (f a) t₁ out t' := by
      intro r t₀ h hstep
      rcases ih r h with ⟨rfl, hr⟩ | ⟨a, t₁, hr, hr'⟩
      · exact .inl ⟨rfl, hstep hr⟩
      · exact .inr ⟨a, t₁, hstep hr, hr'⟩
    cases h with
    | stopped hf => exact .inl ⟨rfl, .stopped hf⟩
    | answered h => exact hrest h .answered
    | failed hf he h => exact hrest h (.failed hf he)
    | torn hf hw h => exact hrest h (.torn hf hw)

/-- One program after another. -/
theorem ends_bind {p : FileProgram α} {f : α → FileProgram β} {Q : Option β → FileTree → Prop}
    (h : Ends faults p t fun out t₁ =>
      match out with
      | none => Q none t₁
      | some a => Ends faults (f a) t₁ Q) : Ends faults (p.bind f) t Q := by
  intro out t' hrun
  rcases runs_bind hrun with ⟨rfl, hfirst⟩ | ⟨a, t₁, hfirst, hsecond⟩
  · exact h none t' hfirst
  · exact h (some a) t₁ hfirst out t' hsecond

end FileProgram

end PageCache
