import PageCache.Scheduler

/-!
# What a caller gets

A lookup serves an entry by a path. Its caller gets the bytes of the entry, its generation, the path,
whether a regeneration runs behind the answer, and the error that made an expired entry be served.
All of this is said here once, so that results about lookups need not be read through the functions
that put it together:

* `Served.IsOf` — what is served is of an entry, by a path; it says every part of it;
* `Delivers` — what a call that has waited gives its caller, by what it had read and by the result of
  its flight;
* `Entry.MadeOf` — what a flight makes of the output of its render.
-/

namespace PageCache

/-- What is served is of the entry, by this path, with or without a regeneration behind it, and with
what went wrong. -/
structure Served.IsOf (out : Served) (e : Entry) (status : CacheStatus) (revalidating : Bool)
    (degraded : Option LookupError) : Prop where
  /-- the bytes are the entry's -/
  body : out.body = e.body
  /-- so is the generation -/
  generation : out.generation = e.generation
  /-- the path -/
  status : out.status = status
  /-- whether a regeneration runs behind the answer -/
  revalidating : out.revalidating = revalidating
  /-- the error that made an expired entry be served -/
  degraded : out.degraded = degraded

/-- The result has the body and the generation of the entry. -/
def Served.Matches (out : Served) (e : Entry) : Prop :=
  out.body = e.body ∧ out.generation = e.generation

theorem Served.isOf_ofEntry (e : Entry) (status : CacheStatus) :
    (Served.ofEntry e status).IsOf e status false none := ⟨rfl, rfl, rfl, rfl, rfl⟩

theorem Served.isOf_stale (e : Entry) :
    Served.IsOf { Served.ofEntry e .stale with revalidating := true } e .stale true none :=
  ⟨rfl, rfl, rfl, rfl, rfl⟩

theorem Served.isOf_degraded (e : Entry) (err : LookupError) :
    Served.IsOf { Served.ofEntry e .expired with degraded := some err } e .expired false
      (some err) := ⟨rfl, rfl, rfl, rfl, rfl⟩

/-- The entry is what a flight of the key that was started for a generation makes of an output. -/
structure Entry.MadeOf (e : Entry) (k : Key) (observed : Option Generation) (o : RenderOutput)
    (now : Instant) : Prop where
  /-- it is of the key -/
  key : e.key = k
  /-- it has the bytes of the output -/
  body : e.body = o.body
  /-- it was made at the end of the render -/
  created : e.created = now
  /-- it ages as the output asks for -/
  revalidate : e.revalidate = o.revalidate
  /-- it has the tags of the output -/
  tags : e.tags = o.tags
  /-- it is one generation further, or of the first -/
  generation : e.generation = observed.getD 0 + 1

namespace Scheduler

/-- An entry is of the key that it was made for. -/
@[simp] theorem key_entryOf (k : Key) (o : Option Generation) (out : RenderOutput) (now : Instant) :
    (entryOf k o out now).key = k := rfl

/-- An entry is of the generation after the observed one, the first if none was observed. -/
theorem generation_entryOf (k : Key) (o : Option Generation) (out : RenderOutput) (now : Instant) :
    (entryOf k o out now).generation = o.getD 0 + 1 := by
  cases o <;> rfl

theorem madeOf_entryOf (k : Key) (o : Option Generation) (out : RenderOutput) (now : Instant) :
    (entryOf k o out now).MadeOf k o out now where
  key := rfl
  body := rfl
  created := rfl
  revalidate := rfl
  tags := rfl
  generation := generation_entryOf k o out now

/-- **What a call that has waited gives its caller**, who had read an entry or nothing before. -/
structure Delivers (found : Option Entry) (result : Except LookupError Entry)
    (out : Except LookupError Served) : Prop where
  /-- the entry of the flight is served, as the first one or in place of an expired one -/
  entry : ∀ e, result = .ok e → ∃ served, out = .ok served ∧
    served.IsOf e (if found.isSome then .expired else .miss) false none
  /-- if nothing had been read, the error of the flight is the caller's -/
  error : ∀ err, result = .error err → found = none → out = .error err
  /-- else what had been read is served, with the error of the flight beside it -/
  degraded : ∀ err e, result = .error err → found = some e → ∃ served, out = .ok served ∧
    served.IsOf e .expired false (some err)

theorem delivers_receive (found : Option Entry) (result : Except LookupError Entry) :
    Delivers found result (receive found result).1 where
  entry := by
    rintro e rfl
    cases found with
    | none => exact ⟨_, rfl, Served.isOf_ofEntry e .miss⟩
    | some e₀ => exact ⟨_, rfl, Served.isOf_ofEntry e .expired⟩
  error := by
    rintro err rfl rfl
    rfl
  degraded := by
    rintro err e rfl rfl
    exact ⟨_, rfl, Served.isOf_degraded e err⟩

/-- A page that is stale at every access. -/
def stalePage : RenderOutput := (RenderOutput.ofBody "draft".toUTF8).withRevalidate .always

end Scheduler

end PageCache
