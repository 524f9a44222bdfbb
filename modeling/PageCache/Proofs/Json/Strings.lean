import PageCache.Proofs.Json.Octets

/-!
# Strings in JSON

What `Json.writeString` writes is read back by `Json.readText`, whatever the string is and whatever
stands behind it.
-/

namespace PageCache

/-- A digit has its value, also where capital ones are read. -/
theorem Hex.anyCaseValue?_digit : ∀ n < 16, Hex.anyCaseValue? (Hex.digit n) = some n := by decide

/-- A digit is an ASCII character, and not the first of them. -/
theorem Hex.digit_ascii : ∀ n < 16, 0 < (Hex.digit n).toNat ∧ (Hex.digit n).toNat < 0x80 := by
  decide

namespace Json

/-- A byte that stands for itself in a string. -/
structure Bare (x : Char) : Prop where
  /-- it is no control character -/
  ge : 0x20 ≤ x.toNat
  /-- it does not end the string -/
  ne_quote : x ≠ '"'
  /-- it does not begin an escape -/
  ne_backslash : x ≠ '\\'

/-- What has been read behind some bytes. -/
def behind (before : List Char) : Option (List Char × List Char) → Option (List Char × List Char) :=
  Option.map fun p => (before ++ p.1, p.2)

@[simp] theorem behind_nil (r : Option (List Char × List Char)) : behind [] r = r := by
  cases r <;> rfl

@[simp] theorem behind_some (before s rest : List Char) :
    behind before (some (s, rest)) = some (before ++ s, rest) := rfl

theorem behind_append (a b : List Char) (r : Option (List Char × List Char)) :
    behind (a ++ b) r = behind a (behind b r) := by
  cases r with
  | none => rfl
  | some p => simp [behind]

/-- A bare byte is read as itself. -/
theorem readOctets_bare {x : Char} (h : Bare x) (rest : List Char) :
    readOctets (x :: rest) = behind [x] (readOctets rest) := by
  have hctl : ¬ x.toNat < 0x20 := Nat.not_lt.mpr h.ge
  rw [readOctets.eq_def]
  split
  · rename_i heq
    cases heq
  · rename_i heq
    cases heq
    exact absurd rfl h.ne_quote
  · rename_i heq
    cases heq
    exact absurd rfl h.ne_backslash
  · rename_i heq
    cases heq
    exact absurd rfl h.ne_backslash
  · rename_i heq
    cases heq
    rw [if_neg hctl]
    rfl

/-- Bare bytes are read as themselves. -/
theorem readOctets_bares {xs : List Char} (h : ∀ x ∈ xs, Bare x) (rest : List Char) :
    readOctets (xs ++ rest) = behind xs (readOctets rest) := by
  induction xs with
  | nil => simp
  | cons x xs ih =>
    have hx := h x (List.mem_cons_self ..)
    have hxs := ih fun y hy => h y (List.mem_cons_of_mem x hy)
    rw [List.cons_append, readOctets_bare hx, hxs, ← behind_append, List.singleton_append]

/-- The bytes of a character that needs no escape stand for themselves. -/
theorem bare_of_mem_octetsOf {c x : Char} (h : Bare c) (hx : x ∈ octetsOf c) : Bare x := by
  by_cases hc : c.toNat < 0x80
  · rw [octetsOf_of_ascii hc, List.mem_singleton] at hx
    exact hx ▸ h
  · have hge := ge_of_mem_octetsOf hc hx
    refine ⟨by omega, ?_, ?_⟩
    · rintro rfl
      exact absurd hge (by decide)
    · rintro rfl
      exact absurd hge (by decide)

/-- The escape of a control character by its number. -/
theorem unit?_of_lt {n : Nat} (h : n < 0x20) :
    unit? '0' '0' (Hex.digit (n / 16)) (Hex.digit (n % 16)) = some n := by
  have hhigh : n / 16 < 16 := by omega
  have hlow : n % 16 < 16 := by omega
  have hzero : Hex.anyCaseValue? '0' = some 0 := by decide
  simp only [unit?, hzero, Hex.anyCaseValue?_digit _ hhigh, Hex.anyCaseValue?_digit _ hlow,
    Option.bind_eq_bind, Option.bind_some]
  congr 1
  omega

/-- A short escape is read as what it stands for. -/
theorem readOctets_short {e c : Char} (he : e ≠ 'u') (h : short? e = some c) (rest : List Char) :
    readOctets ('\\' :: e :: rest) = behind [c] (readOctets rest) := by
  rw [readOctets.eq_def]
  split
  · rename_i heq
    cases heq
  · rename_i heq
    cases heq
  · rename_i heq
    cases heq
    exact absurd rfl he
  · rename_i heq
    cases heq
    rw [h]
    rfl
  · rename_i hne heq
    cases heq
    exact absurd rfl (hne e rest rfl)

/-- The escape of a control character is read as the character. -/
theorem readOctets_unit {n : Nat} (h : n < 0x20) (rest : List Char) :
    readOctets ('\\' :: 'u' :: '0' :: '0' :: Hex.digit (n / 16) :: Hex.digit (n % 16) :: rest) =
      behind (octetsOf (Char.ofNat n)) (readOctets rest) := by
  rw [readOctets, unit?_of_lt h]
  have hbelow : (n < 0xd800 || 0xe000 ≤ n) = true := by
    simp only [Bool.or_eq_true, decide_eq_true_eq]
    omega
  simp only [hbelow]
  rfl

/-- A character that is written as a short escape is read back. -/
theorem readOctets_escape_short {e c : Char} (he : e ≠ 'u') (h : short? e = some c)
    (hasc : e.toNat < 0x80 ∧ c.toNat < 0x80) (rest : List Char) :
    readOctets (['\\', e].flatMap octetsOf ++ rest) = behind (octetsOf c) (readOctets rest) := by
  have hbackslash : octetsOf '\\' = ['\\'] := octetsOf_of_ascii (by decide)
  rw [octetsOf_of_ascii hasc.2, ← readOctets_short he h]
  simp only [List.flatMap_cons, List.flatMap_nil, hbackslash, octetsOf_of_ascii hasc.1,
    List.cons_append, List.nil_append]

/-- **A written character** is read back. -/
theorem readOctets_escape (c : Char) (rest : List Char) :
    readOctets ((escape c).flatMap octetsOf ++ rest) = behind (octetsOf c) (readOctets rest) := by
  unfold escape
  split
  -- the short escapes
  iterate 7 exact readOctets_escape_short (by decide) rfl (by decide) rest
  rename_i hquote hbackslash _ _ _ _ _
  split
  · rename_i hctl
    have hasc : ∀ x ∈ ['\\', 'u', '0', '0', Hex.digit (c.toNat / 16), Hex.digit (c.toNat % 16)],
        x.toNat < 0x80 := by
      have hhigh := (Hex.digit_ascii (c.toNat / 16) (by omega)).2
      have hlow := (Hex.digit_ascii (c.toNat % 16) (by omega)).2
      simp only [List.forall_mem_cons, List.not_mem_nil, false_implies, implies_true, and_true]
      exact ⟨by decide, by decide, by decide, by decide, hhigh, hlow⟩
    rw [flatMap_octetsOf_of_ascii hasc]
    exact (readOctets_unit hctl rest).trans (by rw [Char.ofNat_toNat])
  · rename_i hctl
    have hbare : Bare c := ⟨Nat.le_of_not_lt hctl, hquote, hbackslash⟩
    rw [List.flatMap_cons, List.flatMap_nil, List.append_nil]
    exact readOctets_bares (fun x hx => bare_of_mem_octetsOf hbare hx) rest

/-- The characters of a string are read up to the quote behind them. -/
theorem readOctets_escaped (cs rest : List Char) :
    readOctets ((cs.flatMap escape).flatMap octetsOf ++ '"' :: rest) =
      some (cs.flatMap octetsOf, rest) := by
  induction cs with
  | nil => rfl
  | cons c cs ih =>
    rw [List.flatMap_cons, List.flatMap_append, List.append_assoc, readOctets_escape, ih,
      List.flatMap_cons]
    rfl

/-- **A written string** is read back, whatever it is. -/
theorem readText_writeString (s : String) (rest : List Char) :
    ∃ inner, (writeString s).flatMap octetsOf ++ rest = '"' :: inner ∧
      readText inner = some (s, rest) := by
  have hquote : octetsOf '"' = ['"'] := octetsOf_of_ascii (by decide)
  refine ⟨(s.toList.flatMap escape).flatMap octetsOf ++ '"' :: rest, ?_, ?_⟩
  · simp only [writeString, List.cons_append, List.flatMap_cons, List.flatMap_append,
      List.flatMap_nil, hquote, List.append_assoc, List.nil_append]
  · simp only [readText, readOctets_escaped, textOf?_flatMap_octetsOf, String.ofList_toList,
      Option.bind_eq_bind, Option.bind_some, Option.pure_def]

end Json

end PageCache
