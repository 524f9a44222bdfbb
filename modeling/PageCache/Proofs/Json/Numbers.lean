import PageCache.Json.Parser
import Mathlib.Tactic.Common

/-!
# Numbers in JSON

What `Json.writeNumber` writes of a whole number below `2 ^ 64` is read back by `Json.readNumber`,
provided that what stands behind it does not go on with the number.
-/

namespace PageCache.Json

/-- What stands behind a number does not go on with it. -/
def EndsNumber (rest : List Char) : Prop :=
  ∀ c ∈ rest.head?, c.isDigit = false ∧ c ≠ '.' ∧ c ≠ 'e' ∧ c ≠ 'E'

/-- Digits are read up to what is no digit. -/
theorem digits_append {ds rest : List Char} (hds : ∀ c ∈ ds, c.isDigit = true)
    (hrest : EndsNumber rest) : digits (ds ++ rest) = (ds, rest) := by
  have hstop : rest.takeWhile Char.isDigit = [] ∧ rest.dropWhile Char.isDigit = rest := by
    cases rest with
    | nil => exact ⟨rfl, rfl⟩
    | cons c rest =>
      have hc := (hrest c rfl).1
      simp [hc]
  rw [digits, List.takeWhile_append_of_pos hds, List.dropWhile_append_of_pos hds, hstop.1, hstop.2,
    List.append_nil]

/-- The value of digits is at least what stands before them. -/
theorem le_ofDigitChars (ds : List Char) (n : Nat) : n ≤ Nat.ofDigitChars 10 ds n := by
  induction ds generalizing n with
  | nil => simp
  | cons c ds ih =>
    rw [Nat.ofDigitChars_cons]
    have h := ih (10 * n + (c.toNat - '0'.toNat))
    omega

/-- Digits that fit sixty-four bits are all kept. -/
theorem keepDigits_of_lt {ds : List Char} {n : Nat}
    (h : Nat.ofDigitChars 10 ds n < 18446744073709551616) :
    keepDigits n ds = (Nat.ofDigitChars 10 ds n, 0) := by
  induction ds generalizing n with
  | nil => simp [keepDigits]
  | cons c ds ih =>
    rw [Nat.ofDigitChars_cons] at h ⊢
    have hle := le_ofDigitChars ds (10 * n + (c.toNat - '0'.toNat))
    have hlt : 10 * n + decimalDigit c < 18446744073709551616 := Nat.lt_of_le_of_lt hle h
    rw [keepDigits, if_pos hlt]
    exact ih h

/-- A number other than zero is not written with a leading zero. -/
theorem head?_toDigits {n : Nat} (h : 0 < n) : (Nat.toDigits 10 n).head? ≠ some '0' := by
  induction n using Nat.strongRecOn with
  | ind n ih =>
    by_cases hn : n < 10
    · rw [Nat.toDigits_of_lt_base hn]
      have hall : ∀ m < 10, 0 < m → [Nat.digitChar m].head? ≠ some '0' := by decide
      exact hall n hn h
    · rw [Nat.toDigits_of_base_le (by decide) (Nat.le_of_not_lt hn), List.head?_append]
      have hhead := ih (n / 10) (by omega) (by omega)
      cases hd : (Nat.toDigits 10 (n / 10)).head? with
      | none => exact absurd (List.head?_eq_none_iff.mp hd) Nat.toDigits_ne_nil
      | some c =>
        rw [hd] at hhead
        exact hhead

/-- A number is written without needless zeros. -/
theorem no_leading_zero (n : Nat) :
    ((Nat.toDigits 10 n).isEmpty ||
      ((Nat.toDigits 10 n).head? = some '0' && (Nat.toDigits 10 n).length ≠ 1)) = false := by
  have hne : (Nat.toDigits 10 n).isEmpty = false := by
    rw [List.isEmpty_eq_false_iff]
    exact Nat.toDigits_ne_nil
  cases Nat.eq_zero_or_pos n with
  | inl hz =>
    subst hz
    rfl
  | inr hpos =>
    simp [hne, head?_toDigits hpos]

/-- Nothing that follows is taken for an exponent. -/
theorem readExponent_of_ends {rest : List Char} (h : EndsNumber rest) :
    readExponent rest = some (none, rest) := by
  cases rest with
  | nil => rfl
  | cons c rest =>
    obtain ⟨-, -, he, hE⟩ := h c rfl
    simp [readExponent, he, hE]

/-- The digits of a number are read back. -/
theorem readDigits {m : Nat} (hlt : m < 18446744073709551616) :
    (∀ c ∈ Nat.toDigits 10 m, c.isDigit = true) ∧ keepDigits 0 (Nat.toDigits 10 m) = (m, 0) := by
  refine ⟨fun c hc => Nat.isDigit_of_mem_toDigits (by decide) (by decide) hc, ?_⟩
  have hvalue : Nat.ofDigitChars 10 (Nat.toDigits 10 m) 0 = m := Nat.ofDigitChars_ten_toDigits
  have hkeep := keepDigits_of_lt (Nat.lt_of_le_of_lt (Nat.le_of_eq hvalue) hlt)
  rwa [hvalue] at hkeep

/-- **A written number** is read back. -/
theorem readNumber_writeNumber {n : JsonNumber} (hexact : n.isExact = true)
    (hlt : n.decimal.mantissa < 18446744073709551616) {rest : List Char}
    (hrest : EndsNumber rest) : readNumber (writeNumber n ++ rest) = some (n, rest) := by
  obtain ⟨isWhole, negative, m, exponent⟩ := n
  simp only [JsonNumber.isExact, Bool.and_eq_true, decide_eq_true_eq] at hexact
  obtain ⟨rfl, rfl⟩ := hexact
  obtain ⟨hdigit, hkeep⟩ := readDigits hlt
  have hdigits := digits_append hdigit hrest
  have hexponent := readExponent_of_ends hrest
  have hzero := no_leading_zero m
  simp only at hkeep
  cases negative with
  | true =>
    simp only [readNumber, writeNumber, Nat.toList_repr, if_true, List.cons_append,
      List.nil_append, hdigits, hzero, hkeep]
    rw [if_neg Bool.false_ne_true]
    split
    · exact absurd rfl (hrest '.' rfl).2.1
    · simp [hexponent, keepDigits]
  | false =>
    have hne : Nat.toDigits 10 m ≠ [] := Nat.toDigits_ne_nil
    obtain ⟨d, ds, hcons⟩ := List.exists_cons_of_ne_nil hne
    have hminus : d ≠ '-' := by
      rintro rfl
      exact absurd (hdigit '-' (hcons ▸ List.mem_cons_self ..)) (by decide)
    simp only [readNumber, writeNumber, Nat.toList_repr, if_false, Bool.false_eq_true,
      List.nil_append]
    rw [hcons] at hdigits hzero hkeep ⊢
    rw [List.cons_append] at hdigits ⊢
    have hsign : ∀ r, d :: (ds ++ rest) = '-' :: r → False := fun r h => hminus (List.cons.inj h).1
    simp only [hdigits, hzero, hkeep]
    rw [if_neg Bool.false_ne_true]
    split
    · exact absurd rfl (hrest '.' rfl).2.1
    · simp [hexponent, keepDigits]

end PageCache.Json
