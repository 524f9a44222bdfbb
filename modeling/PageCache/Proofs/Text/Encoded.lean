import PageCache.Proofs.Json.Octets
import PageCache.Text.Utf8

/-!
# Texts that are encoded

The reader of bytes that may be ill-formed finds every text again from its encoding:

* `characters_start`, `characters_more`, `characters_last` — the bytes of a character, one after the
  other;
* `characters_encoded` — so an encoded character is read, whatever stands behind it;
* `textOf_toUTF8` — and a text is.
-/

namespace PageCache.Utf8

/-! ## Beginnings -/

/-- A character of two bytes begins. -/
theorem start_two {b : Nat} (h : 0xc2 ≤ b) (h' : b < 0xe0) :
    start b = ([], some ⟨1, 0x80, 0xbf, b - 0xc0⟩) := by
  rw [start, if_neg (by omega), if_neg (by omega), if_pos h']

/-- A character of three bytes begins; what may come next depends on how it does. -/
theorem start_three {b : Nat} (h : 0xe0 ≤ b) (h' : b < 0xf0) :
    start b = ([], some ⟨2, if b = 0xe0 then 0xa0 else 0x80, if b = 0xed then 0x9f else 0xbf,
      b - 0xe0⟩) := by
  rw [start, if_neg (by omega), if_neg (by omega), if_neg (by omega)]
  by_cases hfirst : b = 0xe0
  · subst hfirst
    rfl
  · by_cases hsurrogate : b = 0xed
    · subst hsurrogate
      rfl
    · rw [if_neg hfirst, if_neg hsurrogate, if_pos h', if_neg hfirst, if_neg hsurrogate]

/-- A character of four bytes begins. -/
theorem start_four {b : Nat} (h : 0xf0 ≤ b) (h' : b ≤ 0xf4) :
    start b = ([], some ⟨3, if b = 0xf0 then 0x90 else 0x80, if b = 0xf4 then 0x8f else 0xbf,
      b - 0xf0⟩) := by
  obtain rfl | rfl | rfl | rfl | rfl : b = 0xf0 ∨ b = 0xf1 ∨ b = 0xf2 ∨ b = 0xf3 ∨ b = 0xf4 := by
    omega
  all_goals rfl

/-! ## Bytes -/

variable {n : Nat}

/-- A byte with which a character begins. -/
theorem characters_start {s : Begun} (hn : n < 256) (h : start n = ([], some s))
    (rest : List UInt8) :
    characters none (UInt8.ofNat n :: rest) = characters (some s) rest := by
  simp only [characters, next, UInt8.toNat_ofNat_of_lt' hn, h, List.nil_append]

/-- A byte behind which more are owed. -/
theorem characters_more {owed low high bits : Nat} (hn : n < 256) (h : low ≤ n) (h' : n ≤ high)
    (rest : List UInt8) :
    characters (some ⟨owed + 2, low, high, bits⟩) (UInt8.ofNat n :: rest) =
      characters (some ⟨owed + 1, 0x80, 0xbf, bits * 64 + (n - 0x80)⟩) rest := by
  simp only [characters, next, UInt8.toNat_ofNat_of_lt' hn, h, h', decide_true, Bool.and_self,
    if_true]
  rfl

/-- The last byte that is owed. -/
theorem characters_last {low high bits : Nat} (hn : n < 256) (h : low ≤ n) (h' : n ≤ high)
    (rest : List UInt8) :
    characters (some ⟨1, low, high, bits⟩) (UInt8.ofNat n :: rest) =
      Char.ofNat (bits * 64 + (n - 0x80)) :: characters none rest := by
  simp only [characters, next, UInt8.toNat_ofNat_of_lt' hn, h, h', decide_true, Bool.and_self,
    if_true, List.singleton_append]

/-! ## Texts -/

/-- **An encoded character** is read back. -/
theorem characters_encoded (c : Char) (rest : List UInt8) :
    characters none (String.utf8EncodeChar c ++ rest) = c :: characters none rest := by
  have hvalid : c.val.toNat.isValidChar := c.valid
  have hc : Char.ofNat c.val.toNat = c := c.ofNat_toNat
  rw [String.utf8EncodeChar]
  generalize c.val.toNat = v at hvalid hc ⊢
  rw [Nat.isValidChar] at hvalid
  -- as many bytes as the number of the character needs
  split
  · have hbyte : (UInt8.ofNat v).toNat = v := UInt8.toNat_ofNat_of_lt' (show v < 256 by omega)
    have hstart : start v = ([c], none) := by
      rw [start, if_pos (by omega), hc]
    simp only [List.singleton_append, characters, next, hbyte, hstart]
  · split
    · have hv : (v / 64 % 32 + 192 - 0xc0) * 64 + (v % 64 + 128 - 0x80) = v := by omega
      rw [List.cons_append, List.singleton_append,
        characters_start (by omega) (start_two (by omega) (by omega)),
        characters_last (by omega) (by omega) (by omega), hv, hc]
    · split
      · have hv : ((v / 4096 % 16 + 224 - 0xe0) * 64 + (v / 64 % 64 + 128 - 0x80)) * 64 +
            (v % 64 + 128 - 0x80) = v := by omega
        rw [List.cons_append, List.cons_append, List.singleton_append,
          characters_start (by omega) (start_three (by omega) (by omega)),
          characters_more (by omega) (by split <;> omega) (by split <;> omega),
          characters_last (by omega) (by omega) (by omega), hv, hc]
      · have hv : (((v / 262144 % 8 + 240 - 0xf0) * 64 + (v / 4096 % 64 + 128 - 0x80)) * 64 +
            (v / 64 % 64 + 128 - 0x80)) * 64 + (v % 64 + 128 - 0x80) = v := by omega
        rw [List.cons_append, List.cons_append, List.cons_append, List.singleton_append,
          characters_start (by omega) (start_four (by omega) (by omega)),
          characters_more (by omega) (by split <;> omega) (by split <;> omega),
          characters_more (by omega) (by omega) (by omega),
          characters_last (by omega) (by omega) (by omega), hv, hc]

/-- **An encoded text** is read back. -/
theorem textOf_toUTF8 (s : String) : textOf s.toUTF8 = s := by
  have hcharacters (cs : List Char) : characters none (cs.flatMap String.utf8EncodeChar) = cs := by
    induction cs with
    | nil => rfl
    | cons c cs ih => rw [List.flatMap_cons, characters_encoded, ih]
  rw [textOf, toList_toUTF8, hcharacters, String.ofList_toList]

end PageCache.Utf8
