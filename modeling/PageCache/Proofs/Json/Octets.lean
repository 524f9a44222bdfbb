import Mathlib.Tactic.Common
import PageCache.Json.Parser

/-!
# Bytes as characters

The readers of JSON take a byte as the character of its number. A text of ASCII characters is its own
row of bytes; any other character is a row of bytes of `0x80` and above, none of which is a mark of
the grammar:

* `octets_toUTF8` — the bytes of a text are those of its characters, one after the other;
* `octetsOf_of_ascii`, `ge_of_mem_octetsOf` — what the bytes of a character are;
* `textOf?_flatMap_octetsOf` — the text is found again from its bytes.
-/

namespace PageCache

/-- What a test finds of each member of a list. -/
theorem forall_of_all {α : Type} {p : α → Prop} [DecidablePred p] {l : List α}
    (h : (l.all fun a => decide (p a)) = true) : ∀ a ∈ l, p a :=
  fun a ha => of_decide_eq_true (List.all_eq_true.mp h a ha)

/-- A digit is an ASCII character, and not the first of them. -/
theorem ascii_of_isDigit {c : Char} (h : c.isDigit = true) : 0 < c.toNat ∧ c.toNat < 0x80 := by
  obtain ⟨hge, hle⟩ := Bool.and_eq_true_iff.mp h
  have hge' := UInt32.le_iff_toNat_le.mp (of_decide_eq_true hge)
  have hle' := UInt32.le_iff_toNat_le.mp (of_decide_eq_true hle)
  exact ⟨Nat.lt_of_lt_of_le (by decide) hge', Nat.lt_of_le_of_lt hle' (by decide)⟩

/-- The loop that lists a byte string has the bytes before a position, and adds those after it. -/
theorem toList_loop (bytes : ByteArray) (i : Nat) (before : List UInt8) :
    ByteArray.toList.loop bytes i before = before.reverse ++ bytes.data.toList.drop i := by
  rw [ByteArray.toList.loop]
  by_cases hi : i < bytes.size
  · have hlt : i < bytes.data.toList.length := by rw [Array.length_toList]; exact hi
    have hget : bytes.get! i = bytes.data.toList[i] := by
      rw [Array.getElem_toList]
      exact getElem!_pos bytes.data i hi
    rw [if_pos hi, toList_loop bytes (i + 1), List.reverse_cons, hget, List.append_assoc,
      List.singleton_append, ← List.drop_eq_getElem_cons hlt]
  · have hle : bytes.data.toList.length ≤ i := by
      rw [Array.length_toList]
      exact Nat.le_of_not_lt hi
    rw [if_neg hi, List.drop_eq_nil_of_le hle, List.append_nil]
termination_by bytes.size - i

/-- A byte string lists the bytes that it is made of. -/
theorem toList_eq_data (bytes : ByteArray) : bytes.toList = bytes.data.toList :=
  toList_loop bytes 0 []

/-- The bytes of a text are those of its characters, one after the other. -/
theorem toList_toUTF8 (s : String) : s.toUTF8.toList = s.toList.flatMap String.utf8EncodeChar := by
  have htext : s.toUTF8 = s.toList.utf8Encode := by
    rw [String.toUTF8_eq_toByteArray, String.utf8Encode_toList]
  rw [htext, List.utf8Encode, toList_eq_data, List.toList_data_toByteArray]

namespace Json

/-- The bytes of a character are those of its encoding. -/
theorem octetsOf_eq (c : Char) :
    octetsOf c = (String.utf8EncodeChar c).map fun b => Char.ofNat b.toNat := by
  have htext : (String.singleton c).toUTF8 = (String.utf8EncodeChar c).toByteArray := by
    rw [String.toUTF8_eq_toByteArray, String.toByteArray_singleton, List.utf8Encode_singleton]
  rw [octetsOf, octets, htext, toList_eq_data, List.toList_data_toByteArray]

/-- **The bytes of a text** are those of its characters, also as characters. -/
theorem octets_toUTF8 (s : String) : octets s.toUTF8 = s.toList.flatMap octetsOf := by
  rw [octets, toList_toUTF8, List.map_flatMap]
  exact congrArg (s.toList.flatMap ·) (funext fun c => (octetsOf_eq c).symm)

/-- The character of a byte has the number of the byte. -/
theorem toNat_ofNat_toNat (b : UInt8) : (Char.ofNat b.toNat).toNat = b.toNat := by
  have hb : b.toNat < 256 := b.toNat_lt
  rw [Char.ofNat, dif_pos (.inl (by omega))]
  rfl

/-- An ASCII character is its own byte. -/
theorem octetsOf_of_ascii {c : Char} (h : c.toNat < 0x80) : octetsOf c = [c] := by
  have hle : c.val.toNat ≤ 0x7f := Nat.le_of_lt_succ h
  have hmod : (UInt8.ofNat c.val.toNat).toNat = c.toNat := by
    rw [UInt8.toNat_ofNat']
    exact Nat.mod_eq_of_lt (by omega)
  rw [octetsOf_eq, String.utf8EncodeChar, if_pos hle, List.map_singleton, hmod, Char.ofNat_toNat]

/-- ASCII characters are their own bytes. -/
theorem flatMap_octetsOf_of_ascii {cs : List Char} (h : ∀ c ∈ cs, c.toNat < 0x80) :
    cs.flatMap octetsOf = cs := by
  induction cs with
  | nil => rfl
  | cons c cs ih =>
    rw [List.flatMap_cons, octetsOf_of_ascii (h c (List.mem_cons_self ..)),
      ih fun d hd => h d (List.mem_cons_of_mem c hd), List.singleton_append]

/-- The bytes of any other character are no ASCII characters. -/
theorem ge_of_mem_octetsOf {c x : Char} (h : ¬ c.toNat < 0x80) (hx : x ∈ octetsOf c) :
    0x80 ≤ x.toNat := by
  rw [octetsOf_eq] at hx
  obtain ⟨b, hb, rfl⟩ := List.mem_map.mp hx
  rw [toNat_ofNat_toNat]
  have hgt : ¬ c.val.toNat ≤ 0x7f := fun hle => h (Nat.lt_succ_of_le hle)
  rw [String.utf8EncodeChar, if_neg hgt] at hb
  split at hb
  · simp only [List.mem_cons, List.not_mem_nil, or_false] at hb
    rcases hb with rfl | rfl <;> rw [UInt8.toNat_ofNat'] <;> omega
  · split at hb
    · simp only [List.mem_cons, List.not_mem_nil, or_false] at hb
      rcases hb with rfl | rfl | rfl <;> rw [UInt8.toNat_ofNat'] <;> omega
    · simp only [List.mem_cons, List.not_mem_nil, or_false] at hb
      rcases hb with rfl | rfl | rfl | rfl <;> rw [UInt8.toNat_ofNat'] <;> omega

/-- **The text is found again** from its bytes. -/
theorem textOf?_flatMap_octetsOf (cs : List Char) :
    textOf? (cs.flatMap octetsOf) = some (String.ofList cs) := by
  -- each character that stands for a byte gives the byte back
  have hbytes : (cs.flatMap octetsOf).map (fun c => c.toNat.toUInt8) =
      cs.flatMap String.utf8EncodeChar := by
    rw [List.map_flatMap]
    refine congrArg (cs.flatMap ·) (funext fun c => ?_)
    rw [octetsOf_eq, List.map_map]
    refine (List.map_congr_left fun b _ => ?_).trans (List.map_id _)
    rw [Function.comp_apply, toNat_ofNat_toNat, Nat.toUInt8_eq, UInt8.ofNat_toNat, id_eq]
  have htext : (⟨(cs.flatMap String.utf8EncodeChar).toArray⟩ : ByteArray) = cs.utf8Encode := by
    refine ByteArray.ext (Array.toList_inj.mp ?_)
    rw [List.utf8Encode, List.toList_data_toByteArray]
  rw [textOf?, hbytes, htext]
  unfold String.fromUTF8?
  rw [dif_pos ByteArray.isValidUTF8_utf8Encode]
  refine congrArg some (String.toByteArray_inj.mp ?_)
  rw [String.toByteArray_ofList]
  rfl

end Json

end PageCache
