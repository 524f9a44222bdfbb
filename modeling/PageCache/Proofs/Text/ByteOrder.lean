import PageCache.Key
import PageCache.Proofs.Json.Octets

/-!
# Keys in the order of their bytes

Texts are compared character by character. UTF-8 keeps this order: of two characters the greater has
the greater bytes, where the first difference decides, so whatever stands behind them does not matter.

* `Climbs` — a way to write numbers as bytes that keeps their order, here that of the four lengths;
* `utf8EncodeChar_append_lt` — the bytes of a character;
* `Key.lt_iff_bytes_lt` — the bytes of a whole text;
* `Key.startsWith_iff` — what it is that a text begins with another.
-/

namespace PageCache

/-! ## Numbers as bytes -/

/-- The numbers below `n` are written in their order, whatever stands behind them. -/
def Climbs (f : Nat → List UInt8) (n : Nat) : Prop :=
  ∀ ⦃u v : Nat⦄, u < v → v < n → ∀ a b, f u ++ a < f v ++ b

/-- A number in the first byte, above a mark. -/
def leadByte (mark v : Nat) : List UInt8 := [UInt8.ofNat (v + mark)]

/-- A number whose last six bits have a byte of their own, behind that of the others. -/
def tailByte (f : Nat → List UInt8) (v : Nat) : List UInt8 :=
  f (v / 64) ++ [UInt8.ofNat (v % 64 + 0x80)]

/-- The bytes of two numbers that have room in a byte. -/
theorem cons_lt_cons_of_lt {x y : Nat} (h : x < y) (hy : y < 256) (a b : List UInt8) :
    UInt8.ofNat x :: a < UInt8.ofNat y :: b := by
  refine List.cons_lt_cons_iff.mpr (.inl (UInt8.lt_iff_toNat_lt.mpr ?_))
  rw [UInt8.toNat_ofNat_of_lt' (Nat.lt_trans h hy), UInt8.toNat_ofNat_of_lt' hy]
  exact h

theorem climbs_leadByte {mark n : Nat} (h : n + mark ≤ 256) : Climbs (leadByte mark) n :=
  fun _ _ huv hv a b => cons_lt_cons_of_lt (by omega) (by omega) a b

theorem Climbs.tailByte {f : Nat → List UInt8} {n : Nat} (h : Climbs f n) :
    Climbs (tailByte f) (64 * n) := by
  intro u v huv hv a b
  simp only [PageCache.tailByte, List.append_assoc]
  rcases Nat.lt_or_ge (u / 64) (v / 64) with hlt | hge
  · exact h hlt (by omega) _ _
  · -- the other bits are the same, so the last six decide
    have heq : u / 64 = v / 64 := by omega
    rw [heq]
    exact List.append_left_lt (cons_lt_cons_of_lt (by omega) (by omega) a b)

/-- The bytes of a character, by its length: of each length there is a number of characters that have
no shorter one. -/
inductive Encoded (v : Nat) : List UInt8 → Prop where
  /-- one byte -/
  | one : v < 0x80 → Encoded v (leadByte 0 v)
  /-- two bytes -/
  | two : 0x80 ≤ v → v < 0x800 → Encoded v (tailByte (leadByte 0xc0) v)
  /-- three bytes -/
  | three : 0x800 ≤ v → v < 0x10000 → Encoded v (tailByte (tailByte (leadByte 0xe0)) v)
  /-- four bytes -/
  | four : 0x10000 ≤ v → v < 0x110000 → Encoded v (tailByte (tailByte (tailByte (leadByte 0xf0))) v)

theorem encoded_utf8EncodeChar (c : Char) : Encoded c.toNat (String.utf8EncodeChar c) := by
  have hc : c.val.toNat < 0x110000 := by
    rcases c.valid with hv | hv <;> omega
  have hdiv : c.val.toNat / 64 / 64 = c.val.toNat / 4096 := Nat.div_div_eq_div_mul ..
  have hdiv' : c.val.toNat / 4096 / 64 = c.val.toNat / 262144 := Nat.div_div_eq_div_mul ..
  show Encoded c.val.toNat _
  rw [String.utf8EncodeChar]
  split
  · rename_i h
    exact .one (by omega)
  · rename_i h
    split
    · rename_i h'
      have htwo := Encoded.two (v := c.val.toNat) (by omega) (by omega)
      simp only [tailByte, leadByte] at htwo
      rwa [Nat.mod_eq_of_lt (by omega : c.val.toNat / 64 < 0x20)]
    · rename_i h'
      split
      · rename_i h''
        have hthree := Encoded.three (v := c.val.toNat) (by omega) (by omega)
        simp only [tailByte, leadByte, hdiv] at hthree
        rwa [Nat.mod_eq_of_lt (by omega : c.val.toNat / 4096 < 0x10)]
      · rename_i h''
        have hfour := Encoded.four (v := c.val.toNat) (by omega) (by omega)
        simp only [tailByte, leadByte, hdiv, hdiv'] at hfour
        rwa [Nat.mod_eq_of_lt (by omega : c.val.toNat / 262144 < 0x08)]

/-- **The bytes of a character** are in the order of the characters: either has its own length, and
the mark of a longer one is greater, or both have the same. -/
theorem Encoded.append_lt {u v : Nat} {bs cs : List UInt8} (hu : Encoded u bs) (hv : Encoded v cs)
    (h : u < v) (a b : List UInt8) : bs ++ a < cs ++ b := by
  have hone : Climbs (leadByte 0) 0x80 := climbs_leadByte (by omega)
  have htwo : Climbs (leadByte 0xc0) 0x20 := climbs_leadByte (by omega)
  have hthree : Climbs (leadByte 0xe0) 0x10 := climbs_leadByte (by omega)
  have hfour : Climbs (leadByte 0xf0) 0x10 := climbs_leadByte (by omega)
  cases hu with
  | one hu =>
    cases hv with
    | one hv => exact hone h hv a b
    | two | three | four => exact cons_lt_cons_of_lt (by omega) (by omega) _ _
  | two hu hu' =>
    cases hv with
    | one hv => omega
    | two _ hv => exact htwo.tailByte h hv a b
    | three | four => exact cons_lt_cons_of_lt (by omega) (by omega) _ _
  | three hu hu' =>
    cases hv with
    | one hv => omega
    | two _ hv => omega
    | three _ hv => exact hthree.tailByte.tailByte h hv a b
    | four => exact cons_lt_cons_of_lt (by omega) (by omega) _ _
  | four hu hu' =>
    cases hv with
    | one hv => omega
    | two _ hv => omega
    | three _ hv => omega
    | four _ hv => exact hfour.tailByte.tailByte.tailByte h (by omega) a b

theorem utf8EncodeChar_append_lt {c d : Char} (h : c < d) (a b : List UInt8) :
    String.utf8EncodeChar c ++ a < String.utf8EncodeChar d ++ b :=
  (encoded_utf8EncodeChar c).append_lt (encoded_utf8EncodeChar d) h a b

/-! ## Texts -/

theorem flatMap_utf8EncodeChar_lt {cs ds : List Char} (h : cs < ds) :
    cs.flatMap String.utf8EncodeChar < ds.flatMap String.utf8EncodeChar := by
  induction h with
  | @nil d ds =>
    rw [List.flatMap_nil, List.flatMap_cons]
    obtain ⟨b, bs, hb⟩ := List.exists_cons_of_ne_nil (String.utf8EncodeChar_ne_nil (c := d))
    rw [hb]
    exact List.nil_lt_cons _ _
  | rel hlt =>
    rw [List.flatMap_cons, List.flatMap_cons]
    exact utf8EncodeChar_append_lt hlt _ _
  | cons _ ih =>
    rw [List.flatMap_cons, List.flatMap_cons]
    exact List.append_left_lt ih

/-- **Keys are in the order of their bytes.** -/
theorem Key.lt_iff_bytes_lt (j k : Key) : j < k ↔ j.text.toUTF8.toList < k.text.toUTF8.toList := by
  have hmono : ∀ {j k : Key}, j < k → j.text.toUTF8.toList < k.text.toUTF8.toList := by
    intro j k h
    rw [toList_toUTF8, toList_toUTF8]
    exact flatMap_utf8EncodeChar_lt h
  refine ⟨hmono, fun h => ?_⟩
  rcases Std.lt_trichotomy j k with hlt | rfl | hgt
  · exact hlt
  · exact absurd h Std.lt_irrefl
  · exact absurd (hmono hgt) (List.lt_asymm h)

/-- **A key starts with a text** if something stands behind the text in it, which may be nothing. -/
theorem Key.startsWith_iff {k : Key} {start : String} :
    k.startsWith start = true ↔ ∃ rest, k.text = start ++ rest := by
  rw [startsWith, List.isPrefixOf_iff_prefix]
  constructor
  · rintro ⟨cs, hcs⟩
    refine ⟨String.ofList cs, String.toList_inj.mp ?_⟩
    rw [String.toList_append, String.toList_ofList, hcs]
  · rintro ⟨rest, hrest⟩
    exact ⟨rest.toList, by rw [hrest, String.toList_append]⟩

end PageCache
