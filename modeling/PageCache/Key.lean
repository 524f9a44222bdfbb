import PageCache.Digest
import PageCache.SortedMap
import PageCache.Text.Hex
import PageCache.Text.Quoted

/-!
# Cache keys

A key is opaque: two keys name the same entry exactly when their texts are the same, and keys are
ordered by their texts, code point by code point, which is also the order of their UTF-8 bytes.
`Key.ofRoute` derives a key for a caller that has none of its own.
-/

namespace PageCache

/-- The name of one cacheable unit. -/
structure Key where
  /-- the text that is compared -/
  text : String
deriving DecidableEq, Inhabited

namespace Key

instance : LT Key := ⟨fun a b => a.text < b.text⟩
instance : LE Key := ⟨fun a b => a.text ≤ b.text⟩
instance : DecidableLT Key := fun a b => inferInstanceAs (Decidable (a.text < b.text))
instance : DecidableLE Key := fun a b => inferInstanceAs (Decidable (a.text ≤ b.text))

/-- Keys with the same text are the same key. -/
theorem ext {a b : Key} (h : a.text = b.text) : a = b := by cases a; cases b; simp_all

instance : Std.IsLinearOrder Key where
  le_refl a := Std.le_refl a.text
  le_trans _ _ _ h k := Std.le_trans (α := String) h k
  le_antisymm _ _ h k := ext (Std.le_antisymm (α := String) h k)
  le_total a b := Std.le_total (α := String) (a := a.text) (b := b.text)

instance : Std.LawfulOrderLT Key where
  lt_iff a b := Std.LawfulOrderLT.lt_iff (α := String) a.text b.text

/-- The key of a route: `[locale:]route[?name=value&...]`, parameters in the order of their
names. -/
def ofRoute (route : String) (params : SortedMap String String) (locale : Option String) : Key :=
  let start := match locale with
    | some l => l ++ ":"
    | none => ""
  let query := params.toList.map fun p => p.1 ++ "=" ++ p.2
  let tail := if query.isEmpty then "" else "?" ++ "&".intercalate query
  ⟨start ++ route ++ tail⟩

/-- The hexadecimal SHA-256 digest of the text's UTF-8 bytes, fit for a file name. -/
def digest (k : Key) : String := Hex.encode (Digest.sha256 k.text.toUTF8)

/-- Whether the key's text begins with another text. -/
def startsWith (k : Key) (start : String) : Bool := start.toList.isPrefixOf k.text.toList

/-- The diagnostic form. -/
def quoted (k : Key) : String := "CacheKey(" ++ Quoted.quote k.text ++ ")"

end Key

end PageCache
