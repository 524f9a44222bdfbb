import Mathlib.Tactic.Common
import PageCache.Render

/-!
# What a derived key tells

A derived key is the text `[locale:]route[?name=value&...]`, and nothing in it is escaped. So it
tells a page from all others as long as no part of them has a separator at which the text would be
read as going on to the next part:

* `Page.Plain` — no part of the page has such a separator;
* `Page.Confusable` — the route of a page without a locale may look as if it began with one, which
  matters only beside a page that has a locale;
* `Page.key_inj` — plain pages that cannot be confused have one key only if they are one page;
* `Page.keys_collide` — none of the conditions can be left out.

A key is read from the left: up to the first `?` there are the locale and the route, and from there
on each name ends at the first `=`, each value at the first `&`.
-/

namespace PageCache

/-- What a request is for. -/
structure Page where
  /-- the route to render -/
  route : String
  /-- the parameters to render it with -/
  params : SortedMap String String
  /-- the language to render it in, if that has been negotiated -/
  locale : Option String
deriving DecidableEq

/-! ## Texts that are cut at a character -/

section Cut

variable {c : Char} {x y s t : List Char}

/-- The text is empty or begins with the character. -/
def BeginsAt (c : Char) (s : List Char) : Prop := ∀ a ∈ s.head?, a = c

theorem beginsAt_nil : BeginsAt c [] := nofun

theorem beginsAt_cons : BeginsAt c (c :: s) := fun _ ha => (Option.some.inj ha).symm

/-- **A text is cut** at the first place where a character is in one way only. -/
theorem append_inj_of_beginsAt (h : x ++ s = y ++ t) (hx : c ∉ x) (hy : c ∉ y)
    (hs : BeginsAt c s) (ht : BeginsAt c t) : x = y ∧ s = t := by
  -- otherwise what is cut off after the shorter piece lies in the longer one
  rcases List.append_eq_append_iff.mp h with ⟨u, rfl, rfl⟩ | ⟨u, rfl, rfl⟩
  · cases u with
    | nil => simp
    | cons a u =>
      obtain rfl := hs a rfl
      simp at hy
  · cases u with
    | nil => simp
    | cons a u =>
      obtain rfl := ht a rfl
      simp at hx

/-- A text is cut at the character that follows. -/
theorem append_cons_inj (h : x ++ c :: s = y ++ c :: t) (hx : c ∉ x) (hy : c ∉ y) :
    x = y ∧ s = t := by
  obtain ⟨rfl, hst⟩ := append_inj_of_beginsAt h hx hy beginsAt_cons beginsAt_cons
  exact ⟨rfl, (List.cons.inj hst).2⟩

end Cut

/-! ## The parameters -/

/-- The text of parameters behind a separator, and of further ones behind `&`. -/
def paramsText : Char → List (String × String) → List Char
  | _, [] => []
  | sep, p :: rest => sep :: (p.1.toList ++ '=' :: (p.2.toList ++ paramsText '&' rest))

/-- No name has a `=`, no value a `&`. -/
def PlainParams (l : List (String × String)) : Prop :=
  ∀ p ∈ l, '=' ∉ p.1.toList ∧ '&' ∉ p.2.toList

theorem beginsAt_paramsText (sep : Char) (l : List (String × String)) :
    BeginsAt sep (paramsText sep l) := by
  cases l with
  | nil => exact beginsAt_nil
  | cons p rest => exact beginsAt_cons

/-- **The parameters** are read off their text. -/
theorem paramsText_inj {l m : List (String × String)} (hl : PlainParams l) (hm : PlainParams m)
    (sep : Char) (h : paramsText sep l = paramsText sep m) : l = m := by
  induction l generalizing m sep with
  | nil =>
    cases m with
    | nil => rfl
    | cons q m => cases h
  | cons p l ih =>
    cases m with
    | nil => cases h
    | cons q m =>
      obtain ⟨hpname, hpvalue⟩ := hl p List.mem_cons_self
      obtain ⟨hqname, hqvalue⟩ := hm q List.mem_cons_self
      obtain ⟨hname, h⟩ := append_cons_inj (List.cons.inj h).2 hpname hqname
      obtain ⟨hvalue, h⟩ := append_inj_of_beginsAt h hpvalue hqvalue
        (beginsAt_paramsText '&' l) (beginsAt_paramsText '&' m)
      have hpq : p = q := Prod.ext (String.toList_inj.mp hname) (String.toList_inj.mp hvalue)
      have hrest := ih (fun r hr => hl r (List.mem_cons_of_mem p hr))
        (fun r hr => hm r (List.mem_cons_of_mem q hr)) '&' h
      rw [hpq, hrest]

/-- Parameters that are joined by `&` are further ones, but for the first separator. -/
theorem intercalate_params (p : String × String) (l : List (String × String)) (sep : Char) :
    sep :: ("&".intercalate ((p :: l).map fun p => p.1 ++ "=" ++ p.2)).toList =
      paramsText sep (p :: l) := by
  induction l generalizing p sep with
  | nil => simp [paramsText]
  | cons q l ih =>
    simp only [List.map_cons] at ih ⊢
    rw [String.intercalate_cons_cons]
    simp only [String.toList_append, List.append_assoc, paramsText]
    have h := ih q '&'
    simp only [paramsText] at h
    rw [← h]
    simp

/-! ## The key of a page -/

namespace Page

/-- The key that is derived for the page. -/
def key (a : Page) : Key := Key.ofRoute a.route a.params a.locale

/-- The text of a page's key before its parameters. -/
def head (a : Page) : List Char :=
  match a.locale with
  | some l => l.toList ++ ':' :: a.route.toList
  | none => a.route.toList

/-- **The text of a key**: the locale and the route, then the parameters. -/
theorem toList_key (a : Page) : a.key.text.toList = a.head ++ paramsText '?' a.params.toList := by
  obtain ⟨route, params, locale⟩ := a
  have htail : (if (params.toList.map fun p => p.1 ++ "=" ++ p.2).isEmpty then ""
      else "?" ++ "&".intercalate (params.toList.map fun p => p.1 ++ "=" ++ p.2)).toList =
        paramsText '?' params.toList := by
    cases params.toList with
    | nil => rfl
    | cons p l =>
      rw [← intercalate_params]
      simp
  simp only [key, Key.ofRoute, String.toList_append, htail]
  cases locale <;> simp [head]

/-- No part of the page has a separator that ends it. -/
structure Plain (a : Page) : Prop where
  /-- the locale ends at its `:` and before any `?` -/
  locale : ∀ l, a.locale = some l → ':' ∉ l.toList ∧ '?' ∉ l.toList
  /-- the route ends before any `?` -/
  route : '?' ∉ a.route.toList
  /-- each name ends at its `=`, each value before any `&` -/
  params : PlainParams a.params.toList

/-- The page has no locale and its route a `:`, so it may look as if it had the locale of the other
page. -/
structure Confusable (a b : Page) : Prop where
  /-- it has none -/
  bare : a.locale = none
  /-- the other has one -/
  localized : b.locale ≠ none
  /-- it may look as if it had -/
  colon : ':' ∈ a.route.toList

variable {a b : Page}

theorem Plain.not_mem_head (h : a.Plain) : '?' ∉ a.head := by
  unfold head
  cases hl : a.locale with
  | none => exact h.route
  | some l => simp [h.locale l hl, h.route]

/-- **The locale and the route** are read off what stands before the parameters. -/
theorem head_inj (ha : a.Plain) (hb : b.Plain) (hab : ¬ a.Confusable b) (hba : ¬ b.Confusable a)
    (h : a.head = b.head) : a.locale = b.locale ∧ a.route = b.route := by
  unfold head at h
  cases hla : a.locale with
  | none =>
    cases hlb : b.locale with
    | none =>
      simp only [hla, hlb] at h
      exact ⟨rfl, String.toList_inj.mp h⟩
    | some m =>
      simp only [hla, hlb] at h
      exact absurd ⟨hla, by simp [hlb], by simp [h]⟩ hab
  | some l =>
    cases hlb : b.locale with
    | none =>
      simp only [hla, hlb] at h
      exact absurd ⟨hlb, by simp [hla], by simp [← h]⟩ hba
    | some m =>
      simp only [hla, hlb] at h
      obtain ⟨hlocale, hroute⟩ := append_cons_inj h (ha.locale l hla).1 (hb.locale m hlb).1
      exact ⟨congrArg some (String.toList_inj.mp hlocale), String.toList_inj.mp hroute⟩

/-- **The key tells the page**, among plain pages that cannot be confused. -/
theorem key_inj (ha : a.Plain) (hb : b.Plain) (hab : ¬ a.Confusable b) (hba : ¬ b.Confusable a)
    (h : a.key = b.key) : a = b := by
  have htext := congrArg (·.text.toList) h
  simp only [toList_key] at htext
  obtain ⟨hhead, hparams⟩ := append_inj_of_beginsAt htext ha.not_mem_head hb.not_mem_head
    (beginsAt_paramsText '?' _) (beginsAt_paramsText '?' _)
  obtain ⟨hlocale, hroute⟩ := head_inj ha hb hab hba hhead
  have hparams := SortedMap.toList_inj (paramsText_inj ha.params hb.params '?' hparams)
  cases a
  cases b
  simp_all

/-- Two pages have one key. -/
def Collide (a b : Page) : Prop := a ≠ b ∧ a.key = b.key

instance (a b : Page) : Decidable (a.Collide b) := inferInstanceAs (Decidable (_ ∧ _))

/-- Each separator is needed: pages collide when one of them has a `:` in its locale, a `:` in its
route and no locale, a `?` in its locale or in its route, a `=` in a name or a `&` in a value, and
is plain otherwise. -/
theorem keys_collide :
    Collide ⟨"c", ∅, some "a:b"⟩ ⟨"b:c", ∅, some "a"⟩ ∧
    Collide ⟨"/a", ∅, some "en"⟩ ⟨"en:/a", ∅, none⟩ ∧
    Collide ⟨"d", ∅, some "a?b=c"⟩ ⟨"a", .ofList [("b", "c:d")], none⟩ ∧
    Collide ⟨"/a?b=c", ∅, none⟩ ⟨"/a", .ofList [("b", "c")], none⟩ ∧
    Collide ⟨"/a", .ofList [("b=c", "d")], none⟩ ⟨"/a", .ofList [("b", "c=d")], none⟩ ∧
    Collide ⟨"/a", .ofList [("b", "c&d=e")], none⟩
      ⟨"/a", .ofList [("b", "c"), ("d", "e")], none⟩ := by
  decide

end Page

/-! ## Requests for a page -/

namespace RouteRequest

/-- The request has been built for the page. -/
inductive IsFor : RouteRequest → Page → Prop where
  /-- from a route and parameters -/
  | ofRoute (route : String) (params : SortedMap String String) :
      IsFor (ofRoute route params) ⟨route, params, none⟩
  /-- for a negotiated locale, in place of an earlier one -/
  | localized {x : RouteRequest} {a : Page} (locale : String) :
      IsFor x a → IsFor (x.localized locale) { a with locale := some locale }

/-- **A request** hands on its page, under the key that is derived for the page. -/
theorem IsFor.eq {x : RouteRequest} {a : Page} (h : x.IsFor a) :
    x = ⟨a.key, a.route, a.params⟩ := by
  induction h with
  | ofRoute route params => rfl
  | localized locale _ ih =>
    rw [ih]
    rfl

end RouteRequest

end PageCache
