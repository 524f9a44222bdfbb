import PageCache.Entry
import PageCache.Json.Parser

/-!
# Ways to age as JSON

`"never"`, `"always"`, or an object with the one field `after`, which holds a duration as whole
seconds and the nanoseconds beyond them. Reading also takes the two words as the field of an object
with the value `null`, a duration as a list, and nanoseconds that carry over into the seconds.
-/

namespace PageCache

namespace Duration

/-- The duration as an object. -/
def toJson (d : Duration) : Json := .obj [("secs", .ofNat d.secs), ("nanos", .ofNat d.subsec)]

/-- The duration of some seconds and nanoseconds, unless it is too long. -/
def ofParts? (secs nanos : Nat) : Option Duration :=
  if h : secs * 1000000000 + nanos ≤ longest then some ⟨secs * 1000000000 + nanos, h⟩ else none

/-- The duration that a JSON value is: both parts once, nothing else. -/
def ofJson (v : Json) : Option Duration := do
  let known := match v with
    | .obj fields => fields.all fun f => f.1 = "secs" || f.1 = "nanos"
    | _ => true
  match ← Json.record? ["secs", "nanos"] v with
  | [some (.num secs), some (.num nanos)] =>
    if known then ofParts? (← secs.nat? 18446744073709551616) (← nanos.nat? 4294967296) else none
  | _ => none

end Duration

namespace Revalidate

/-- The mode as JSON. -/
def toJson : Revalidate → Json
  | .never => .str "never"
  | .always => .str "always"
  | .after d => .obj [("after", d.toJson)]

/-- The mode that a JSON value is. -/
def ofJson : Json → Option Revalidate
  | .str "never" => some .never
  | .str "always" => some .always
  | .obj [("never", .null)] => some .never
  | .obj [("always", .null)] => some .always
  | .obj [("after", v)] => (Duration.ofJson v).map .after
  | _ => none

end Revalidate

end PageCache
