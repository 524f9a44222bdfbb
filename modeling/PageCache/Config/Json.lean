import PageCache.Config
import PageCache.Json.Parser

/-!
# Cache configuration as JSON

A configuration read from a JSON value by itself: every field may be absent and then has its
default, unknown fields are passed over, and a value has to be of its field's type as it is.
-/

namespace PageCache

/-- The backend that a JSON value is: its word, or the word as the field of an object. -/
def StoreBackend.ofJson : Json → Option StoreBackend
  | .str name => ofName? name
  | .obj [(name, .null)] => ofName? name
  | _ => none

namespace CacheConfig

/-- The configuration that a JSON value is. -/
def ofJson (v : Json) : Option CacheConfig := do
  let d := default
  match ← Json.record? fieldNames v with
  | [backend, grace, timeout, capacity, directory] =>
    return {
      backend := ← orDefault backend d.backend StoreBackend.ofJson
      staleGraceSeconds := ← orDefault grace d.staleGraceSeconds Json.optionalNat?
      renderTimeoutMs := ← orDefault timeout d.renderTimeoutMs Json.nat?
      memoryCapacity := ← orDefault capacity d.memoryCapacity Json.nat?
      directory := ← orDefault directory d.directory Json.str? }
  | _ => none

/-- The configuration that a text writes. -/
def parse (text : String) : Option CacheConfig :=
  (Json.recordOfBytes fieldNames text.toUTF8).bind ofJson

end CacheConfig

end PageCache
