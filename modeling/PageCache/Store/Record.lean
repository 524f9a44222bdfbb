import PageCache.Entry
import PageCache.Json.Parser

/-!
# Metadata records

On disk an entry is two files: its body as it is, and a record of everything else as JSON. A record
keeps whole milliseconds, so what is read back is the entry in its persisted form:

* **write** — `Record.ofEntry` cuts the creation time towards the epoch and the revalidation time
  down to milliseconds;
* **read** — `Record.decode` refuses a text that is no such record, and `Record.entry?` a time that
  the calendar does not have.
-/

namespace PageCache

/-- All of an entry but its body, as it is persisted. -/
structure Record where
  /-- the text of the key -/
  key : String
  /-- when the entry was created, in milliseconds from the epoch -/
  createdMs : Int
  /-- the persisted form of how it ages -/
  revalidateMs : Option Nat
  /-- its tags -/
  tags : SortedSet Tag
  /-- its generation -/
  generation : Generation
deriving DecidableEq, Inhabited

namespace Record

/-- The record of an entry. -/
def ofEntry (e : Entry) : Record where
  key := e.key.text
  createdMs := e.created.millis
  revalidateMs := e.revalidate.toMillis
  tags := e.tags
  generation := e.generation

/-- The entry of a record and a body, unless the calendar lacks its time. -/
def entry? (r : Record) (body : ByteArray) : Option Entry :=
  (Instant.ofMillis? r.createdMs).map fun created =>
    { key := ⟨r.key⟩, body, created, revalidate := .ofMillis r.revalidateMs, tags := r.tags,
      generation := r.generation }

/-- The record as a JSON object. -/
def toJson (r : Record) : Json :=
  .obj [
    ("key", .str r.key),
    ("created_at_ms", .ofInt r.createdMs),
    ("revalidate_after_ms", match r.revalidateMs with
      | some n => .ofNat n
      | none => .null),
    ("tags", .arr (r.tags.toList.map .str)),
    ("generation", .ofNat r.generation)]

/-- The names of a record's fields. -/
def fieldNames : List String :=
  ["key", "created_at_ms", "revalidate_after_ms", "tags", "generation"]

/-- A list of strings, as a set. -/
def strings? : Json → Option (SortedSet Tag)
  | .arr items => (items.mapM Json.str?).map SortedSet.ofList
  | _ => none

/-- The record that a JSON value is. In an object the revalidation time may be absent. -/
def ofJson (v : Json) : Option Record := do
  let isList := match v with
    | .arr _ => true
    | _ => false
  match ← Json.record? fieldNames v with
  | [some key, some created, revalidate, some tags, some generation] =>
    let revalidateMs ← match revalidate with
      | some r => r.optionalNat?
      | none => if isList then none else some none
    return { key := ← key.str?, createdMs := ← created.int?, revalidateMs,
             tags := ← strings? tags, generation := ← generation.nat? }
  | _ => none

/-- The bytes of a record's file. -/
def encode (r : Record) : ByteArray := r.toJson.toBytes

/-- The record in a file's bytes. -/
def decode (bytes : ByteArray) : Option Record :=
  (Json.recordOfBytes fieldNames bytes).bind ofJson

end Record

end PageCache
