import PageCache.Files.Program
import PageCache.Store
import PageCache.Store.Record

/-!
# The disk store

A store in a folder. A key with digest `d` owns two files there: `d.json`, the record of its entry,
and `d.g.body`, the body of generation `g`. Files are written under a staging name and moved into
place, the body before the record, so a record is only ever seen with the body it was written with:

* **read** — a key whose record or body is missing has no entry, and a record that belongs to
  another key of the same digest counts as missing;
* **write** — the moving of the record is the moment from which the new entry is there; what is left
  of the old one is cleared away after it;
* **removal** — the record goes first, then its body.

Every operation is a `FileProgram`, so that it can be broken off between any two of its calls.
-/

namespace PageCache

/-- A store in a folder. -/
structure DiskStore where
  /-- the folder -/
  root : Path
deriving DecidableEq, Inhabited

namespace DiskStore

/-- The error of an operation on a file. -/
def ioError (action : String) (p : Path) (e : IoError) : StoreError :=
  .unavailable (action ++ " " ++ p.text ++ ": " ++ e.message)

/-- Go on with the answer of a call, or end with its error. -/
def orFail {α β : Type} (action : String) (p : Path) (r : Except IoError α)
    (next : α → FileProgram (Except StoreError β)) : FileProgram (Except StoreError β) :=
  match r with
  | .ok a => next a
  | .error e => .done (.error (ioError action p e))

/-- Go on with the result of a program, or end with its error. -/
def andThen {α β : Type} (p : FileProgram (Except StoreError α))
    (next : α → FileProgram (Except StoreError β)) : FileProgram (Except StoreError β) :=
  p.bind fun
    | .ok a => next a
    | .error e => .done (.error e)

/-- The name of a key's record. -/
def recordName (k : Key) : String := k.digest ++ ".json"

/-- The name of a key's body of a generation. -/
def bodyName (k : Key) (g : Generation) : String := k.digest ++ "." ++ toString g ++ ".body"

/-- The place of a key's record. -/
def recordPath (s : DiskStore) (k : Key) : Path := s.root.child (recordName k)

/-- The place of a key's body of a generation. -/
def bodyPath (s : DiskStore) (k : Key) (g : Generation) : Path := s.root.child (bodyName k g)

/-- The place where a record is written before it is moved, told apart by a token. -/
def recordStaging (s : DiskStore) (k : Key) (token : String) : Path :=
  s.root.child (k.digest ++ ".tmp-" ++ token)

/-- The place where a body is written before it is moved, told apart by a token. -/
def bodyStaging (s : DiskStore) (k : Key) (g : Generation) (token : String) : Path :=
  s.root.child (k.digest ++ "." ++ toString g ++ ".tmp-" ++ token)

/-- Open a folder as a store, making it if needed. -/
def openAt (root : Path) : FileProgram (Except StoreError DiskStore) :=
  .call (.createAll root) fun r =>
    orFail "create directory" root r fun _ => .done (.ok ⟨root⟩)

/-- The record in a file, nothing if there is no file. -/
def readRecord (p : Path) : FileProgram (Except StoreError (Option Record)) :=
  .call (.read p) fun
    | .ok bytes =>
      match Record.decode bytes with
      | some r => .done (.ok (some r))
      | none => .done (.error (.unavailable ("corrupt metadata " ++ p.text)))
    | .error .notFound => .done (.ok none)
    | .error e => .done (.error (ioError "read metadata" p e))

/-- The record of a key, unless it belongs to another key. -/
def readKeyRecord (s : DiskStore) (k : Key) : FileProgram (Except StoreError (Option Record)) :=
  andThen (readRecord (s.recordPath k)) fun r =>
    .done (.ok (r.filter (·.key = k.text)))

/-- Write bytes under a staging name and move them into place. -/
def writeAtomic (staging target : Path) (bytes : ByteArray) :
    FileProgram (Except StoreError Unit) :=
  .call (.write staging bytes) fun r =>
    orFail "write" staging r fun _ =>
      .call (.rename staging target) fun
        | .ok _ => .done (.ok ())
        | .error e => .call (.remove staging) fun _ => .done (.error (ioError "rename" target e))

/-- Remove a file; says whether it was there. -/
def removeIfExists (p : Path) : FileProgram (Except StoreError Bool) :=
  .call (.remove p) fun
    | .ok _ => .done (.ok true)
    | .error .notFound => .done (.ok false)
    | .error e => .done (.error (ioError "remove" p e))

/-- The entry of a key. -/
def get (s : DiskStore) (k : Key) : FileProgram (Except StoreError (Option Entry)) :=
  andThen (s.readKeyRecord k) fun
    | none => .done (.ok none)
    | some r =>
      let p := s.bodyPath k r.generation
      .call (.read p) fun
        | .ok body =>
          match r.entry? body with
          | some e => .done (.ok (some e))
          | none => .done (.error (.unavailable ("corrupt timestamp for `" ++ r.key ++ "`")))
        | .error .notFound => .done (.ok none)
        | .error e => .done (.error (ioError "read body" p e))

/-- The last part of a write: the record is moved into place, and the body of the generation that was
there before is cleared away. -/
def putRecord (s : DiskStore) (recordToken : String) (e : Entry) (current : Option Generation) :
    FileProgram (Except StoreError PutOutcome) :=
  andThen (writeAtomic (s.recordStaging e.key recordToken) (s.recordPath e.key)
      (Record.ofEntry e).encode) fun _ =>
    match current with
    | none => .done (.ok .stored)
    | some previous =>
      (removeIfExists (s.bodyPath e.key previous)).bind fun _ => .done (.ok .stored)

/-- Write an entry if the generation observed is the one stored. The tokens tell the staging files
of this write apart from all others. A record has sixty-four bits for its generation; for one beyond
them there is no record, and the write fails before it touches a file. -/
def put (s : DiskStore) (bodyToken recordToken : String) (e : Entry)
    (observed : Option Generation) : FileProgram (Except StoreError PutOutcome) :=
  andThen (s.readKeyRecord e.key) fun old =>
    let current := old.map (·.generation)
    match checkGeneration current observed e.generation with
    | .conflict c => .done (.ok (.conflict c))
    | .stored =>
      if e.generation < 18446744073709551616 then
        andThen (writeAtomic (s.bodyStaging e.key e.generation bodyToken)
            (s.bodyPath e.key e.generation) e.body) fun _ =>
          s.putRecord recordToken e current
      else .done (.error (.unavailable "encode metadata: number out of range"))

/-- Remove a key's entry; says whether there was one. -/
def delete (s : DiskStore) (k : Key) : FileProgram (Except StoreError Bool) :=
  andThen (s.readKeyRecord k) fun
    | none => .done (.ok false)
    | some r =>
      andThen (removeIfExists (s.recordPath k)) fun _ =>
        andThen (removeIfExists (s.bodyPath k r.generation)) fun _ =>
          .done (.ok true)

/-- Whether a name is that of a record: it ends in `.json`, with something before the point. -/
def isRecordName (name : String) : Bool :=
  let ending := ".json".toList
  let cs := name.toList
  ending.length < cs.length && ending.isSuffixOf cs

/-- The keys of those records among some names whose keys start with a text. -/
def keysIn (s : DiskStore) (start : String) :
    List String → FileProgram (Except StoreError (List Key))
  | [] => .done (.ok [])
  | name :: rest =>
    if isRecordName name then
      andThen (readRecord (s.root.child name)) fun r =>
        andThen (s.keysIn start rest) fun keys =>
          match r with
          | some r => .done (.ok (if Key.startsWith ⟨r.key⟩ start then ⟨r.key⟩ :: keys else keys))
          | none => .done (.ok keys)
    else s.keysIn start rest

/-- The keys that start with a text, in order. -/
def list (s : DiskStore) (start : String) : FileProgram (Except StoreError (List Key)) :=
  .call (.list s.root) fun r =>
    orFail "list" s.root r fun names =>
      andThen (s.keysIn start names) fun keys =>
        .done (.ok (keys.mergeSort (fun a b => a ≤ b)))

end DiskStore

end PageCache
