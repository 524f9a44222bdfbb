import PageCache.Command
import Std.Time.DateTime.Timestamp

/-!
# The command line

The outer layer of the maintenance program: it carries the calls of a `FileProgram` out on the
system, and gives the program its arguments, the environment and the time.
-/

namespace PageCache

open System (FilePath)

/-- The path for the system. -/
def Path.filePath (p : Path) : FilePath := ⟨p.text⟩

/-- A failure as the system reports it. -/
def IoError.ofSystem : IO.Error → IoError
  | .noFileOrDirectory _ _ _ => .notFound
  | .noSuchThing _ _ _ => .notFound
  | .alreadyExists _ _ _ => .alreadyExists
  | .inappropriateType _ code details =>
    if code = 20 then .notDirectory else if code = 21 then .isDirectory else .other details
  | .unsatisfiedConstraints code details => if code = 39 then .notEmpty else .other details
  | .invalidArgument _ code details =>
    if code = 36 then .tooLong else if code = 22 then .notNamed else .other details
  | e => .other (toString e)

/-- The answer of an action, or why it failed. -/
def attempt {α : Type} (action : IO α) : IO (Except IoError α) := do
  match ← action.toBaseIO with
  | .ok a => return .ok a
  | .error e => return .error (.ofSystem e)

/-- Carry out a call. -/
def FileCall.carryOut : (c : FileCall) → IO (Except IoError c.Answer)
  | .read p => attempt (IO.FS.readBinFile p.filePath)
  | .write p bytes => attempt (IO.FS.writeBinFile p.filePath bytes)
  | .rename source target => attempt (IO.FS.rename source.filePath target.filePath)
  | .remove p => attempt (IO.FS.removeFile p.filePath)
  | .createAll p => attempt (IO.FS.createDirAll p.filePath)
  | .list p => attempt do return (← p.filePath.readDir).toList.map (·.fileName)
  | .isFile p => attempt do
    match ← p.filePath.metadata.toBaseIO with
    | .ok m => return m.type == .file
    | .error _ => return false

/-- Carry out a program. -/
def FileProgram.carryOut {α : Type} : FileProgram α → IO α
  | .done a => pure a
  | .call c next => do (next (← c.carryOut)).carryOut

/-- The variables in a block of bytes, where each is ended by a zero byte. -/
def Environment.ofBlock (bytes : ByteArray) : Environment :=
  let pairs := ((Utf8.textOf bytes).split (· = '\x00')).toList.map fun part =>
    let cs := part.toString.toList
    (String.ofList (cs.takeWhile (· ≠ '=')), String.ofList ((cs.dropWhile (· ≠ '=')).drop 1))
  .ofList pairs

/-- The environment of the program. -/
def Environment.current : IO Environment := do
  match ← (IO.FS.readBinFile ⟨"/proc/self/environ"⟩).toBaseIO with
  | .ok bytes => return .ofBlock bytes
  | .error _ => return ∅

/-- The time on the system's clock. -/
def Instant.now : IO Instant := do
  let nanos := (← Std.Time.Timestamp.now).toNanosecondsSinceUnixEpoch.val
  return (Instant.ofNanos? nanos).getD .epoch

end PageCache

open PageCache in
/-- Run the program; gives the code it ends with. -/
def main (args : List String) : IO UInt32 := do
  let result ← (runProgram args (← Environment.current) (← Instant.now)).carryOut
  IO.print result.printed
  if let some complaint := result.complaint then IO.eprintln complaint
  return result.exitCode.toUInt32
