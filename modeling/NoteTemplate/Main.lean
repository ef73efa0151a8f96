import NoteTemplate.CommandLine.Program
import Std.Time

/-!
# The program on a computer

The surroundings of the program are the files, the environment and the clock of the computer
that it runs on.
-/

namespace NoteTemplate.CommandLine

open Calendar (Moment)

/-- The number of an error. Some calls of the system give it with a minus sign. -/
def errorNumber (code : UInt32) : Nat := code.toInt32.toInt.natAbs

/-- The number and the wording that the system gives to an error. -/
def numberOf? : IO.Error → Option (Nat × String)
  | .alreadyExists _ code details | .noFileOrDirectory _ code details
  | .inappropriateType _ code details | .invalidArgument _ code details
  | .permissionDenied _ code details | .resourceExhausted _ code details
  | .noSuchThing _ code details | .interrupted _ code details | .otherError code details
  | .resourceBusy code details | .resourceVanished code details
  | .unsupportedOperation code details | .hardwareFault code details
  | .unsatisfiedConstraints code details | .illegalOperation code details
  | .protocolError code details | .timeExpired code details => some (errorNumber code, details)
  | .unexpectedEof | .userError _ => none

/-- The fault that an error stands for. -/
def faultOf (error : IO.Error) : FileFault :=
  match numberOf? error with
  | some (2, _) => .missing
  | some (17, _) => .present
  | some (20, _) => .notFolder
  | some (21, _) => .isFolder
  | some (36, _) => .longName
  | some (number, details) => .other (numbered details.capitalize number)
  | none => .other (toString error)

/-- The result of an action on files, given the path that it is about. -/
def attempt {α : Type} (path : String) (action : IO α) : IO (Except FileFault α) :=
  match pathFault? path with
  | some fault => return .error fault
  | none =>
    if path = "" then return .error .missing
    else
      tryCatch (.ok <$> action) fun error => return .error (faultOf error)

/-- The entry of the current folder that a path leads to. -/
def entryAt (path : String) : IO.FS.DirEntry := ⟨".", path⟩

/-- A time of the system in billionths of a second. -/
def stampOf (time : IO.FS.SystemTime) : Nat := time.sec.toNat * 1000000000 + time.nsec.toNat

/-- What a path leads to. -/
def statusAt (path : String) : IO FileStatus := do
  let found ← (entryAt path).path.metadata
  match found.type with
  | .file => return .file found.byteSize.toNat (stampOf found.modified)
  | .dir => return .folder
  | _ => return .other

/-- The moment that the clock shows. -/
def clockMoment : IO Moment := do
  let time ← Std.Time.DateTime.now
  let date := Calendar.Date.of? time.year.toNat time.month.val.toNat time.day.val.toNat
  let clock := Calendar.Clock.of? time.hour.val.toNat time.minute.val.toNat
    time.second.val.toNat time.nanosecond.val.toNat
  return (Moment.of? date clock (time.offset.second.val / 60)).getD .epoch

instance : Host IO where
  status path := attempt path (statusAt path)
  bytes path := attempt path (IO.FS.readBinFile path)
  names path := attempt path do
    return (← (entryAt path).path.readDir).toList.map IO.FS.DirEntry.fileName
  makeFolder path := attempt path (IO.FS.createDir path)
  write path text := attempt path (IO.FS.writeFile path text)
  touch path := attempt path do
    let _ ← IO.FS.Handle.mk path .append
  setting? name := IO.getEnv name
  currentFolder := return (← IO.currentDir).toString
  now := clockMoment

end NoteTemplate.CommandLine

/-- Runs the program with the words of its command line. -/
def main (words : List String) : IO UInt32 := do
  let outcome ← NoteTemplate.CommandLine.run words
  (← IO.getStdout).putStr outcome.output
  (← IO.getStderr).putStr outcome.errors
  return UInt32.ofNat outcome.code
