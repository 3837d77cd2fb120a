import Assay.Command.Run

/-!
# The program

Validates JSON documents against a schema document.  The files of the program are those of
the system, and so is what surrounds it, except that the local time is taken to be that of the
prime meridian.  As long as a filter does not end, it is given a greater bound.
-/

namespace Assay

/-- The number of an error of the system, which may be negated. -/
def errorNumber (code : UInt32) : UInt32 := if code < 0x80000000 then code else 0 - code

/-- The fault that the system tells. -/
def ReadFault.ofSystem : IO.Error → ReadFault
  | .noFileOrDirectory .. => .notFound
  | .permissionDenied .. => .notPermitted
  | .inappropriateType _ code _ => if errorNumber code = 20 then .notDirectory else .isDirectory
  | .invalidArgument _ code details =>
    if errorNumber code = 36 then .nameTooLong else .other details
  | e => .other (toString e)

/-- The files of the system. -/
def systemFiles : Files IO where
  read path := do
    try
      return .ok (← IO.FS.readBinFile path).toList
    catch e => return .error (.ofSystem e)
  names path := do
    let directory := System.mkFilePath [path]
    if ← directory.isDir then
      try
        return some (.ok ((← directory.readDir).toList.map IO.FS.DirEntry.fileName))
      catch e => return some (.error (.ofSystem e))
    else return none
  present path := (System.mkFilePath [path]).pathExists

/-- Whether the environment asks for colours, or a terminal shows them. -/
def wantsColour : IO Bool := do
  match ← IO.getEnv "CLICOLOR_FORCE" with
  | some s => if s ≠ "0" then return true
  | none => pure ()
  if (← IO.getEnv "NO_COLOR").isSome then return false
  (← IO.getStdout).isTty

/-- The variables of the environment that are texts. -/
def environment : IO (List (String × String)) := do
  let bytes ← IO.FS.readBinFile "/proc/self/environ"
  let entries := (bytes.toList.splitOn 0).filterMap Text.decodeUtf8?
  return entries.filterMap fun entry =>
    match entry.toList.span (· ≠ '=') with
    | (name, _ :: value) => some (.ofList name, .ofList value)
    | (_, []) => none

/-- What surrounds the program.  The directory of a process is as old as the process. -/
def surroundings : IO Filter.Surroundings := do
  let start := (← (System.mkFilePath ["/proc/self"]).metadata).modified
  return {
    now := Filter.Value.floatOfInt start.sec + start.nsec.toNat.toFloat / 1000000000
    environment := ← environment
    ahead _ := 0 }

/-- The reply to a command line, within a bound that is great enough. -/
def reply (args : List String) : IO (Except Filter.Ending Command.Reply) := do
  let around ← surroundings
  let read ← IO.mkRef (none : Option (List UInt8))
  -- The standard input can be read only once, however often the command line is run.
  let stdin : IO (List UInt8) := do
    match ← read.get with
    | some bytes => return bytes
    | none =>
      let bytes := (← (← IO.getStdin).readBinToEnd).toList
      read.set (some bytes)
      return bytes
  let mut bound := 20000
  let mut result ← Command.run bound around systemFiles stdin args
  while result matches .error .unfinished do
    bound := 10 * bound
    result ← Command.run bound around systemFiles stdin args
  return result

end Assay

open Assay in
/-- Answers the command line. -/
def main (args : List String) : IO UInt32 := do
  match ← reply args with
  | .ok r =>
    let colour ← wantsColour
    IO.print (r.stdout.render colour)
    IO.eprint (r.stderr.render colour)
    return UInt32.ofNat r.status
  | .error (.exit status output) =>
    IO.print output
    return UInt32.ofNat status
  | .error _ => return 101
