import DeviceHub.CommandLine.Run
import Std.Time.DateTime

/-
  The program: it reads files and variables, runs, and
  writes what the run leaves.

  Key definitions include:
    * `main`
-/

open DeviceHub
open DeviceHub.CommandLine

namespace DeviceHub

namespace Program

/- What the program says about its use. -/
def usageText : String :=
  "Usage: fleetwire [-c FILE] COMMAND\n\n" ++
  "  check                     start and stop all parts\n" ++
  "  decode [-k KIND] FILE     print the events of a payload\n" ++
  "  assets search ID [TEXT]   search an asset module\n" ++
  "  assets refresh            refresh all asset modules\n"

/- What a path names; what cannot be read is no file. -/
def look
    (path : String) : IO FileEntry := do
  try
    let bytes ← IO.FS.readBinFile path
    return .content bytes.toList
  catch
    | .noFileOrDirectory .. => return .missing
    | _ => return .directory

/- Look at some paths; no others are seen. -/
def lookAll
    (paths : List String) : IO FileView := do
  let seen ← paths.mapM fun p => return (p, ← look p)
  return fun p => (seen.lookup p).getD .missing

/- The variables that matter. -/
def environment : IO (Dict String) := do
  let mut found : Dict String := .empty
  for name in [configVariable, throttleVariable] do
    if let some value ← IO.getEnv name then
      found := found.insert name value
  return found

/- The time. -/
def now : IO Instant := do
  let since := (← Std.Time.Timestamp.now).toDurationSinceUnixEpoch
  return ⟨since.second.val, since.nano.val.toNat⟩

/- See first what names the files, and then those. -/
def surroundings
    (a : Arguments) : IO Surroundings := do
  let s : Surroundings :=
    ⟨fun _ => .missing, ← environment, ← now⟩
  let s := { s with files := ← lookAll (a.neededFiles s) }
  return { s with files := ← lookAll (a.neededFiles s) }

end Program

end DeviceHub

/- Run, and end with the exit code. -/
def main
    (args : List String) : IO UInt32 := do
  match Arguments.parse args with
  | .error .explained =>
      IO.print Program.usageText
      return 0
  | .error u =>
      IO.eprint Program.usageText
      return u.exitCode.toUInt32
  | .ok a =>
      let outcome := a.run (← Program.surroundings a)
      IO.print outcome.output.toText
      if let some e := outcome.error? then
        IO.eprintln s!"Error: {e}"
      return outcome.ending.exitCode.toUInt32
