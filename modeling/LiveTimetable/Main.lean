import LiveTimetable.Calendar.ZoneTable
import LiveTimetable.Json.Writer
import LiveTimetable.Replay.Run

/-!
# The command line

Runs the replay that a configuration file asks for and prints its report. A replay that fails prints
nothing; the error goes to the error stream, and the exit code tells whether the replay gave up or
broke off.
-/

namespace LiveTimetable.Main

/-- Why a file cannot be read, told by the number of the error. -/
def failure : IO.Error → ReadFailure
  | .noFileOrDirectory .. => .notFound
  | .permissionDenied .. => .other "Permission denied (os error 13)"
  | .inappropriateType _ 20 _ => .notFolder
  | .inappropriateType .. => .isFolder
  | .invalidArgument _ 36 _ => .nameTooLong
  | e => .other e.toString

def readFile (path : String) : IO Replay.Content := do
  if hasNul path then return .error .nulInPath
  try
    return .ok (← IO.FS.readFile path)
  catch e => return .error (failure e)

def host : Replay.Host IO := ⟨readFile, Config.ofText?, Zone.named?⟩

end LiveTimetable.Main

open LiveTimetable in
def main (args : List String) : IO UInt32 := do
  match ← (Replay.run Main.host (Replay.configPath args)).run with
  | .ok report =>
    IO.println (report.toJson.page 0)
    return 0
  | .error e =>
    IO.eprintln ("Replay failed: " ++ e.message)
    return e.exitCode.toUInt32
