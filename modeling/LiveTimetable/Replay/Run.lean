import LiveTimetable.Json.Reader
import LiveTimetable.Replay.Config
import LiveTimetable.Replay.Files
import LiveTimetable.Replay.Report
import LiveTimetable.Replay.ScheduleFile

/-!
# Replays

A replay applies one batch of messages to one schedule and reports what comes of it. Which files to
read is told by a configuration, itself a file. What it is run on is a parameter, its `Host`: reading
a file is the only effect, so `run` works over any monad that can do it, and how the text of a
configuration is read and which zones there are is left to the host as well.

The configuration is read and checked before the schedule, and the schedule is read and built before
the messages.
-/

namespace LiveTimetable

/-- Why a replay gives no report. -/
inductive ReplayError
  | unreadable (reason : ReadFailure)
  | malformed
  | schedule (error : ScheduleError)
  | config (error : ConfigError)
  /-- The boards show departures that the calendar does not reach. -/
  | offCalendar
  /-- The batch was not begun. -/
  | tooManyPlaces
deriving DecidableEq, Repr

def ReplayError.message : ReplayError → String
  | unreadable reason => "IO error: " ++ reason.message
  | malformed => "JSON error"
  | schedule (.timetable error) => "Timetable error: " ++ error.message
  | schedule error => error.message
  | config error => "Config error: " ++ error.message
  | offCalendar => "Task join error: departures leave the calendar"
  | tooManyPlaces =>
    "a semaphore may not have more than MAX_PERMITS permits (" ++ toString mostPlaces ++ ")"

/-- The exit code of a replay without a report. -/
def ReplayError.exitCode : ReplayError → Nat
  | tooManyPlaces => 101
  | _ => 1

namespace Replay

/-- A file as it was found: its text, or the reason why it cannot be read. -/
abbrev Content := Except ReadFailure String

/-- What a replay is run on. -/
structure Host (m : Type → Type) where
  read : String → m Content
  /-- The configuration that a text holds. -/
  config? : String → Option Config
  /-- The zone of a name. -/
  zone? : String → Option Zone

/-- The configuration in a file, with its zone. -/
def config (config? : String → Option Config) (zone? : String → Option Zone) (content : Content) :
    Except ReplayError (Config × Zone) := do
  let text ← content.mapError fun reason => .config (.unreadable reason)
  match config? text with
  | none => throw (.config .malformed)
  | some config =>
    let zone ← (config.validate zone?).mapError .config
    return (config, zone)

/-- The value that a file of JSON spells. -/
def value (content : Content) (decode : Json → Option α) : Except ReplayError α := do
  let text ← content.mapError .unreadable
  match (Json.ofText? text).bind decode with
  | some value => return value
  | none => throw .malformed

def schedule (content : Content) (zone : Zone) : Except ReplayError Schedule := do
  let file ← value content ScheduleFile.ofJson?
  (Schedule.ofFile file zone).mapError .schedule

def messages (content : Content) : Except ReplayError (List Message) :=
  value content Message.listOfJson?

/-- The stops to watch, in order and each once. -/
def watched (c : Config) : List String := c.watchedStops.eraseDups.mergeSort

/-- The store without the records that are too old to keep. Where the calendar does not reach back
far enough none is. -/
def retain (c : Config) (s : Store) : Store :=
  match c.serviceDate.back? c.updater.retainDays with
  | some before => s.purge before
  | none => s

/-- The report of a batch on a schedule. -/
def report (c : Config) (s : Schedule) (batch : List Message) : Except ReplayError Report := do
  let (updater, summary) ←
    ((LimitedUpdater.ofSchedule s c.updater.maxConcurrentTrips).applyBatch batch).mapError
      fun (_ : TooManyPlaces) => .tooManyPlaces
  let store := retain c updater.store
  let boards ← ((watched c).mapM fun stopId => do
    return (stopId, ← store.departures stopId c.serviceDate c.departures)).mapError
      fun (_ : OffCalendar) => .offCalendar
  return ⟨summary, updater.tally, store.published.size, boards⟩

/-- The replay that the configuration file at `path` asks for. -/
def run [Monad m] (host : Host m) (path : String) : ExceptT ReplayError m Report := do
  let (config, zone) ← ExceptT.mk (return config host.config? host.zone? (← host.read path))
  let schedule ← ExceptT.mk (return schedule (← host.read config.schedulePath) zone)
  let messages ← ExceptT.mk (return messages (← host.read config.messagesPath))
  ExceptT.mk (return report config schedule messages)

/-- The path of the configuration: the first argument, if there is one. -/
def configPath (args : List String) : String := args.head?.getD "config.yaml"

end Replay

end LiveTimetable
