import LiveTimetable.Calendar.DateText
import LiveTimetable.Calendar.Zone
import LiveTimetable.Replay.Files
import LiveTimetable.Store.Departures
import LiveTimetable.Yaml.Decode

/-!
# Configurations

What a replay reads and shows: a YAML text with the files to read, the zone and the service date,
the stops to watch, and the settings of the updater and of the boards.

The zone is given by its name. Which zones there are is not said here: a configuration is asked for
its zone by whoever can look one up. Nor does a replay depend on how the text is read.
-/

namespace LiveTimetable

open Yaml Yaml.Node

/-- The settings of the updater. -/
structure UpdaterConfig where
  /-- How many trips may be updated at one time. -/
  maxConcurrentTrips : Nat
  /-- For how many days before the service date records are kept. -/
  retainDays : Nat
deriving DecidableEq, Repr

structure Config where
  schedulePath : String
  messagesPath : String
  timezone : String
  serviceDate : Date
  watchedStops : List String
  updater : UpdaterConfig
  departures : BoardQuery
deriving DecidableEq, Repr

inductive ConfigError
  | unreadable (reason : ReadFailure)
  | malformed
  | unknownZone (name : String)
  | noConcurrency
deriving DecidableEq, Repr

def ConfigError.message : ConfigError → String
  | unreadable reason => "Failed to read config file: " ++ reason.message
  | malformed => "Failed to parse config"
  | unknownZone name => "Unknown time zone: " ++ name
  | noConcurrency => "Invalid config: updater.max_concurrent_trips must be at least 1"

namespace UpdaterConfig

def standard : UpdaterConfig := ⟨8, 1⟩

def ofNode? (n : Node) : Option UpdaterConfig := do
  let fields ← n.asFields ["max_concurrent_trips", "retain_days"]
  return {
    maxConcurrentTrips :=
      ← defaulted fields "max_concurrent_trips" (asCount 0xffffffffffffffff) standard.maxConcurrentTrips
    retainDays := ← defaulted fields "retain_days" (asCount 0xffffffff) standard.retainDays }

end UpdaterConfig

namespace BoardQuery

/-- The board as it is shown to passengers: all departures that take place. -/
def standard : BoardQuery := ⟨false, false, none⟩

def ofNode? (n : Node) : Option BoardQuery := do
  let fields ← n.asFields ["omit_non_pickups", "include_cancelled", "max_results"]
  return {
    omitNonPickups := ← defaulted fields "omit_non_pickups" asFlag standard.omitNonPickups
    includeCancelled := ← defaulted fields "include_cancelled" asFlag standard.includeCancelled
    limit :=
      ← defaulted fields "max_results" (asOptional (asCount 0xffffffffffffffff)) standard.limit }

end BoardQuery

namespace Config

def ofNode? (n : Node) : Option Config := do
  let fields ← n.asFields
    ["schedule_path", "messages_path", "timezone", "service_date", "watched_stops", "updater",
      "departures"]
  return {
    schedulePath := ← required fields "schedule_path" asText
    messagesPath := ← required fields "messages_path" asText
    timezone := ← defaulted fields "timezone" asText "Europe/Oslo"
    serviceDate := ← required fields "service_date" fun n => do Date.ofText? (← n.asText)
    watchedStops := ← defaulted fields "watched_stops" (asList asText) []
    updater := ← defaulted fields "updater" UpdaterConfig.ofNode? .standard
    departures := ← defaulted fields "departures" BoardQuery.ofNode? .standard }

/-- The configuration that a text holds, for hosts that have no reader of YAML of their own. -/
def ofText? (s : String) : Option Config := (Node.ofText? s).bind ofNode?

variable (named? : String → Option Zone)

def zone (c : Config) : Except ConfigError Zone :=
  match named? c.timezone with
  | some zone => .ok zone
  | none => .error (.unknownZone c.timezone)

/-- The zone of a configuration that can be used. -/
def validate (c : Config) : Except ConfigError Zone := do
  let zone ← c.zone named?
  if c.updater.maxConcurrentTrips = 0 then throw .noConcurrency else return zone

end Config

end LiveTimetable
