import LiveTimetable.Batch.Updater
import LiveTimetable.Calendar.InstantText
import LiveTimetable.Message.Codec
import LiveTimetable.Store.Departures

/-!
# Reports

What a replay tells when it is done: the summary of the batch, the tally of the updater, how many
records are published, and the boards of the watched stops in the order of their ids.
-/

namespace LiveTimetable

open Json

def Summary.toJson (s : Summary) : Json :=
  record [("applied", int s.applied), ("rejected", int s.rejected),
    ("unknown_trips", int s.unknownTrips), ("failed_tasks", int s.failedTasks)]

def Tally.toJson (t : Tally) : Json :=
  record [("applied", int t.applied), ("rejected_integrity", int t.rejectedIntegrity),
    ("rejected_input", int t.rejectedInput), ("unknown_trip", int t.unknownTrip),
    ("contended", int t.contended)]

def Departure.toJson (d : Departure) : Json :=
  record [
    ("trip_id", text d.key.tripId),
    ("service_date", d.key.date.toJson),
    ("stop_id", text d.stopId),
    ("stop_position", int d.position),
    ("headsign", opt text d.stop.visit.headsign),
    ("scheduled_departure", int d.stop.scheduled.departure.val),
    ("realtime_departure", int d.time.val),
    ("departure_delay", int d.stop.delay.departure),
    ("real_time_state", d.state.toJson),
    ("cancelled", .bool d.isCancelled),
    ("recorded", .bool d.stop.recorded),
    ("prediction_inaccurate", .bool d.stop.inaccurate),
    ("realtime_departure_at", opt (text ∘ utcText) d.instant)]

structure Report where
  summary : Summary
  tally : Tally
  published : Nat
  boards : List (String × List Departure)
deriving DecidableEq, Repr

def Report.toJson (r : Report) : Json :=
  record [
    ("summary", r.summary.toJson),
    ("metrics", r.tally.toJson),
    ("overlays", int r.published),
    ("departures",
      record (r.boards.map fun (stopId, rows) => (stopId, .array (rows.map Departure.toJson))))]

end LiveTimetable
