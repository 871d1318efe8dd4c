import LiveTimetable.Calendar.InstantText
import LiveTimetable.Store.Basic

/-!
# Messages as JSON

The form in which a feed sends its news. A field that may be absent may be null as well; a list
that is absent is empty. Writing gives every field, and spells records as objects and codes as
texts.

A message names its type in a member among others, so it can be taken apart only once it has been
kept as a whole: whatever it holds, known or not, must then be sound. A journey can be decoded from
a value that has not been `kept` as well.
-/

namespace LiveTimetable

open Json

def Date.toJson (d : Date) : Json := Json.text d.text

def Date.ofJson? (j : Json) : Option Date := do Date.ofText? (← j.asString)

def Instant.toJson (t : Instant) : Json := Json.text t.text

def Instant.ofJson? (j : Json) : Option Instant := do Instant.ofText? (← j.asString)

def TripKey.toJson (k : TripKey) : Json :=
  record [("trip_id", text k.tripId), ("service_date", k.date.toJson)]

def TripKey.ofJson? (j : Json) : Option TripKey := do
  let ms ← j.asFields ["trip_id", "service_date"]
  return ⟨← ms.required "trip_id" asString, ← ms.required "service_date" Date.ofJson?⟩

def CallStatus.toJson (s : CallStatus) : Json := text s.code

def CallStatus.ofJson? (kept : Bool) (j : Json) : Option CallStatus := (j.asCode kept).map ofCode

/-- The two members of call times of one kind, such as the aimed ones. -/
def CallTimes.members (arrivalKey departureKey : String) (t : CallTimes) : List (String × Json) :=
  [(arrivalKey, opt Instant.toJson t.arrival), (departureKey, opt Instant.toJson t.departure)]

def CallTimes.ofMembers? (ms : Members) (arrivalKey departureKey : String) : Option CallTimes := do
  return ⟨← ms.optional arrivalKey Instant.ofJson?, ← ms.optional departureKey Instant.ofJson?⟩

def RecordedCall.toJson (c : RecordedCall) : Json :=
  record (
    [("StopPointRef", text c.stopRef), ("Cancellation", opt .bool c.cancellation)] ++
    c.aimed.members "AimedArrivalTime" "AimedDepartureTime" ++
    c.expected.members "ExpectedArrivalTime" "ExpectedDepartureTime" ++
    c.actual.members "ActualArrivalTime" "ActualDepartureTime")

/-- The fields of a recorded call, in their order. -/
def RecordedCall.fields : List String :=
  ["StopPointRef", "Cancellation", "AimedArrivalTime", "AimedDepartureTime", "ExpectedArrivalTime",
    "ExpectedDepartureTime", "ActualArrivalTime", "ActualDepartureTime"]

def RecordedCall.ofJson? (j : Json) : Option RecordedCall := do
  let ms ← j.asFields fields
  return {
    stopRef := ← ms.required "StopPointRef" asString
    cancellation := ← ms.optional "Cancellation" asBool
    aimed := ← CallTimes.ofMembers? ms "AimedArrivalTime" "AimedDepartureTime"
    expected := ← CallTimes.ofMembers? ms "ExpectedArrivalTime" "ExpectedDepartureTime"
    actual := ← CallTimes.ofMembers? ms "ActualArrivalTime" "ActualDepartureTime" }

def Activity.toJson (side : Side) (a : Activity) : Json := text (a.code side)

/-- An activity that may be absent. A code that is not known is as good as none. -/
def Activity.ofMembers? (ms : Members) (key : String) (side : Side) : Option (Option Activity) := do
  return (← ms.optional key asString).bind (Activity.ofCode? side)

def EstimatedCall.toJson (c : EstimatedCall) : Json :=
  record (
    [("StopPointRef", text c.stopRef), ("Cancellation", opt .bool c.cancellation),
      ("PredictionInaccurate", opt .bool c.inaccuracy)] ++
    c.aimed.members "AimedArrivalTime" "AimedDepartureTime" ++
    c.expected.members "ExpectedArrivalTime" "ExpectedDepartureTime" ++
    [("ArrivalStatus", opt CallStatus.toJson c.arrivalStatus),
      ("DepartureStatus", opt CallStatus.toJson c.departureStatus),
      ("ArrivalBoardingActivity", opt (Activity.toJson .arrival) c.arrivalActivity),
      ("DepartureBoardingActivity", opt (Activity.toJson .departure) c.departureActivity),
      ("DestinationDisplay", .array (c.destinations.map text))])

/-- The fields of an estimated call, in their order. -/
def EstimatedCall.fields : List String :=
  ["StopPointRef", "Cancellation", "PredictionInaccurate", "AimedArrivalTime", "AimedDepartureTime",
    "ExpectedArrivalTime", "ExpectedDepartureTime", "ArrivalStatus", "DepartureStatus",
    "ArrivalBoardingActivity", "DepartureBoardingActivity", "DestinationDisplay"]

def EstimatedCall.ofJson? (kept : Bool) (j : Json) : Option EstimatedCall := do
  let ms ← j.asFields fields
  return {
    stopRef := ← ms.required "StopPointRef" asString
    cancellation := ← ms.optional "Cancellation" asBool
    inaccuracy := ← ms.optional "PredictionInaccurate" asBool
    aimed := ← CallTimes.ofMembers? ms "AimedArrivalTime" "AimedDepartureTime"
    expected := ← CallTimes.ofMembers? ms "ExpectedArrivalTime" "ExpectedDepartureTime"
    arrivalStatus := ← ms.optional "ArrivalStatus" (CallStatus.ofJson? kept)
    departureStatus := ← ms.optional "DepartureStatus" (CallStatus.ofJson? kept)
    arrivalActivity := ← Activity.ofMembers? ms "ArrivalBoardingActivity" .arrival
    departureActivity := ← Activity.ofMembers? ms "DepartureBoardingActivity" .departure
    destinations := ← ms.defaulted "DestinationDisplay" (asList asString) [] }

def Journey.toJson (j : Journey) : Json :=
  record [
    ("DatedVehicleJourneyRef", text j.tripRef),
    ("LineRef", opt text j.line),
    ("Cancellation", opt .bool j.cancellation),
    ("PredictionInaccurate", opt .bool j.inaccuracy),
    ("RecordedCalls", .array (j.recorded.map RecordedCall.toJson)),
    ("EstimatedCalls", .array (j.estimated.map EstimatedCall.toJson))]

/-- The fields of a journey, in their order. -/
def Journey.fields : List String :=
  ["DatedVehicleJourneyRef", "LineRef", "Cancellation", "PredictionInaccurate", "RecordedCalls",
    "EstimatedCalls"]

def Journey.ofJson? (kept : Bool) (j : Json) : Option Journey := do
  let ms ← j.asFields fields
  return {
    tripRef := ← ms.required "DatedVehicleJourneyRef" asString
    line := ← ms.optional "LineRef" asString
    cancellation := ← ms.optional "Cancellation" asBool
    inaccuracy := ← ms.optional "PredictionInaccurate" asBool
    recorded := ← ms.defaulted "RecordedCalls" (asList RecordedCall.ofJson?) []
    estimated := ← ms.defaulted "EstimatedCalls" (asList (EstimatedCall.ofJson? kept)) [] }

def MonitoredCall.toJson (c : MonitoredCall) : Json := record [("StopPointRef", opt text c.stopRef)]

def MonitoredCall.ofJson? (j : Json) : Option MonitoredCall := do
  let ms ← j.asFields ["StopPointRef"]
  return ⟨← ms.optional "StopPointRef" asString⟩

def VehicleReport.toJson (v : VehicleReport) : Json :=
  record [
    ("DatedVehicleJourneyRef", text v.tripRef),
    ("LineRef", opt text v.line),
    ("MonitoredCall", opt MonitoredCall.toJson v.monitored),
    ("Delay", opt (fun d => int d.val) v.delay)]

def Seconds.ofJson? (j : Json) : Option Seconds := do Seconds.of? (← j.asInt32)

def VehicleReport.ofJson? (j : Json) : Option VehicleReport := do
  let ms ← j.asFields ["DatedVehicleJourneyRef", "LineRef", "MonitoredCall", "Delay"]
  return {
    tripRef := ← ms.required "DatedVehicleJourneyRef" asString
    line := ← ms.optional "LineRef" asString
    monitored := ← ms.optional "MonitoredCall" MonitoredCall.ofJson?
    delay := ← ms.optional "Delay" Seconds.ofJson? }

def Message.toJson : Message → Json
  | .journey date j =>
    record [("type", text "estimated_journey"), ("service_date", date.toJson),
      ("journey", j.toJson)]
  | .report date r =>
    record [("type", text "vehicle_activity"), ("service_date", date.toJson),
      ("activity", r.toJson)]

/-- A message with at most `depth` levels of nesting. -/
def Message.ofJson? (depth : Nat) (j : Json) : Option Message :=
  if j.sound depth then do
    match ← j.tag? "type" with
    | "estimated_journey" =>
      let ms ← j.asFields ["type", "service_date", "journey"]
      return .journey (← ms.required "service_date" Date.ofJson?)
        (← ms.required "journey" (Journey.ofJson? true))
    | "vehicle_activity" =>
      let ms ← j.asFields ["type", "service_date", "activity"]
      return .report (← ms.required "service_date" Date.ofJson?)
        (← ms.required "activity" VehicleReport.ofJson?)
    | _ => none
  else none

/-- A list of messages; the list is one level of nesting. -/
def Message.listOfJson? (j : Json) : Option (List Message) :=
  j.asList (Message.ofJson? (depthLimit - 1))

end LiveTimetable
