import LiveTimetable.Proofs.Json.Line
import LiveTimetable.Proofs.Message.Instants

/-!
# Messages are read back

A message that is written is decoded to the same message, if texts can spell its instants: each part
of it is decoded by what has written it (`ReadsBack`), so no member is lost on the way. What a feed
sends may be spelled in many ways and hold more than is kept; what is kept of it stays as it is from
then on (`Message.decode_encode_decode`).

A message nests five levels deep: the message, its journey, the list of calls, a call and the list
of its destinations. A depth that is allowed must hold them.
-/

namespace LiveTimetable

open Json Json.Members

theorem Date.ofJson?_toJson (d : Date) : ReadsBack Date.ofJson? Date.toJson d :=
  Date.ofText?_text d

theorem Instant.ofJson?_toJson {t : Instant} (spelled : t.Spelled) :
    ReadsBack Instant.ofJson? Instant.toJson t := by
  have written : asString t.toJson = some t.text := rfl
  rw [ReadsBack, Instant.ofJson?, written, Option.bind_eq_bind, Option.bind_some]
  exact Instant.ofText?_text spelled

theorem CallStatus.ofJson?_toJson (kept : Bool) (s : CallStatus) :
    ReadsBack (CallStatus.ofJson? kept) CallStatus.toJson s := by
  simp [ReadsBack, CallStatus.ofJson?, CallStatus.toJson, text, asCode]

theorem Seconds.ofJson?_int (d : Seconds) : ReadsBack Seconds.ofJson? (fun d => int d.val) d := by
  simp [ReadsBack, Seconds.ofJson?, int, asInt32, asIntWithin, d.held]

section

variable {ms : Members} (distinct : ms.Distinct) {arrivalKey departureKey key : String}
include distinct

theorem optional_text {a : Option String} (mem : (key, opt text a) ∈ ms) :
    ms.optional key asString = some a :=
  optional_of_mem distinct (fun s _ => asString_text s) (fun _ => nofun) mem

theorem optional_bool {a : Option Bool} (mem : (key, opt .bool a) ∈ ms) :
    ms.optional key asBool = some a :=
  optional_of_mem distinct (fun b _ => asBool_bool b) (fun _ => nofun) mem

theorem optional_status {kept : Bool} {a : Option CallStatus}
    (mem : (key, opt CallStatus.toJson a) ∈ ms) :
    ms.optional key (CallStatus.ofJson? kept) = some a :=
  optional_of_mem distinct (fun s _ => CallStatus.ofJson?_toJson kept s) (fun _ => nofun) mem

theorem CallTimes.ofMembers?_members {t : CallTimes} (spelled : ∀ i ∈ t.instants, i.Spelled)
    (mem : t.members arrivalKey departureKey ⊆ ms) :
    CallTimes.ofMembers? ms arrivalKey departureKey = some t := by
  have own : ∀ i, i ∈ t.arrival ∨ i ∈ t.departure → i.Spelled := fun i given =>
    spelled i (List.mem_append.mpr (given.imp Option.mem_toList.mpr Option.mem_toList.mpr))
  have arrival := optional_of_mem distinct (fun i given => Instant.ofJson?_toJson (own i (.inl given)))
    (fun _ => nofun) (mem (List.mem_cons_self ..))
  have departure := optional_of_mem distinct
    (fun i given => Instant.ofJson?_toJson (own i (.inr given))) (fun _ => nofun)
    (mem (List.mem_cons_of_mem _ (List.mem_cons_self ..)))
  simp [ofMembers?, arrival, departure]

theorem Activity.ofMembers?_opt {side : Activity.Side} {a : Option Activity}
    (mem : (key, opt (Activity.toJson side) a) ∈ ms) :
    Activity.ofMembers? ms key side = some a := by
  have asCode : (key, opt text (a.map (Activity.code side))) ∈ ms := by
    cases a <;> exact mem
  rw [ofMembers?, optional_text distinct asCode]
  cases a <;> simp

end

namespace RecordedCall

theorem ofJson?_toJson {c : RecordedCall} (spelled : ∀ t ∈ c.instants, t.Spelled) :
    ReadsBack ofJson? toJson c := by
  refine decode_record (by simp [Distinct, CallTimes.members]) fun ms distinct mem => ?_
  have stopRef : ms.required "StopPointRef" asString = some c.stopRef :=
    required_of_mem distinct (asString_text _) (mem (by simp))
  have cancellation : ms.optional "Cancellation" asBool = some c.cancellation :=
    optional_bool distinct (mem (by simp))
  have aimed : CallTimes.ofMembers? ms "AimedArrivalTime" "AimedDepartureTime" = some c.aimed :=
    CallTimes.ofMembers?_members distinct (fun t h => spelled t (by simp [instants, h]))
      fun _ h => mem (by simp [h])
  have expected : CallTimes.ofMembers? ms "ExpectedArrivalTime" "ExpectedDepartureTime" =
      some c.expected :=
    CallTimes.ofMembers?_members distinct (fun t h => spelled t (by simp [instants, h]))
      fun _ h => mem (by simp [h])
  have actual : CallTimes.ofMembers? ms "ActualArrivalTime" "ActualDepartureTime" = some c.actual :=
    CallTimes.ofMembers?_members distinct (fun t h => spelled t (by simp [instants, h]))
      fun _ h => mem (by simp [h])
  simp [stopRef, cancellation, aimed, expected, actual]

theorem sound_toJson (depth : Nat) (c : RecordedCall) : c.toJson.sound (depth + 1) = true := by
  simp [toJson, CallTimes.members, Instant.toJson]

end RecordedCall

namespace EstimatedCall

theorem ofJson?_toJson (kept : Bool) {c : EstimatedCall} (spelled : ∀ t ∈ c.instants, t.Spelled) :
    ReadsBack (ofJson? kept) toJson c := by
  refine decode_record (by simp [Distinct, CallTimes.members]) fun ms distinct mem => ?_
  have stopRef : ms.required "StopPointRef" asString = some c.stopRef :=
    required_of_mem distinct (asString_text _) (mem (by simp))
  have cancellation : ms.optional "Cancellation" asBool = some c.cancellation :=
    optional_bool distinct (mem (by simp))
  have inaccuracy : ms.optional "PredictionInaccurate" asBool = some c.inaccuracy :=
    optional_bool distinct (mem (by simp))
  have aimed : CallTimes.ofMembers? ms "AimedArrivalTime" "AimedDepartureTime" = some c.aimed :=
    CallTimes.ofMembers?_members distinct (fun t h => spelled t (by simp [instants, h]))
      fun _ h => mem (by simp [h])
  have expected : CallTimes.ofMembers? ms "ExpectedArrivalTime" "ExpectedDepartureTime" =
      some c.expected :=
    CallTimes.ofMembers?_members distinct (fun t h => spelled t (by simp [instants, h]))
      fun _ h => mem (by simp [h])
  have arrivalStatus : ms.optional "ArrivalStatus" (CallStatus.ofJson? kept) =
      some c.arrivalStatus := optional_status distinct (mem (by simp))
  have departureStatus : ms.optional "DepartureStatus" (CallStatus.ofJson? kept) =
      some c.departureStatus := optional_status distinct (mem (by simp))
  have arrivalActivity : Activity.ofMembers? ms "ArrivalBoardingActivity" .arrival =
      some c.arrivalActivity := Activity.ofMembers?_opt distinct (mem (by simp))
  have departureActivity : Activity.ofMembers? ms "DepartureBoardingActivity" .departure =
      some c.departureActivity := Activity.ofMembers?_opt distinct (mem (by simp))
  have destinations : ms.defaulted "DestinationDisplay" (asList asString) [] =
      some c.destinations :=
    defaulted_of_mem distinct (asList_map fun s _ => asString_text s) (mem (by simp))
  simp [stopRef, cancellation, inaccuracy, aimed, expected, arrivalStatus, departureStatus,
    arrivalActivity, departureActivity, destinations]

theorem sound_toJson (depth : Nat) (c : EstimatedCall) : c.toJson.sound (depth + 2) = true := by
  simp [toJson, CallTimes.members, Instant.toJson, CallStatus.toJson, Activity.toJson]

end EstimatedCall

namespace Journey

theorem ofJson?_toJson (kept : Bool) {j : Journey} (spelled : ∀ t ∈ j.instants, t.Spelled) :
    ReadsBack (ofJson? kept) toJson j := by
  have ofRecorded : ∀ c ∈ j.recorded, ∀ t ∈ c.instants, t.Spelled := fun c mem t given =>
    spelled t (List.mem_append_left _ (List.mem_flatMap.mpr ⟨c, mem, given⟩))
  have ofEstimated : ∀ c ∈ j.estimated, ∀ t ∈ c.instants, t.Spelled := fun c mem t given =>
    spelled t (List.mem_append_right _ (List.mem_flatMap.mpr ⟨c, mem, given⟩))
  refine decode_record (by simp [Distinct]) fun ms distinct mem => ?_
  have tripRef : ms.required "DatedVehicleJourneyRef" asString = some j.tripRef :=
    required_of_mem distinct (asString_text _) (mem (by simp))
  have line : ms.optional "LineRef" asString = some j.line :=
    optional_text distinct (mem (by simp))
  have cancellation : ms.optional "Cancellation" asBool = some j.cancellation :=
    optional_bool distinct (mem (by simp))
  have inaccuracy : ms.optional "PredictionInaccurate" asBool = some j.inaccuracy :=
    optional_bool distinct (mem (by simp))
  have recorded : ms.defaulted "RecordedCalls" (asList RecordedCall.ofJson?) [] =
      some j.recorded :=
    defaulted_of_mem distinct
      (asList_map fun c mem => RecordedCall.ofJson?_toJson (ofRecorded c mem)) (mem (by simp))
  have estimated : ms.defaulted "EstimatedCalls" (asList (EstimatedCall.ofJson? kept)) [] =
      some j.estimated :=
    defaulted_of_mem distinct
      (asList_map fun c mem => EstimatedCall.ofJson?_toJson kept (ofEstimated c mem)) (mem (by simp))
  simp [tripRef, line, cancellation, inaccuracy, recorded, estimated]

theorem sound_toJson (depth : Nat) (j : Journey) : j.toJson.sound (depth + 4) = true := by
  simp [toJson, RecordedCall.sound_toJson, EstimatedCall.sound_toJson]

end Journey

theorem MonitoredCall.ofJson?_toJson (c : MonitoredCall) : ReadsBack ofJson? toJson c := by
  refine decode_record (by simp [Distinct]) fun ms distinct mem => ?_
  have stopRef : ms.optional "StopPointRef" asString = some c.stopRef :=
    optional_text distinct (mem (by simp))
  simp [stopRef]

namespace VehicleReport

theorem ofJson?_toJson (v : VehicleReport) : ReadsBack ofJson? toJson v := by
  refine decode_record (by simp [Distinct]) fun ms distinct mem => ?_
  have tripRef : ms.required "DatedVehicleJourneyRef" asString = some v.tripRef :=
    required_of_mem distinct (asString_text _) (mem (by simp))
  have line : ms.optional "LineRef" asString = some v.line :=
    optional_text distinct (mem (by simp))
  have monitored : ms.optional "MonitoredCall" MonitoredCall.ofJson? = some v.monitored :=
    optional_of_mem distinct (fun c _ => MonitoredCall.ofJson?_toJson c) (fun _ => nofun)
      (mem (by simp))
  have delay : ms.optional "Delay" Seconds.ofJson? = some v.delay :=
    optional_of_mem distinct (fun d _ => Seconds.ofJson?_int d) (fun _ => nofun) (mem (by simp))
  simp [tripRef, line, monitored, delay]

theorem sound_toJson (depth : Nat) (v : VehicleReport) : v.toJson.sound (depth + 2) = true := by
  have delay : ∀ d : Seconds, (int d.val).sound (depth + 1) = true := fun d => by
    have held := d.held
    exact Numeral.finite_integer (by omega)
  simp [toJson, MonitoredCall.toJson, delay]

end VehicleReport

namespace Message

theorem sound_toJson {depth : Nat} (deep : 5 ≤ depth) (m : Message) :
    m.toJson.sound depth = true := by
  obtain ⟨depth, rfl⟩ := Nat.exists_eq_add_of_le' deep
  cases m with
  | journey date j => simp [toJson, Date.toJson, Journey.sound_toJson]
  | report date v => simp [toJson, Date.toJson, VehicleReport.sound_toJson]

/-- **A message that is written is read back**, where its five levels of nesting are allowed and
texts can spell its instants. -/
theorem ofJson?_toJson {depth : Nat} (deep : 5 ≤ depth) {m : Message} (spelled : m.Spelled) :
    ReadsBack (ofJson? depth) toJson m := by
  rw [ReadsBack, ofJson?, if_pos (sound_toJson deep m)]
  cases m with
  | journey date j =>
    have type : (toJson (journey date j)).tag? "type" = some "estimated_journey" :=
      tag?_record (by simp [Distinct]) (by simp)
    simp only [type, Option.bind_eq_bind, Option.bind_some]
    refine decode_record (by simp [Distinct]) fun ms distinct mem => ?_
    have day : ms.required "service_date" Date.ofJson? = some date :=
      required_of_mem distinct (Date.ofJson?_toJson date) (mem (by simp))
    have news : ms.required "journey" (Journey.ofJson? true) = some j :=
      required_of_mem distinct (Journey.ofJson?_toJson true spelled) (mem (by simp))
    simp [day, news]
  | report date v =>
    have type : (toJson (report date v)).tag? "type" = some "vehicle_activity" :=
      tag?_record (by simp [Distinct]) (by simp)
    simp only [type, Option.bind_eq_bind, Option.bind_some]
    refine decode_record (by simp [Distinct]) fun ms distinct mem => ?_
    have day : ms.required "service_date" Date.ofJson? = some date :=
      required_of_mem distinct (Date.ofJson?_toJson date) (mem (by simp))
    have news : ms.required "activity" VehicleReport.ofJson? = some v :=
      required_of_mem distinct (VehicleReport.ofJson?_toJson v) (mem (by simp))
    simp [day, news]

/-- A list of messages is read back, one level further down. -/
theorem listOfJson?_toJson {messages : List Message} (spelled : ∀ m ∈ messages, m.Spelled) :
    ReadsBack listOfJson? (fun ms => .array (ms.map toJson)) messages :=
  asList_map fun m mem => ofJson?_toJson (by decide) (spelled m mem)

/-- The message is read back from the line that it is written on. -/
theorem ofText?_line_toJson {depth : Nat} (deep : 5 ≤ depth) {m : Message} (spelled : m.Spelled) :
    (Json.ofText? m.toJson.line).bind (ofJson? depth) = some m := by
  rw [Json.ofText?_line (sound_toJson deep m), Option.bind_some]
  exact ofJson?_toJson deep spelled

/-- **What is made of a value stays as it is**: the message that a value is decoded to, however the
value spells it and whatever else it holds, is decoded again from what it is written as, as a value
and as a line of text. -/
theorem decode_encode_decode {depth : Nat} (deep : 5 ≤ depth) (j : Json) :
    (∀ m, ofJson? depth j = some m → ofJson? depth m.toJson = some m ∧
        (Json.ofText? m.toJson.line).bind (ofJson? depth) = some m) ∧
      ((ofJson? depth j).bind fun m => ofJson? depth m.toJson) = ofJson? depth j := by
  constructor
  · intro m decoded
    have spelled := spelled_of_ofJson? decoded
    exact ⟨ofJson?_toJson deep spelled, ofText?_line_toJson deep spelled⟩
  · cases decoded : ofJson? depth j with
    | none => rfl
    | some m => exact ofJson?_toJson deep (spelled_of_ofJson? decoded)

end Message

namespace Sample

/-- A journey as a feed may send it, with members, a status and an activity that are not known, a
short spelling of a year far off and of a leap second before the year zero. -/
def sent : Json :=
  record [
    ("extra", .array [.null, text "?"]),
    ("service_date", text "+12024-2-29 "),
    ("journey", record [
      ("EstimatedCalls", .array [record [
        ("StopPointRef", text "A"),
        ("AimedArrivalTime", text "-4-12-31t3:4:60.5-0130"),
        ("AimedDepartureTime", .null),
        ("ArrivalStatus", text "slightly early"),
        ("ArrivalBoardingActivity", text "jumping")]]),
      ("DatedVehicleJourneyRef", text "t"),
      ("Cancellation", .bool false)]),
    ("type", text "estimated_journey")]

/-- The message that is kept of it. -/
def kept : Message :=
  .journey ⟨3672207, by decide⟩ {
    tripRef := "t"
    line := none
    cancellation := some false
    inaccuracy := none
    recorded := []
    estimated := [{
      stopRef := "A"
      cancellation := none
      inaccuracy := none
      aimed := ⟨some ⟨-62261897101, 1500000000, -5400, by decide, by decide, by decide, by decide⟩,
        none⟩
      expected := ⟨none, none⟩
      arrivalStatus := some .unknown
      departureStatus := none
      arrivalActivity := none
      departureActivity := none
      destinations := [] }] }

end Sample

namespace Message

/-- The leap second is written out in full, with the status that stands for any that is not known;
both are read again. -/
theorem decode_encode_decode_sent :
    5 ≤ depthLimit ∧ ofJson? depthLimit Sample.sent = some Sample.kept ∧
      ofJson? depthLimit Sample.kept.toJson = some Sample.kept ∧
      (Json.ofText? Sample.kept.toJson.line).bind (ofJson? depthLimit) = some Sample.kept := by
  have decoded : ofJson? depthLimit Sample.sent = some Sample.kept := by decide +kernel
  exact ⟨by decide, decoded, (decode_encode_decode (by decide) Sample.sent).1 _ decoded⟩

end Message

end LiveTimetable
