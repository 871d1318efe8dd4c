import LiveTimetable.Message.Codec
import LiveTimetable.Proofs.Calendar.Written
import LiveTimetable.Proofs.Json.Members

/-!
# The instants of a message

A message gives instants with the calls of its journey. All of them come from texts, so a message
that has been decoded gives none that a text could not spell (`Message.spelled_of_ofJson?`).
-/

namespace LiveTimetable

open Json Json.Members

namespace CallTimes

def instants (t : CallTimes) : List Instant := t.arrival.toList ++ t.departure.toList

end CallTimes

def RecordedCall.instants (c : RecordedCall) : List Instant :=
  c.aimed.instants ++ c.expected.instants ++ c.actual.instants

def EstimatedCall.instants (c : EstimatedCall) : List Instant :=
  c.aimed.instants ++ c.expected.instants

def Journey.instants (j : Journey) : List Instant :=
  j.recorded.flatMap (·.instants) ++ j.estimated.flatMap (·.instants)

/-- The instants that a message gives. A report gives none. -/
def Message.instants : Message → List Instant
  | journey _ j => j.instants
  | report .. => []

/-- **Texts can spell the instants of the message.** -/
def Message.Spelled (m : Message) : Prop := ∀ t ∈ m.instants, t.Spelled

instance (m : Message) : Decidable m.Spelled := inferInstanceAs (Decidable (∀ _ ∈ _, _))

/-! ## What is decoded -/

theorem Instant.spelled_of_ofJson? {j : Json} {t : Instant} (read : ofJson? j = some t) :
    t.Spelled := by
  obtain ⟨s, -, read⟩ := Option.bind_eq_some_iff.mp read
  exact spelled_of_ofText? read

theorem CallTimes.spelled_of_ofMembers? {ms : Members} {arrivalKey departureKey : String}
    {times : CallTimes} (read : ofMembers? ms arrivalKey departureKey = some times) :
    ∀ t ∈ times.instants, t.Spelled := by
  simp only [ofMembers?, Option.bind_eq_bind, Option.bind_eq_some_iff] at read
  obtain ⟨arrival, readArrival, departure, readDeparture, made⟩ := read
  cases made
  intro t mem
  rcases List.mem_append.mp mem with mem | mem
  · obtain ⟨v, read⟩ := of_optional readArrival t (Option.mem_toList.mp mem)
    exact Instant.spelled_of_ofJson? read
  · obtain ⟨v, read⟩ := of_optional readDeparture t (Option.mem_toList.mp mem)
    exact Instant.spelled_of_ofJson? read

theorem RecordedCall.spelled_of_ofJson? {j : Json} {c : RecordedCall} (read : ofJson? j = some c) :
    ∀ t ∈ c.instants, t.Spelled := by
  simp only [ofJson?, Option.bind_eq_bind, Option.bind_eq_some_iff] at read
  obtain ⟨ms, -, stopRef, -, cancellation, -, aimed, readAimed, expected, readExpected, actual,
    readActual, made⟩ := read
  cases made
  intro t mem
  rcases List.mem_append.mp mem with mem | mem
  · rcases List.mem_append.mp mem with mem | mem
    · exact CallTimes.spelled_of_ofMembers? readAimed t mem
    · exact CallTimes.spelled_of_ofMembers? readExpected t mem
  · exact CallTimes.spelled_of_ofMembers? readActual t mem

theorem EstimatedCall.spelled_of_ofJson? {kept : Bool} {j : Json} {c : EstimatedCall}
    (read : ofJson? kept j = some c) : ∀ t ∈ c.instants, t.Spelled := by
  simp only [ofJson?, Option.bind_eq_bind, Option.bind_eq_some_iff] at read
  obtain ⟨ms, -, stopRef, -, cancellation, -, inaccuracy, -, aimed, readAimed, expected,
    readExpected, arrivalStatus, -, departureStatus, -, arrivalActivity, -, departureActivity, -,
    destinations, -, made⟩ := read
  cases made
  intro t mem
  rcases List.mem_append.mp mem with mem | mem
  · exact CallTimes.spelled_of_ofMembers? readAimed t mem
  · exact CallTimes.spelled_of_ofMembers? readExpected t mem

theorem Journey.spelled_of_ofJson? {kept : Bool} {j : Json} {journey : Journey}
    (read : ofJson? kept j = some journey) : ∀ t ∈ journey.instants, t.Spelled := by
  simp only [ofJson?, Option.bind_eq_bind, Option.bind_eq_some_iff] at read
  obtain ⟨ms, -, tripRef, -, line, -, cancellation, -, inaccuracy, -, recorded, readRecorded,
    estimated, readEstimated, made⟩ := read
  cases made
  intro t mem
  rcases List.mem_append.mp mem with mem | mem
  · obtain ⟨call, inList, mem⟩ := List.mem_flatMap.mp mem
    obtain ⟨v, read⟩ := of_defaulted_asList readRecorded call inList
    exact RecordedCall.spelled_of_ofJson? read t mem
  · obtain ⟨call, inList, mem⟩ := List.mem_flatMap.mp mem
    obtain ⟨v, read⟩ := of_defaulted_asList readEstimated call inList
    exact EstimatedCall.spelled_of_ofJson? read t mem

/-- **A message that is decoded gives instants that texts can spell.** -/
theorem Message.spelled_of_ofJson? {depth : Nat} {j : Json} {m : Message}
    (read : ofJson? depth j = some m) : m.Spelled := by
  unfold ofJson? at read
  split at read
  next sound =>
    obtain ⟨type, -, read⟩ := Option.bind_eq_some_iff.mp read
    split at read
    next =>
      simp only [Option.bind_eq_bind, Option.bind_eq_some_iff] at read
      obtain ⟨ms, -, date, -, journey, readJourney, made⟩ := read
      cases made
      obtain ⟨v, read⟩ := of_required readJourney
      exact Journey.spelled_of_ofJson? read
    next =>
      simp only [Option.bind_eq_bind, Option.bind_eq_some_iff] at read
      obtain ⟨ms, -, date, -, report, -, made⟩ := read
      cases made
      exact fun t mem => nomatch mem
    next => cases read
  next => cases read

end LiveTimetable
