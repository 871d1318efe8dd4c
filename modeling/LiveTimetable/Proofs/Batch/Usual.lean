import LiveTimetable.Proofs.Batch.Groups
import LiveTimetable.Proofs.Calendar.Usual
import LiveTimetable.Proofs.Columns.Matching
import LiveTimetable.Proofs.Message.Instants
import Mathlib.Data.Option.Basic

/-!
# Messages of usual years

A journey gives instants, and all that a store works out with the calendar it works out from one of
them. Where they lie in usual years (`Message.Usual`) the message is taken up or refused, and a batch
of such messages has no group that is not carried through: `Updater.failedTasks_of_usual`.
-/

namespace LiveTimetable

/-! ## References -/

namespace CallTimes

theorem mem_instants_of_either {times : CallTimes} {t : Instant} (h : times.either = some t) :
    t ∈ times.instants := by
  rw [instants, List.mem_append, Option.mem_toList, Option.mem_toList]
  rcases (Option.orElse_eq_some ..).mp h with departure | ⟨-, arrival⟩
  · exact .inr departure
  · exact .inl arrival

end CallTimes

def MatchedCall.instants : MatchedCall → List Instant
  | recorded _ call => call.instants
  | estimated _ call => call.instants

/-- **The message gives instants of usual years only.** Its service date is not calculated with. -/
def Message.Usual (m : Message) : Prop := ∀ t ∈ m.instants, t.Usual

instance (m : Message) : Decidable m.Usual := inferInstanceAs (Decidable (∀ _ ∈ _, _))

/-- The reference of a call is one of its instants. -/
theorem MatchedCall.mem_instants_of_reference {call : MatchedCall} {t : Instant}
    (h : call.reference? = some t) : t ∈ call.instants := by
  cases call with
  | recorded index call =>
    rw [instants, RecordedCall.instants, List.mem_append, List.mem_append]
    rcases (Option.orElse_eq_some ..).mp h with aimed | ⟨-, h⟩
    · exact .inl (.inl (CallTimes.mem_instants_of_either aimed))
    · rcases (Option.orElse_eq_some ..).mp h with expected | ⟨-, actual⟩
      · exact .inl (.inr (CallTimes.mem_instants_of_either expected))
      · exact .inr (CallTimes.mem_instants_of_either actual)
  | estimated index call =>
    rw [instants, EstimatedCall.instants, List.mem_append]
    rcases (Option.orElse_eq_some ..).mp h with aimed | ⟨-, expected⟩
    · exact .inl (CallTimes.mem_instants_of_either aimed)
    · exact .inr (CallTimes.mem_instants_of_either expected)

/-- The instants of a call in place are instants of the journey. -/
theorem Match.InPlace.mem_instants {found : Match} {journey : Journey} (inPlace : found.InPlace journey)
    {t : Instant} (h : t ∈ found.call.instants) : t ∈ journey.instants := by
  obtain ⟨call, serving⟩ := found
  rw [Journey.instants, List.mem_append]
  cases call with
  | recorded index call =>
    exact .inl (List.mem_flatMap.mpr ⟨call, List.mem_of_getElem? inPlace, h⟩)
  | estimated index call =>
    exact .inr (List.mem_flatMap.mpr ⟨call, List.mem_of_getElem? inPlace, h⟩)

/-! ## Usual messages -/

/-- A journey of usual instants is worked out inside the calendar. -/
theorem Timetable.afterJourney_ne_offCalendar {t : Timetable} {current : TripRecord}
    {journey : Journey} {lookup : StopLookup} {zone : Zone} (usual : ∀ i ∈ journey.instants, i.Usual) :
    t.afterJourney current journey lookup zone ≠ .error .offCalendar := by
  intro h
  obtain ⟨i, stuck⟩ := pass_of_afterJourney_offCalendar h
  obtain ⟨slot, member, found, matched, off⟩ := Propagation.serviceStart_of_pass stuck
  obtain ⟨position, hslot⟩ := List.getElem?_of_mem member
  obtain ⟨v, match?, old, -, hmatch, -, rfl⟩ := Propagation.slots_getElem?_eq_some_iff.mp hslot
  cases matched
  have inPlace := Matching.inPlace_matching (List.mem_of_getElem? hmatch)
  refine Propagation.serviceStart_of_usual (fun reference told => ?_) _ _ off
  exact usual reference (inPlace.mem_instants (MatchedCall.mem_instants_of_reference told))

/-- **A usual message is taken up or refused**, by every store. -/
theorem Store.apply_ne_offCalendar {m : Message} (usual : m.Usual) (s : Store) :
    s.apply m ≠ .error .offCalendar := by
  intro h
  rw [apply_eq, Outcome.map_eq_error] at h
  unfold Schedule.successor at h
  split at h
  next => cases h
  next t trip =>
    cases m with
    | journey date journey => exact t.afterJourney_ne_offCalendar usual h
    | report date report =>
      obtain ⟨e, -, told⟩ := Outcome.mapError_eq_error.mp h
      cases told

namespace Updater

/-- Usual messages can be taken up in turn. -/
theorem inTurn?_of_usual {messages : List Message} (usual : ∀ m ∈ messages, m.Usual) (u : Updater) :
    (inTurn? takeUp? u messages).isSome := by
  induction messages generalizing u with
  | nil => rfl
  | cons m rest ih =>
    have inside := Store.apply_ne_offCalendar (usual m List.mem_cons_self) u.store
    obtain ⟨first, taken⟩ : ∃ first, u.takeUp? m = some first := by
      unfold takeUp?
      split
      next => exact ⟨_, rfl⟩
      next => exact ⟨_, rfl⟩
      next off => exact absurd off inside
    rw [inTurn?, taken, Option.bind_some, Option.isSome_map]
    exact ih (fun m hm => usual m (List.mem_cons_of_mem _ hm)) first.1

/-- **A batch of usual messages is carried through.** -/
theorem failedTasks_of_usual {messages : List Message} (usual : ∀ m ∈ messages, m.Usual)
    (u : Updater) : (u.applyBatch messages).2.failedTasks = 0 :=
  failedTasks_applyBatch_eq_zero_iff.mpr (inTurn?_of_usual usual u)

end Updater

end LiveTimetable
