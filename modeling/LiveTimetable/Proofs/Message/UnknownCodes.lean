import LiveTimetable.Message.Codec
import LiveTimetable.Proofs.Json.Changed
import LiveTimetable.Proofs.Store.Published
import LiveTimetable.Proofs.Update.Gist

/-!
# Codes that are not known

An estimated call may give, for each of its two sides, the code of a status and the code of an
activity. A feed may send codes that are not known here. An unknown activity is decoded as none, and
an unknown status as a status of its own, which nothing that is done with the call tells from none.

Main statement: `Store.applyJourney_blanked`. Take a journey as it was sent and put null in the
place of any unknown codes of its calls: it is decoded as well, and does the same to every store.
-/

namespace LiveTimetable

open Json

/-- The codes that are known, under each key where a call has one. -/
def knownCodes : List (String × List String) :=
  [("ArrivalStatus", CallStatus.known.map CallStatus.code),
    ("DepartureStatus", CallStatus.known.map CallStatus.code),
    ("ArrivalBoardingActivity", Activity.all.map (Activity.code .arrival)),
    ("DepartureBoardingActivity", Activity.all.map (Activity.code .departure))]

/-- A code that is not known under a key of a call. -/
def UnknownCode (key code : String) : Prop := ∃ own ∈ knownCodes, own.1 = key ∧ code ∉ own.2

instance (key code : String) : Decidable (UnknownCode key code) :=
  inferInstanceAs (Decidable (∃ own ∈ knownCodes, _))

/-- Null in the place of an unknown code: of a text, or of a status that is spelled in any way. -/
inductive Blanked (kept : Bool) (key : String) : Json → Json → Prop
  | code {code : String} (unknown : UnknownCode key code) : Blanked kept key (text code) .null
  | status {v : Json} {code : String} (status : key ∈ ["ArrivalStatus", "DepartureStatus"])
    (spelled : v.asCode kept = some code) (unknown : UnknownCode key code) : Blanked kept key v .null

/-- A list of calls, recorded or estimated, some of them with unknown codes blanked. -/
def BlankedCalls (kept : Bool) (key : String) (calls calls' : Json) : Prop :=
  key = "RecordedCalls" ∧ InItems (InFields RecordedCall.fields (Blanked kept)) calls calls' ∨
    key = "EstimatedCalls" ∧ InItems (InFields EstimatedCall.fields (Blanked kept)) calls calls'

/-- **A journey with unknown codes of its calls blanked**, and all else as it was sent. -/
abbrev BlankedJourney (kept : Bool) : Json → Json → Prop :=
  InFields Journey.fields (BlankedCalls kept)

variable {kept : Bool}

/-- Nothing is blanked under a key where a call has no code. -/
theorem Blanked.untouched {key : String} (other : key ∉ knownCodes.map Prod.fst) (v v' : Json) :
    ¬ Blanked kept key v v' := by
  have known : ∀ code, ¬ UnknownCode key code := by
    rintro code ⟨own, mem, rfl, -⟩
    exact other (List.mem_map_of_mem mem)
  rintro (unknown | ⟨-, -, unknown⟩)
  · exact known _ unknown
  · exact known _ unknown

/-! ## What is decoded -/

theorem CallStatus.ofCode_of_notMem {code : String} (unknown : code ∉ known.map CallStatus.code) :
    ofCode code = .unknown := by
  have none : known.find? (·.code = code) = none := by
    simpa [List.find?_eq_none] using unknown
  rw [ofCode, none]
  rfl

theorem Activity.ofCode?_of_notMem {side : Side} {code : String}
    (unknown : code ∉ all.map (Activity.code side)) : ofCode? side code = none := by
  simpa [ofCode?, List.find?_eq_none] using unknown

section

variable {ms ms' : Members} (changed : ms.Changed (Blanked kept) ms') {key : String}
include changed

/-- An unknown status is as good as none. -/
theorem CallStatus.optional_blanked
    (codes : ∀ own ∈ knownCodes, own.1 = key → own.2 = known.map CallStatus.code) :
    Option.Rel (fun a b => gist? b = gist? a) (ms.optional key (ofJson? kept))
      (ms'.optional key (ofJson? kept)) := by
  refine changed.optional (fun _ => rfl) fun v v' blanked => ?_
  have ofUnknown : ∀ code, UnknownCode key code → ofCode code = .unknown := by
    rintro code ⟨own, mem, isKey, unknown⟩
    rw [codes own mem isKey] at unknown
    exact ofCode_of_notMem unknown
  cases blanked with
  | code unknown => exact ⟨nofun, rfl, .unknown, congrArg some (ofUnknown _ unknown), rfl⟩
  | status _ spelled unknown =>
    refine ⟨?_, rfl, .unknown, ?_, rfl⟩
    · rintro rfl
      cases spelled
    · rw [ofJson?, spelled, Option.map_some, ofUnknown _ unknown]

/-- An unknown activity is none. -/
theorem Activity.ofMembers?_blanked {side : Side}
    (codes : ∀ own ∈ knownCodes, own.1 = key → own.2 = all.map (Activity.code side))
    (apart : key ∉ ["ArrivalStatus", "DepartureStatus"]) :
    Option.Rel Eq (ofMembers? ms key side) (ofMembers? ms' key side) := by
  have read : Option.Rel (fun a b => a.bind (ofCode? side) = b.bind (ofCode? side))
      (ms.optional key asString) (ms'.optional key asString) := by
    refine changed.optional (fun _ => rfl) fun v v' blanked => ?_
    cases blanked with
    | @code code unknown =>
      obtain ⟨own, mem, isKey, unknown⟩ := unknown
      rw [codes own mem isKey] at unknown
      exact ⟨nofun, rfl, code, rfl, ofCode?_of_notMem unknown⟩
    | status status => exact absurd status apart
  exact rel_bind read fun _ _ same => .some same

end

/-- Of a recorded call nothing that is read is blanked. -/
theorem RecordedCall.ofJson?_blanked {j j' : Json} (blanked : InFields fields (Blanked kept) j j') :
    Option.Rel (fun c c' => c.gist = c'.gist) (ofJson? j) (ofJson? j') := by
  refine rel_bind blanked.asFields fun ms ms' changed => ?_
  simp (disch := (apply Blanked.untouched; decide)) only [CallTimes.ofMembers?,
    changed.required_of_untouched, changed.optional_of_untouched]
  refine rel_self ?_ _
  exact fun _ => rfl

/-- **A call with unknown codes blanked is decoded to a call of the same gist.** -/
theorem EstimatedCall.ofJson?_blanked {j j' : Json} (blanked : InFields fields (Blanked kept) j j') :
    Option.Rel (fun c c' => c.gist = c'.gist) (ofJson? kept j) (ofJson? kept j') := by
  refine rel_bind blanked.asFields fun ms ms' changed => ?_
  have arrivalStatus : Option.Rel _ (ms.optional "ArrivalStatus" (CallStatus.ofJson? kept)) _ :=
    CallStatus.optional_blanked changed (by simp [knownCodes])
  have departureStatus : Option.Rel _ (ms.optional "DepartureStatus" (CallStatus.ofJson? kept)) _ :=
    CallStatus.optional_blanked changed (by simp [knownCodes])
  have arrivalActivity :
      Option.Rel _ (Activity.ofMembers? ms "ArrivalBoardingActivity" .arrival) _ :=
    Activity.ofMembers?_blanked changed (by simp [knownCodes]) (by decide)
  have departureActivity :
      Option.Rel _ (Activity.ofMembers? ms "DepartureBoardingActivity" .departure) _ :=
    Activity.ofMembers?_blanked changed (by simp [knownCodes]) (by decide)
  -- every other member is read from the same value
  simp (disch := (apply Blanked.untouched; decide)) only [CallTimes.ofMembers?,
    changed.required_of_untouched, changed.optional_of_untouched, changed.defaulted_of_untouched]
  refine rel_bind_self fun stopRef => rel_bind_self fun cancellation =>
    rel_bind_self fun inaccuracy => rel_bind_self fun aimed => rel_bind_self fun expected => ?_
  refine rel_bind arrivalStatus fun arrival arrival' sameArrival => ?_
  refine rel_bind departureStatus fun departure departure' sameDeparture => ?_
  refine rel_bind arrivalActivity ?_
  rintro onArrival _ rfl
  refine rel_bind departureActivity ?_
  rintro onDeparture _ rfl
  refine rel_bind_self fun destinations => .some ?_
  simp only [gist, sameArrival, sameDeparture]

/-- Lists of calls are read alike when the calls are. -/
theorem BlankedCalls.defaulted {α β : Type} {decode : Json → Option α} {gist : α → β}
    {ms ms' : Members} {fields : List String} (changed : ms.Changed (BlankedCalls kept) ms')
    (key : String)
    (calls : ∀ v v', BlankedCalls kept key v v' → InItems (InFields fields (Blanked kept)) v v')
    (call : ∀ j j', InFields fields (Blanked kept) j j' →
      Option.Rel (fun c c' => gist c = gist c') (decode j) (decode j')) :
    Option.Rel (List.Forall₂ fun c c' => gist c = gist c') (ms.defaulted key (asList decode) [])
      (ms'.defaulted key (asList decode) []) := by
  refine changed.defaulted ?_ (fun v v' blanked => ?_) []
  · exact fun calls => List.forall₂_same.mpr fun _ _ => rfl
  · refine (calls v v' blanked).asList ?_ call
    exact fun call => rfl

/-- **A journey with unknown codes blanked is decoded to a journey of the same gist.** -/
theorem Journey.ofJson?_blanked {j j' : Json} (blanked : BlankedJourney kept j j') :
    Option.Rel (fun a b => a.gist = b.gist) (ofJson? kept j) (ofJson? kept j') := by
  refine rel_bind blanked.asFields fun ms ms' changed => ?_
  have recorded := BlankedCalls.defaulted changed "RecordedCalls"
    (by simp [BlankedCalls]) fun _ _ => RecordedCall.ofJson?_blanked
  have estimated := BlankedCalls.defaulted changed "EstimatedCalls"
    (by simp [BlankedCalls]) fun _ _ => EstimatedCall.ofJson?_blanked
  have untouched : ∀ key, key ∉ ["RecordedCalls", "EstimatedCalls"] →
      ∀ v v', ¬ BlankedCalls kept key v v' := by
    rintro key other v v' (⟨rfl, -⟩ | ⟨rfl, -⟩)
    · exact other (by decide)
    · exact other (by decide)
  simp (disch := (apply untouched; decide)) only [changed.required_of_untouched,
    changed.optional_of_untouched]
  refine rel_bind_self fun tripRef => rel_bind_self fun line =>
    rel_bind_self fun cancellation => rel_bind_self fun inaccuracy => ?_
  refine rel_bind recorded fun _ _ sameRecorded => ?_
  refine rel_bind estimated fun _ _ sameEstimated => .some ?_
  simp only [gist, Lists.map_eq_map_iff_forall₂.mpr sameRecorded,
    Lists.map_eq_map_iff_forall₂.mpr sameEstimated]

/-- **Unknown codes do nothing.** A journey that is decoded is decoded with unknown codes blanked as
well, and either of the two journeys makes the same record of any that is in effect, or is refused
for the same reason. -/
theorem Store.applyJourney_blanked {sent blanked : Json} {journey : Journey}
    (codes : BlankedJourney kept sent blanked)
    (decoded : Journey.ofJson? kept sent = some journey) :
    ∃ other, Journey.ofJson? kept blanked = some other ∧
      ∀ (s : Store) (date : Date), s.applyJourney date other = s.applyJourney date journey := by
  have read := Journey.ofJson?_blanked codes
  rw [decoded] at read
  generalize Journey.ofJson? kept blanked = x at read ⊢
  cases read with
  | @some _ other same => exact ⟨other, rfl, fun s date => s.applyJourney_of_gist date same.symm⟩

namespace Sample

/-- The late journey as a feed sends it, with something said of both sides of its call. -/
def sided (arrivalStatus departureStatus arrivalActivity departureActivity : Json) : Json :=
  record [("DatedVehicleJourneyRef", text "t"),
    ("EstimatedCalls", .array [record [("StopPointRef", text "B2"),
      ("AimedDepartureTime", text "2024-05-01T08:06:00Z"),
      ("ExpectedArrivalTime", text "2024-05-01T08:13:00Z"),
      ("ExpectedDepartureTime", text "2024-05-01T08:14:00Z"),
      ("ArrivalStatus", arrivalStatus), ("DepartureStatus", departureStatus),
      ("ArrivalBoardingActivity", arrivalActivity),
      ("DepartureBoardingActivity", departureActivity)]])]

/-- None of the codes is known under its key, though one is under another. -/
def uncoded : Json :=
  sided (text "diverted") (text "unknown") (text "boarding") (text "passThrough")

/-- The journey that it is decoded to. -/
def uncodedLate : Journey :=
  { late with
    estimated := late.estimated.map fun call =>
      { call with arrivalStatus := some .unknown, departureStatus := some .unknown } }

theorem blanked_uncoded : BlankedJourney false uncoded (sided .null .null .null .null) := by
  refine .record (.cons ⟨rfl, .inl rfl⟩ (.cons ⟨rfl, .inr (.inr ⟨rfl, ?_⟩)⟩ .nil))
  refine .array (.cons (.inr (.record ?_)) .nil)
  -- the stop and the times are kept
  refine .cons ⟨rfl, .inl rfl⟩ (.cons ⟨rfl, .inl rfl⟩ (.cons ⟨rfl, .inl rfl⟩
    (.cons ⟨rfl, .inl rfl⟩ ?_)))
  refine .cons ⟨rfl, .inr (.code ?_)⟩ (.cons ⟨rfl, .inr (.code ?_)⟩
    (.cons ⟨rfl, .inr (.code ?_)⟩ (.cons ⟨rfl, .inr (.code ?_)⟩ .nil)))
  all_goals decide

end Sample

/-- The journey is taken up with statuses of which nothing is known, as it is without them. -/
theorem Store.applyJourney_blanked_uncoded :
    Journey.ofJson? false Sample.uncoded = some Sample.uncodedLate ∧ Sample.uncodedLate ≠ Sample.late ∧
      Journey.ofJson? false (Sample.sided .null .null .null .null) = some Sample.late ∧
      ∃ made, (empty Sample.schedule).applyJourney Sample.date Sample.uncodedLate = .ok made ∧
        (empty Sample.schedule).applyJourney Sample.date Sample.late = .ok made := by
  have decoded : Journey.ofJson? false Sample.uncoded = some Sample.uncodedLate := by decide +kernel
  have late : Journey.ofJson? false (Sample.sided .null .null .null .null) = some Sample.late := by
    decide +kernel
  obtain ⟨made, published⟩ : ∃ made,
      (empty Sample.schedule).applyJourney Sample.date Sample.late = .ok made := ⟨_, rfl⟩
  obtain ⟨other, read, same⟩ := applyJourney_blanked Sample.blanked_uncoded decoded
  cases read.symm.trans late
  refine ⟨decoded, by decide, late, made, ?_, published⟩
  rw [← same, published]

end LiveTimetable
