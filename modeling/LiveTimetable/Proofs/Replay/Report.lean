import LiveTimetable.Proofs.Batch.Pool
import LiveTimetable.Proofs.Message.Codec
import LiveTimetable.Proofs.Store.Purge
import LiveTimetable.Replay.Run

/-!
# What a replay reports

A replay hands its messages to workers, drops what is too old to keep, and reports what is then
published and the boards of one service date. None of this shows in which order the workers went on,
or how many of them there were, as long as there were places for them: a report is made of what shows
of an updater (`Replay.reportOf_of_agree`). So it can be told from the store that the messages lead to
when they are applied one after another.

Nothing is assumed of the host. Whatever configuration it reads from a text, and whatever zone it has
for a name, the report follows from these and from the files.

The purge does not show on the boards either. It reaches back from the date that they are for, so
the records of that date stay (`Replay.departures_retain`); a date that the calendar does not reach
drops nothing.

Main statement: `Replay.run_reports`.
-/

namespace LiveTimetable

/-! ## How many records there are -/

namespace Table

variable {κ α : Type} [DecidableEq κ]

theorem mem_keys_iff {t : Table κ α} {key : κ} : key ∈ t.keys ↔ (t.find? key).isSome := by
  rw [keys, List.mem_map, Option.isSome_iff_exists]
  constructor
  · rintro ⟨⟨_, value⟩, mem, rfl⟩
    exact ⟨value, mem_entries_iff_find?.mp mem⟩
  · rintro ⟨value, found⟩
    exact ⟨(key, value), mem_entries_iff_find?.mpr found, rfl⟩

/-- A table is as large as any list of its keys, each once. -/
theorem size_eq_length {t : Table κ α} {keys : List κ} (nodup : keys.Nodup)
    (same : ∀ key, key ∈ keys ↔ (t.find? key).isSome) : t.size = keys.length := by
  have perm : t.keys.Perm keys :=
    (List.perm_ext_iff_of_nodup t.distinct nodup).mpr fun key => mem_keys_iff.trans (same key).symm
  rw [size, ← List.length_map (f := Prod.fst)]
  exact perm.length_eq

theorem size_congr {t t' : Table κ α} (same : ∀ key, t'.find? key = t.find? key) :
    t'.size = t.size := by
  rw [size_eq_length t.distinct fun key => ?_, List.length_map, size]
  rw [same]
  exact mem_keys_iff

end Table

/-! ## Messages that were accepted -/

namespace Store

/-- The trips and dates of the messages that are taken up, message by message. -/
def acceptedKeys (s : Store) (messages : List Message) : List TripKey :=
  ((messages.zip (s.outcomes messages)).filter (·.2.isOk)).map (·.1.key)

variable {s s' : Store} {messages : List Message} {m : Message} {key : TripKey} {date : Date}

theorem mem_acceptedKeys_cons :
    key ∈ s.acceptedKeys (m :: messages) ↔
      (s.apply m).isOk ∧ key = m.key ∨ key ∈ (s.after (.message m)).acceptedKeys messages := by
  rw [acceptedKeys, outcomes, List.zip_cons_cons, List.filter_cons]
  cases s.apply m with
  | error failure => simp [Except.map, Except.isOk, Except.toBool, acceptedKeys]
  | ok made => simp [Except.map, Except.isOk, Except.toBool, acceptedKeys]

theorem isSome_published?_after :
    ((s.after (.message m)).published? key).isSome ↔
      (s.published? key).isSome ∨ (s.apply m).isOk ∧ key = m.key := by
  cases taken : s.apply m with
  | error failure => simp [after, taken, Except.isOk, Except.toBool]
  | ok made =>
    obtain ⟨s', r⟩ := made
    obtain ⟨-, rfl⟩ := apply_eq_ok_iff.mp taken
    by_cases same : key = m.key
    · simp [after, taken, same, Except.isOk, Except.toBool]
    · simp [after, taken, same]

/-- **A record is published for the keys of accepted messages**, and for those that had one. -/
theorem isSome_published?_run :
    ((s.run (messages.map .message)).published? key).isSome ↔
      (s.published? key).isSome ∨ key ∈ s.acceptedKeys messages := by
  induction messages generalizing s with
  | nil => simp [run, acceptedKeys]
  | cons m rest ih =>
    rw [mem_acceptedKeys_cons, ← or_assoc, ← isSome_published?_after]
    exact ih

/-- A board shows the records of its date. -/
theorem departures_congr (schedule : s'.schedule = s.schedule)
    (published : ∀ tripId, s'.published? ⟨tripId, date⟩ = s.published? ⟨tripId, date⟩)
    (stopId : String) (q : BoardQuery) :
    s'.departures stopId date q = s.departures stopId date q := by
  have rows : ∀ tripId,
      s'.departuresOf stopId q ⟨tripId, date⟩ = s.departuresOf stopId q ⟨tripId, date⟩ := by
    intro tripId
    simp only [departuresOf, inEffect?, schedule, published]
  simp only [departures, candidates, schedule, rows]

end Store

/-! ## Reports -/

namespace Replay

/-- Records of the date are old enough to be kept. -/
def retains (c : Config) (date : Date) : Bool :=
  match c.serviceDate.back? c.updater.retainDays with
  | some before => before ≤ date
  | none => true

/-- The configuration with so many places for workers. -/
def withPlaces (c : Config) (limit : Nat) : Config :=
  { c with updater := { c.updater with maxConcurrentTrips := limit } }

/-- The boards of the watched stops. -/
def boardsOf (c : Config) (s : Store) : Except OffCalendar (List (String × List Departure)) :=
  (watched c).mapM fun stopId => do
    return (stopId, ← s.departures stopId c.serviceDate c.departures)

/-- What is reported once a batch has led to an updater and a summary. -/
def reportOf (c : Config) (u : Updater) (summary : Summary) : Except ReplayError Report := do
  let boards ← (boardsOf c (retain c u.store)).mapError fun (_ : OffCalendar) => .offCalendar
  return ⟨summary, u.tally, (retain c u.store).published.size, boards⟩

variable {c : Config} {s s' : Store} {u u' : Updater} {summary : Summary} {r : Report}

/-- A report whose batch has its places. -/
theorem report_eq (room : c.updater.maxConcurrentTrips ≤ mostPlaces) (schedule : Schedule)
    (batch : List Message) :
    report c schedule batch =
      reportOf c ((Updater.ofSchedule schedule).applyBatch batch).1
        ((Updater.ofSchedule schedule).applyBatch batch).2 := by
  rw [report, LimitedUpdater.applyBatch_of_le (LimitedUpdater.limit_ofSchedule_le_iff.mpr room)]
  rfl

/-! ### The purge -/

theorem schedule_retain (c : Config) (s : Store) : (retain c s).schedule = s.schedule := by
  unfold retain
  split <;> rfl

theorem published?_retain (c : Config) (s : Store) (key : TripKey) :
    (retain c s).published? key = if retains c key.date then s.published? key else none := by
  unfold retain retains
  cases c.serviceDate.back? c.updater.retainDays with
  | some before => simp only [Store.published?_purge, decide_eq_true_eq]
  | none => rw [if_pos rfl]

/-- The date of the boards is kept, however few days are. -/
theorem retains_serviceDate (c : Config) : retains c c.serviceDate := by
  unfold retains
  split
  next before reached =>
    have day := Date.ofDay?_eq_some_iff.mp reached
    have hle : ∀ {a b : Date}, (a ≤ b) = (a.day ≤ b.day) := rfl
    rw [decide_eq_true_eq, hle]
    omega
  next => rfl

/-- **The purge leaves the boards as they are.** -/
theorem departures_retain (c : Config) (s : Store) (stopId : String) (q : BoardQuery) :
    (retain c s).departures stopId c.serviceDate q = s.departures stopId c.serviceDate q := by
  refine Store.departures_congr (schedule_retain c s) (fun tripId => ?_) stopId q
  rw [published?_retain, if_pos (retains_serviceDate c)]

/-! ### Boards -/

theorem mem_watched_iff {stopId : String} : stopId ∈ watched c ↔ stopId ∈ c.watchedStops := by
  rw [watched, List.mem_mergeSort, List.mem_eraseDups]

theorem nodup_watched (c : Config) : (watched c).Nodup :=
  (List.mergeSort_perm _ _).nodup_iff.mpr (Lists.nodup_eraseDups _)

theorem boardsOf_congr (same : ∀ stopId, s'.departures stopId c.serviceDate c.departures =
    s.departures stopId c.serviceDate c.departures) : boardsOf c s' = boardsOf c s := by
  simp only [boardsOf, same]

/-- The board of a stop shows the departures there. -/
theorem board_eq_ok_iff {stopId : String} {board : String × List Departure} :
    (do return (stopId, ← s.departures stopId c.serviceDate c.departures)) = Except.ok board ↔
      board.1 = stopId ∧ s.departures stopId c.serviceDate c.departures = .ok board.2 := by
  obtain ⟨shown, rows⟩ := board
  rw [Outcome.bind_eq_ok]
  constructor
  · rintro ⟨rows, made, same⟩
    cases same
    exact ⟨rfl, made⟩
  · rintro ⟨rfl, made⟩
    exact ⟨rows, made, rfl⟩

/-- There is a board for each watched stop, with the departures there. -/
theorem boards_of_boardsOf {boards : List (String × List Departure)}
    (made : boardsOf c s = .ok boards) :
    boards.map Prod.fst = watched c ∧
      ∀ board ∈ boards, s.departures board.1 c.serviceDate c.departures = .ok board.2 := by
  have paired := (Outcome.mapM_eq_ok_iff.mp made).imp fun _ _ => board_eq_ok_iff.mp
  constructor
  · have same : (watched c).map id = boards.map Prod.fst :=
      Lists.map_eq_map_iff_forall₂.mpr (paired.imp fun _ _ h => h.1.symm)
    rw [← same, List.map_id]
  · exact Lists.forall_mem_of_forall₂ (fun _ _ h => h.1 ▸ h.2) paired

theorem exists_boardsOf (shown : ∀ stopId ∈ c.watchedStops,
    ∃ rows, s.departures stopId c.serviceDate c.departures = .ok rows) :
    ∃ boards, boardsOf c s = .ok boards := by
  refine Outcome.mapM_of_forall fun stopId mem => ?_
  obtain ⟨rows, made⟩ := shown stopId (mem_watched_iff.mp mem)
  exact ⟨(stopId, rows), board_eq_ok_iff.mpr ⟨rfl, made⟩⟩

/-! ### What shows -/

/-- Records are as many as there are keys of accepted messages that are kept. -/
theorem size_retain {keys : List TripKey} (held : ∀ key, (s.published? key).isSome ↔ key ∈ keys) :
    (retain c s).published.size = ((keys.filter (retains c ·.date)).eraseDups).length := by
  refine Table.size_eq_length (Lists.nodup_eraseDups _) fun key => ?_
  have found : (retain c s).published.find? key = (retain c s).published? key := rfl
  rw [List.mem_eraseDups, List.mem_filter, found, published?_retain, ← held key]
  split <;> simp_all

/-- **A report is made of what shows of the updater**, and does not tell for how many places. -/
theorem reportOf_of_agree {summary' : Summary} (same : Updater.Agree (u', summary') (u, summary))
    (c : Config) (limit : Nat) :
    reportOf (withPlaces c limit) u' summary' = reportOf c u summary := by
  obtain ⟨view, rfl⟩ := same
  obtain ⟨schedule, published, tally⟩ := Updater.View.mk.inj view
  have boards : boardsOf c (retain c u'.store) = boardsOf c (retain c u.store) := by
    refine boardsOf_congr fun stopId => ?_
    rw [departures_retain, departures_retain]
    exact Store.departures_congr schedule (fun tripId => congrFun published _) stopId c.departures
  have size : (retain c u'.store).published.size = (retain c u.store).published.size := by
    refine Table.size_congr fun key => ?_
    show (retain c u'.store).published? key = (retain c u.store).published? key
    rw [published?_retain, published?_retain, published]
  show reportOf c u' summary' = _
  rw [reportOf, boards, size, tally, reportOf]

/-! ### What a report tells -/

/-- **What a report tells of a store**, and of the trips and dates with an accepted message. -/
structure Reports (c : Config) (s : Store) (accepted : List TripKey) (r : Report) : Prop where
  stops : ∀ stopId, stopId ∈ r.boards.map Prod.fst ↔ stopId ∈ c.watchedStops
  once : (r.boards.map Prod.fst).Nodup
  rows : ∀ board ∈ r.boards, s.departures board.1 c.serviceDate c.departures = .ok board.2
  published : r.published = ((accepted.filter (retains c ·.date)).eraseDups).length

/-- There is a report if the calendar reaches all departures that are shown. -/
theorem exists_reportOf {keys : List TripKey}
    (held : ∀ key, (u.store.published? key).isSome ↔ key ∈ keys)
    (shown : ∀ stopId ∈ c.watchedStops,
      ∃ rows, u.store.departures stopId c.serviceDate c.departures = .ok rows)
    (summary : Summary) : ∃ r, reportOf c u summary = .ok r ∧ Reports c u.store keys r := by
  have kept : boardsOf c (retain c u.store) = boardsOf c u.store :=
    boardsOf_congr fun stopId => departures_retain c u.store stopId c.departures
  obtain ⟨boards, made⟩ := exists_boardsOf shown
  obtain ⟨stops, rows⟩ := boards_of_boardsOf made
  refine ⟨⟨summary, u.tally, (retain c u.store).published.size, boards⟩, ?_, ?_⟩
  · rw [reportOf, kept, made]
    rfl
  · exact
      { stops := fun stopId => by rw [stops, mem_watched_iff]
        once := stops ▸ nodup_watched c
        rows := rows
        published := size_retain held }

/-! ## Replays -/

variable {host : Host Id} {path : String} {zone : Zone} {schedule : Schedule}
  {messages : List Message}

/-- What a file has on one line is decoded. -/
theorem value_of_line {α : Type} {decode : Json → Option α} (depth : Nat) {j : Json} {a : α}
    (sound : j.sound depth = true) (decoded : decode j = some a) :
    value (.ok j.line) decode = .ok a := by
  have read : (Json.ofText? j.line).bind decode = some a := by
    rw [Json.ofText?_line sound]
    exact decoded
  unfold value
  simp only [Except.mapError, bind, Except.bind, read]
  rfl

/-- Messages that are written to a file are read back. -/
theorem messages_of_line (spelled : ∀ m ∈ messages, m.Spelled) :
    Replay.messages (.ok (Json.array (messages.map Message.toJson)).line) = .ok messages := by
  have sound : (Json.array (messages.map Message.toJson)).sound 6 = true := by
    simp [Message.sound_toJson]
  exact value_of_line 6 sound (Message.listOfJson?_toJson spelled)

/-- A step that returns leads to what comes next. -/
theorem run_bind_of_ok {α β : Type} {x : Except ReplayError α} {a : α}
    {next : α → ExceptT ReplayError Id β} (returns : x = .ok a) :
    ((ExceptT.mk (m := Id) x) >>= next).run = (next a).run := by
  subst returns
  rfl

/-- A replay that can read its files reports on them. -/
theorem run_of_files (configured : config host.config? host.zone? (host.read path) = .ok (c, zone))
    (scheduled : Replay.schedule (host.read c.schedulePath) zone = .ok schedule)
    (told : Replay.messages (host.read c.messagesPath) = .ok messages) :
    (run host path).run = report c schedule messages :=
  (run_bind_of_ok configured).trans ((run_bind_of_ok scheduled).trans (run_bind_of_ok told))

/-- **A replay reports on the messages in the order of their file**: each watched stop has the board
of the store that they lead to one after another, and the records that are counted are those of the
trips and dates with an accepted message, without the dates that are too old to keep. The purge
leaves the boards as they are. However many places there are, as long as so many can be made, the
report is the same: so it is made of the batch as a whole, and whatever the reader looks at, the
workers can come to their end, where it is made of what they leave. -/
theorem run_reports
    (configured : config host.config? host.zone? (host.read path) = .ok (c, zone))
    (scheduled : Replay.schedule (host.read c.schedulePath) zone = .ok schedule)
    (told : Replay.messages (host.read c.messagesPath) = .ok messages)
    (room : c.updater.maxConcurrentTrips ≤ mostPlaces)
    (carried : Except.error .offCalendar ∉ (Store.empty schedule).outcomes messages)
    (shown : ∀ stopId ∈ c.watchedStops, ∃ rows,
      ((Store.empty schedule).run (messages.map .message)).departures stopId c.serviceDate
        c.departures = .ok rows) :
    ∃ r, (run host path).run = .ok r ∧
      Reports c ((Store.empty schedule).run (messages.map .message))
        ((Store.empty schedule).acceptedKeys messages) r ∧
      (∀ (s : Store) stopId q,
        (retain c s).departures stopId c.serviceDate q = s.departures stopId c.serviceDate q) ∧
      ∀ limit, 0 < limit → limit ≤ mostPlaces →
        report (withPlaces c limit) schedule messages = .ok r ∧
        ∀ p, Pool.Reaches limit (.ofSchedule schedule) messages p →
          (∃ p', Relation.ReflTransGen (Pool.Step limit (Pool.keysOf messages)) p p' ∧
            p'.Done (Pool.keysOf messages)) ∧
          (p.Done (Pool.keysOf messages) →
            reportOf (withPlaces c limit) p.updater (p.summary (Pool.keysOf messages)) = .ok r) := by
  have isSome : (inTurn? Updater.takeUp? (.ofSchedule schedule) messages).isSome :=
    Updater.isSome_inTurn?_iff.mpr carried
  -- what the batch comes to, told from its messages one after another
  have inOrder := Updater.applyBatch_of_inTurn? (Updater.inTurn?_eq_outcomes
    (u := .ofSchedule schedule) carried)
  have held : ∀ key, (((Store.empty schedule).run (messages.map .message)).published? key).isSome ↔
      key ∈ (Store.empty schedule).acceptedKeys messages := by
    intro key
    simp [Store.isSome_published?_run]
  obtain ⟨r, made, tells⟩ := exists_reportOf (u := ⟨_, _⟩) held shown _
  have reported : ∀ limit, limit ≤ mostPlaces →
      report (withPlaces c limit) schedule messages = .ok r := by
    intro limit room
    rw [report_eq (c := withPlaces c limit) room, ← made]
    exact reportOf_of_agree inOrder c limit
  refine ⟨r, ?_, tells, departures_retain c, fun limit places most =>
    ⟨reported limit most, fun p reached => ⟨?_, fun ended => ?_⟩⟩⟩
  · rw [run_of_files configured scheduled told]
    exact reported c.updater.maxConcurrentTrips room
  · exact Pool.exists_done isSome places reached
  · have agrees := Pool.agree_of_done isSome reached ended
    rw [← made]
    exact reportOf_of_agree ⟨agrees.1.trans inOrder.1, agrees.2.trans inOrder.2⟩ c limit

end Replay

namespace Sample

open Json

/-- A replay that shows the boards of the second day and keeps no other. -/
def config : Config where
  schedulePath := "schedule.json"
  messagesPath := "messages.json"
  timezone := "UTC"
  serviceDate := tomorrow
  watchedStops := ["C", "A", "C"]
  updater := ⟨8, 0⟩
  departures := .standard

def configText : String :=
  "schedule_path: schedule.json
messages_path: messages.json
timezone: UTC
service_date: 2024-05-02
watched_stops: [C, A, C]
updater:
  retain_days: 0"

def stopTime (stopId arrival departure : String) : Json :=
  record [("stop_id", text stopId), ("arrival_time", text arrival),
    ("departure_time", text departure)]

/-- The feed as its file has it. -/
def feedJson : Json :=
  record [
    ("stops", .array [
      record [("id", text "A")],
      record [("id", text "B1"), ("station", text "B")],
      record [("id", text "B2"), ("station", text "B")],
      record [("id", text "C")]]),
    ("trips", .array [record [
      ("trip_id", text "t"),
      ("stop_times", .array [
        stopTime "A" "08:00:00" "08:00:00",
        stopTime "B1" "08:05:00" "08:06:00",
        stopTime "C" "08:10:00" "08:11:00"])]])]

def files (path : String) : Replay.Content :=
  if path = "config.yaml" then .ok configText
  else if path = config.schedulePath then .ok feedJson.line
  else .ok (Json.array (batch.map Message.toJson)).line

/-- A host that has one configuration to tell of, and one zone. -/
def host : Replay.Host Id where
  read := files
  config? text := if text = configText then some config else none
  zone? name := if name = "UTC" then some .utc else none

end Sample

namespace Replay

/-- Of four messages that are accepted one is for the second day, and its record is kept. The report
is the same if the trips and dates of the batch share a single place. -/
theorem run_reports_sample :
    ∃ r, (run Sample.host "config.yaml").run = .ok r ∧
      r.published = 1 ∧ "A" ∈ r.boards.map Prod.fst ∧ "B1" ∉ r.boards.map Prod.fst ∧
      report (withPlaces Sample.config 1) Sample.schedule Sample.batch = .ok r ∧
      ∃ p, Pool.Reaches 1 (.ofSchedule Sample.schedule) Sample.batch p ∧
        reportOf (withPlaces Sample.config 1) p.updater (p.summary (Pool.keysOf Sample.batch)) =
          .ok r := by
  have configured : config Sample.host.config? Sample.host.zone?
      (Sample.host.read "config.yaml") = .ok (Sample.config, .utc) := by decide +kernel
  have scheduled : Replay.schedule (Sample.files Sample.config.schedulePath) .utc =
      .ok Sample.schedule := by
    have read : value (Sample.files Sample.config.schedulePath) ScheduleFile.ofJson? =
        .ok Sample.feed := value_of_line 5 (by decide) (by decide)
    rw [Replay.schedule, read]
    rfl
  have told : Replay.messages (Sample.files Sample.config.messagesPath) = .ok Sample.batch :=
    messages_of_line (by decide)
  have boards : ∀ stopId ∈ Sample.config.watchedStops,
      (((Store.empty Sample.schedule).run (Sample.batch.map .message)).departures stopId
        Sample.config.serviceDate Sample.config.departures).isOk := by decide
  have shown : ∀ stopId ∈ Sample.config.watchedStops, ∃ rows,
      ((Store.empty Sample.schedule).run (Sample.batch.map .message)).departures stopId
        Sample.config.serviceDate Sample.config.departures = .ok rows :=
    fun stopId mem => Outcome.exists_of_isOk (boards stopId mem)
  obtain ⟨r, reported, tells, -, others⟩ :=
    run_reports configured scheduled told (by decide) (by decide) shown
  obtain ⟨alone, workers⟩ := others 1 (by decide) (by decide)
  obtain ⟨p, goes, ended⟩ := (workers _ .refl).1
  refine ⟨r, reported, ?_, ?_, ?_, alone, p, goes, (workers p goes).2 ended⟩
  · rw [tells.published]
    decide
  · exact (tells.stops "A").mpr (by decide)
  · exact mt (tells.stops "B1").mp (by decide)

end Replay

end LiveTimetable
