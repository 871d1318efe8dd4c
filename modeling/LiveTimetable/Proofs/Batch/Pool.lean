import LiveTimetable.Proofs.Batch.Accounting
import LiveTimetable.Proofs.Store.Contention
import Mathlib.Algebra.Order.BigOperators.Group.List
import Mathlib.Algebra.Order.Group.Nat
import Mathlib.Logic.Relation

/-!
# Batches among workers

The groups of a batch are applied by workers, one for each trip and date, that share the store and
the tally. A worker waits until one of a number of places is free. For each of its messages it reads
the published record, makes the successor, and puts that in place if nobody has published under the
key in between; otherwise it tries again. Any worker may be the next to go on (`Pool.Step`), and a
reader may look at the store at any time.

Which of them goes on when does not show. A worker is the only one to publish under its key, so it
never tries twice, and the messages that have been taken up are some order of the batch that keeps
the order of each trip and date (`Pool.Follows`): each step takes up one message of that order or
none.

Main statements: where all workers have come to their end, the outcome agrees with that of the batch
applied group by group (`Pool.agree_of_done`); each step of a worker brings them nearer to it
(`Pool.toGo_lt_of_workerStep`); and from wherever they are they can come to it (`Pool.exists_done`),
if there is any place at all.
-/

namespace LiveTimetable

theorem Summary.merge_right_comm (a b c : Summary) : (a.merge b).merge c = (a.merge c).merge b := by
  simp only [merge, Nat.add_right_comm]

@[simp] theorem Summary.merge_empty (a : Summary) : a.merge empty = a := rfl

/-! ## Workers -/

/-- Where a worker stands. -/
inductive Phase
  /-- It has no place yet. -/
  | waiting
  /-- It is to read the record for its next message, and has so many attempts left for it. -/
  | reading (attempts : Nat)
  /-- It has a successor to publish, made of the record that was the `version`th one of the trip and
  date, and has so many attempts left if that has been replaced. -/
  | publishing (attempts version : Nat) (record : TripRecord)
  /-- It has given back its place. -/
  | ended

namespace Phase

/-- The worker has a place. -/
def isBusy : Phase → Bool
  | reading _ => true
  | publishing .. => true
  | _ => false

end Phase

structure Worker where
  phase : Phase
  /-- The messages that are left, the one in hand first. -/
  rest : List Message
  counted : Summary

/-- The workers of a batch and what they share. -/
structure Pool where
  updater : Updater
  /-- How many records have been published for a trip and date. -/
  version : TripKey → Nat
  worker : TripKey → Worker
  /-- What the reader has counted. -/
  rowsRead : Nat

namespace Pool

/-- The pool before any worker has a place. -/
def start (u : Updater) (messages : List Message) : Pool where
  updater := u
  version _ := 0
  worker key := ⟨.waiting, messages.filter (·.key = key), .empty⟩
  rowsRead := 0

/-- The pool with a worker gone on. -/
def set (p : Pool) (key : TripKey) (w : Worker) : Pool :=
  { p with worker := Function.update p.worker key w }

/-- The record that a message makes of the one that is published now. -/
def successor (p : Pool) (m : Message) : Except UpdateFailure TripRecord :=
  p.updater.store.schedule.successor m (p.updater.store.published? m.key)

/-- The pool with an error counted. -/
def countError (p : Pool) (e : UpdateError) : Pool :=
  { p with updater := { p.updater with tally := p.updater.tally.countError e } }

/-- The pool with a record published. -/
def publish (p : Pool) (key : TripKey) (r : TripRecord) : Pool :=
  { p with
    updater := ⟨p.updater.store.withRecord key r, p.updater.tally.countApplied⟩
    version := Function.update p.version key (p.version key + 1) }

/-- How many places are taken. -/
def busy (p : Pool) (keys : List TripKey) : Nat :=
  keys.countP fun key => (p.worker key).phase.isBusy

/-- **One step of a worker** with its key among those of the batch. -/
inductive WorkerStep (limit : Nat) (keys : List TripKey) : Pool → Pool → Prop
  /-- A free place is taken. -/
  | enter {p : Pool} {key : TripKey} {w : Worker} (mem : key ∈ keys) (is : p.worker key = w)
      (phase : w.phase = .waiting) (free : p.busy keys < limit) :
    WorkerStep limit keys p (p.set key { w with phase := .reading Store.maxAttempts })
  /-- No message is left. -/
  | finish {p : Pool} {key : TripKey} {attempts : Nat} {counted : Summary} (mem : key ∈ keys)
      (is : p.worker key = ⟨.reading attempts, [], counted⟩) :
    WorkerStep limit keys p (p.set key ⟨.ended, [], counted⟩)
  /-- The record is read and its successor made. -/
  | read {p : Pool} {key : TripKey} {attempts : Nat} {m : Message} {rest : List Message}
      {counted : Summary} {r : TripRecord} (mem : key ∈ keys)
      (is : p.worker key = ⟨.reading (attempts + 1), m :: rest, counted⟩)
      (made : p.successor m = .ok r) :
    WorkerStep limit keys p
      (p.set key ⟨.publishing attempts (p.version m.key) r, m :: rest, counted⟩)
  /-- The record is read and the message refused. -/
  | refuse {p : Pool} {key : TripKey} {attempts : Nat} {m : Message} {rest : List Message}
      {counted : Summary} {e : UpdateError} (mem : key ∈ keys)
      (is : p.worker key = ⟨.reading (attempts + 1), m :: rest, counted⟩)
      (refused : p.successor m = .error (.rejected e)) :
    WorkerStep limit keys p ((p.countError e).set key
      ⟨.reading Store.maxAttempts, rest, counted.merge (.ofError e)⟩)
  /-- The record is read and the message not carried through, which is the end of the group. -/
  | fail {p : Pool} {key : TripKey} {attempts : Nat} {m : Message} {rest : List Message}
      {counted : Summary} (mem : key ∈ keys)
      (is : p.worker key = ⟨.reading (attempts + 1), m :: rest, counted⟩)
      (off : p.successor m = .error .offCalendar) :
    WorkerStep limit keys p (p.set key ⟨.ended, m :: rest, .ofFailure⟩)
  /-- The successor is put in place of the record that was read. -/
  | publish {p : Pool} {key : TripKey} {attempts version : Nat} {r : TripRecord} {m : Message}
      {rest : List Message} {counted : Summary} (mem : key ∈ keys)
      (is : p.worker key = ⟨.publishing attempts version r, m :: rest, counted⟩)
      (same : version = p.version m.key) :
    WorkerStep limit keys p ((p.publish m.key r).set key
      ⟨.reading Store.maxAttempts, rest, counted.merge .ofApplied⟩)
  /-- Another record is in its place by now. -/
  | retry {p : Pool} {key : TripKey} {attempts version : Nat} {r : TripRecord} {m : Message}
      {rest : List Message} {counted : Summary} (mem : key ∈ keys)
      (is : p.worker key = ⟨.publishing attempts version r, m :: rest, counted⟩)
      (changed : version ≠ p.version m.key) :
    WorkerStep limit keys p (p.set key ⟨.reading attempts, m :: rest, counted⟩)
  /-- No attempt is left. -/
  | giveUp {p : Pool} {key : TripKey} {m : Message} {rest : List Message} {counted : Summary}
      (mem : key ∈ keys) (is : p.worker key = ⟨.reading 0, m :: rest, counted⟩) :
    WorkerStep limit keys p
      ((p.countError (.contended m.key.tripId Store.maxAttempts)).set key
        ⟨.reading Store.maxAttempts, rest,
          counted.merge (.ofError (.contended m.key.tripId Store.maxAttempts))⟩)

/-- **One step of the pool.** -/
inductive Step (limit : Nat) (keys : List TripKey) : Pool → Pool → Prop
  | work {p p' : Pool} (goes : WorkerStep limit keys p p') : Step limit keys p p'
  /-- The reader looks at the store and counts what it finds. -/
  | look {p : Pool} (rows : Nat) : Step limit keys p { p with rowsRead := p.rowsRead + rows }

/-- Every worker has come to its end. -/
def Done (p : Pool) (keys : List TripKey) : Prop :=
  ∀ key ∈ keys, ∃ rest counted, p.worker key = ⟨.ended, rest, counted⟩

/-- The summary of the batch: what the workers have counted. -/
def summary (p : Pool) (keys : List TripKey) : Summary :=
  keys.foldr (fun key s => (p.worker key).counted.merge s) .empty

/-- The trips and dates of a batch, each once. -/
def keysOf (messages : List Message) : List TripKey := (messages.map Message.key).eraseDups

/-- **A pool that the workers of a batch can come to**, with so many places. -/
def Reaches (limit : Nat) (u : Updater) (messages : List Message) (p : Pool) : Prop :=
  Relation.ReflTransGen (Step limit (keysOf messages)) (start u messages) p

variable {p p' : Pool} {u : Updater} {messages done rest : List Message} {key : TripKey}
  {w : Worker} {m : Message} {limit : Nat} {keys : List TripKey}

/-! ## The parts of a pool -/

@[simp] theorem worker_set (p : Pool) (key k : TripKey) (w : Worker) :
    (p.set key w).worker k = if k = key then w else p.worker k := by
  simp only [set, Function.update_apply]

@[simp] theorem updater_set (p : Pool) (key : TripKey) (w : Worker) :
    (p.set key w).updater = p.updater := rfl

theorem nodup_keysOf (messages : List Message) : (keysOf messages).Nodup :=
  Lists.nodup_eraseDups _

theorem mem_keysOf_iff : key ∈ keysOf messages ↔ ∃ m ∈ messages, m.key = key := by
  rw [keysOf, List.mem_eraseDups, List.mem_map]

theorem summary_cons (p : Pool) (key : TripKey) (keys : List TripKey) :
    p.summary (key :: keys) = (p.worker key).counted.merge (p.summary keys) := rfl

theorem summary_set_of_not_mem (other : key ∉ keys) :
    (p.set key w).summary keys = p.summary keys := by
  induction keys with
  | nil => rfl
  | cons k keys ih =>
    rw [List.mem_cons, not_or] at other
    rw [summary_cons, summary_cons, worker_set, if_neg (Ne.symm other.1), ih other.2]

/-- A worker that counts more adds to the summary. -/
theorem summary_set {counted : Summary} (mem : key ∈ keys) (nodup : keys.Nodup)
    (adds : w.counted = (p.worker key).counted.merge counted) :
    (p.set key w).summary keys = (p.summary keys).merge counted := by
  induction keys with
  | nil => cases mem
  | cons k keys ih =>
    rw [List.nodup_cons] at nodup
    rw [summary_cons, summary_cons, worker_set]
    by_cases same : k = key
    · subst same
      rw [if_pos rfl, summary_set_of_not_mem nodup.1, adds, Summary.merge_right_comm]
    · have later := (List.mem_cons.mp mem).resolve_left (Ne.symm same)
      rw [if_neg same, ih later nodup.2, Summary.merge_assoc]

theorem summary_start (u : Updater) (messages : List Message) (keys : List TripKey) :
    (start u messages).summary keys = .empty := by
  induction keys with
  | nil => rfl
  | cons k keys ih =>
    rw [summary_cons, ih]
    rfl

/-! ## The order in which messages are taken up -/

/-- What is taken up next is taken up from where the others have led to. -/
theorem inTurn?_concat {σ : Type} {takeUp? : σ → Message → Option (σ × Summary)} {s mid s' : σ}
    {summary counted : Summary} (before : inTurn? takeUp? s done = some (mid, summary))
    (taken : takeUp? mid m = some (s', counted)) :
    inTurn? takeUp? s (done ++ [m]) = some (s', summary.merge counted) := by
  rw [inTurn?_append, before, Option.bind_some, inTurn?, taken]
  rfl

/-- **A worker is steady**: it has tried once at most for the message in hand, what it has made is
the successor still, and at its end no message is left. -/
structure Steady (p : Pool) (w : Worker) : Prop where
  untried : ∀ attempts, w.phase = .reading attempts → attempts = Store.maxAttempts
  fresh : ∀ attempts version r, w.phase = .publishing attempts version r →
    ∃ m rest, w.rest = m :: rest ∧ version = p.version m.key ∧ p.successor m = .ok r
  ended : w.phase = .ended → w.rest = []

/-- A worker is steady before the first attempt. -/
theorem steady_reading (p : Pool) (rest : List Message) (counted : Summary) :
    p.Steady ⟨.reading Store.maxAttempts, rest, counted⟩ where
  untried _ phase := (Phase.reading.inj phase).symm
  fresh _ _ _ phase := by cases phase
  ended phase := by cases phase

/-- A worker stays steady as long as nothing has changed that its messages read. -/
theorem Steady.of_same (h : p.Steady w)
    (same : ∀ m ∈ w.rest, p'.version m.key = p.version m.key ∧ p'.successor m = p.successor m) :
    p'.Steady w where
  untried := h.untried
  fresh attempts version r phase := by
    obtain ⟨m, rest, left, current, made⟩ := h.fresh attempts version r phase
    obtain ⟨sameVersion, sameSuccessor⟩ := same m (left ▸ List.mem_cons_self)
    exact ⟨m, rest, left, current.trans sameVersion.symm, sameSuccessor.trans made⟩
  ended := h.ended

/-- **The pool has taken up messages of the batch in an order**, which for each trip and date is
that of the batch, and each worker is about to take up its next one. -/
structure Follows (u : Updater) (messages : List Message) (p : Pool) (done : List Message) :
    Prop where
  split : ∀ key, done.filter (·.key = key) ++ (p.worker key).rest = messages.filter (·.key = key)
  taken : inTurn? Updater.takeUp? u done = some (p.updater, p.summary (keysOf messages))
  steady : ∀ key, p.Steady (p.worker key)

/-! ## What a step takes up -/

theorem takeUp?_of_ok {r : TripRecord} (made : p.successor m = .ok r) :
    p.updater.takeUp? m = some ((p.publish m.key r).updater, .ofApplied) := by
  rw [successor] at made
  rw [Updater.takeUp?, Store.apply_eq, made]
  rfl

theorem takeUp?_of_rejected {e : UpdateError} (refused : p.successor m = .error (.rejected e)) :
    p.updater.takeUp? m = some ((p.countError e).updater, .ofError e) := by
  rw [successor] at refused
  rw [Updater.takeUp?, Store.apply_eq, refused]
  rfl

theorem takeUp?_of_offCalendar (off : p.successor m = .error .offCalendar) :
    p.updater.takeUp? m = none := by
  rw [successor] at off
  rw [Updater.takeUp?, Store.apply_eq, off]
  rfl

/-- A record that is published leaves those of other keys to their messages. -/
theorem others_of_publish {r : TripRecord} {m' : Message} (apart : m'.key ≠ m.key) :
    (p.publish m.key r).version m'.key = p.version m'.key ∧
      (p.publish m.key r).successor m' = p.successor m' := by
  constructor
  · exact Function.update_of_ne apart _ _
  · simp only [successor, publish, Store.published?_withRecord, if_neg apart]
    rfl

namespace Follows

theorem start (u : Updater) (messages : List Message) :
    Follows u messages (start u messages) [] where
  split key := rfl
  taken := by
    rw [summary_start]
    rfl
  steady key :=
    { untried := fun _ h => by cases h
      fresh := fun _ _ _ h => by cases h
      ended := fun h => by cases h }

/-- The messages that are left to a worker are messages of the batch under its key. -/
theorem mem_of_rest (h : Follows u messages p done) (left : m ∈ (p.worker key).rest) :
    m ∈ messages ∧ m.key = key := by
  have inBatch : m ∈ messages.filter (·.key = key) := by
    rw [← h.split key]
    exact List.mem_append_right _ left
  rw [List.mem_filter, decide_eq_true_eq] at inBatch
  exact inBatch

/-- For keys that the batch does not have there is nothing to do. -/
theorem rest_of_not_mem (h : Follows u messages p done) (other : key ∉ keysOf messages) :
    (p.worker key).rest = [] := by
  rw [List.eq_nil_iff_forall_not_mem]
  intro m left
  exact other (mem_keysOf_iff.mpr ⟨m, h.mem_of_rest left⟩)

/-- What has been taken up and what is left, in any order of the workers, is the batch. -/
theorem sameOrder (h : Follows u messages p done) {keys : List TripKey}
    (all : keys.Perm (keysOf messages)) :
    SameOrder (done ++ keys.flatMap fun key => (p.worker key).rest) messages := by
  intro key
  have own : ∀ k, ∀ m ∈ (p.worker k).rest, m.key = k := fun k m left => (h.mem_of_rest left).2
  rw [List.filter_append, ← h.split key]
  by_cases mem : key ∈ keys
  · rw [Lists.filter_flatMap_of_nodup own (all.nodup_iff.mpr (nodup_keysOf messages)) mem]
  · rw [Lists.filter_flatMap_of_not_mem own mem, h.rest_of_not_mem (mt all.mem_iff.mpr mem)]

/-- What has been taken up shows as in the order in which it was. -/
theorem shows (h : Follows u messages p done) :
    inTurn? Updater.View.takeUp? u.view done =
      some (p.updater.view, p.summary (keysOf messages)) := by
  rw [← Updater.inTurn?_view, h.taken]
  rfl

/-- **No worker meets a message that is not carried through**, if the batch has none. -/
theorem exists_takeUp (h : Follows u messages p done)
    (carried : (inTurn? Updater.takeUp? u messages).isSome)
    (left : (p.worker key).rest = m :: rest) : ∃ after, p.updater.takeUp? m = some after := by
  have mem : key ∈ keysOf messages :=
    mem_keysOf_iff.mpr ⟨m, h.mem_of_rest (left ▸ List.mem_cons_self)⟩
  -- of all orders in which the rest may be taken up, one goes on with this message
  have order := h.sameOrder (List.perm_cons_erase mem).symm
  rw [List.flatMap_cons, left, List.cons_append] at order
  have whole : (inTurn? Updater.View.takeUp? u.view messages).isSome := by
    rwa [← Updater.inTurn?_view, Option.isSome_map]
  rw [← Updater.View.inTurn?_eq_of_sameOrder order, inTurn?_append, h.shows, Option.bind_some,
    Option.isSome_map, inTurn?, ← Updater.takeUp?_view] at whole
  cases taken : p.updater.takeUp? m with
  | none => simp [taken] at whole
  | some after => exact ⟨after, rfl⟩

/-- A worker goes on with the same messages left. -/
theorem move (h : Follows u messages p done) (mem : key ∈ keysOf messages)
    (left : w.rest = (p.worker key).rest) (counted : w.counted = (p.worker key).counted)
    (steady : p.Steady w) : Follows u messages (p.set key w) done where
  split k := by
    rw [worker_set, ← h.split k]
    split
    next same => rw [same, left]
    next => rfl
  taken := by
    have adds := counted.trans (Summary.merge_empty _).symm
    rw [updater_set, summary_set mem (nodup_keysOf messages) adds]
    exact h.taken
  steady k := by
    rw [worker_set]
    split
    next => exact steady.of_same fun m _ => ⟨rfl, rfl⟩
    next => exact (h.steady k).of_same fun m _ => ⟨rfl, rfl⟩

/-- A worker takes up its next message. What the others have made is fresh still, since nothing that
they have read has changed. -/
theorem takeUp (h : Follows u messages p done) (mem : key ∈ keysOf messages) {phase : Phase}
    {counted more : Summary} {q : Pool} (is : p.worker key = ⟨phase, m :: rest, counted⟩)
    (workers : q.worker = p.worker)
    (others : ∀ m', m'.key ≠ m.key →
      q.version m'.key = p.version m'.key ∧ q.successor m' = p.successor m')
    (taken : p.updater.takeUp? m = some (q.updater, more)) :
    Follows u messages (q.set key ⟨.reading Store.maxAttempts, rest, counted.merge more⟩)
      (done ++ [m]) := by
  have left : (p.worker key).rest = m :: rest := by rw [is]
  have own : m.key = key := (h.mem_of_rest (left ▸ List.mem_cons_self)).2
  refine ⟨fun k => ?_, ?_, fun k => ?_⟩
  · rw [worker_set, workers, List.filter_append, ← h.split k, List.append_assoc]
    congr 1
    split
    next same => simp [same, own, left]
    next other => simp [own, Ne.symm other]
  · have summaries : q.summary (keysOf messages) = p.summary (keysOf messages) := by
      simp only [summary, workers]
    have adds : counted.merge more = (q.worker key).counted.merge more := by rw [workers, is]
    rw [updater_set, summary_set mem (nodup_keysOf messages) adds, summaries]
    exact inTurn?_concat h.taken taken
  · rw [worker_set, workers]
    split
    next => exact steady_reading _ _ _
    next other =>
      refine (h.steady k).of_same fun m' mem' => others m' ?_
      rw [(h.mem_of_rest mem').2, own]
      exact other

/-- No worker tries twice. -/
theorem attempts_of_reading {attempts : Nat} {counted : Summary} (h : Follows u messages p done)
    (is : p.worker key = ⟨.reading attempts, rest, counted⟩) : attempts = Store.maxAttempts :=
  (h.steady key).untried attempts (by rw [is])

/-- What a worker is about to publish is fresh. -/
theorem fresh_of_publishing {attempts version : Nat} {r : TripRecord} {counted : Summary}
    (h : Follows u messages p done)
    (is : p.worker key = ⟨.publishing attempts version r, m :: rest, counted⟩) :
    version = p.version m.key ∧ p.successor m = .ok r := by
  obtain ⟨_, _, hand, current, made⟩ := (h.steady key).fresh attempts version r (by rw [is])
  rw [is] at hand
  cases hand
  exact ⟨current, made⟩

/-- **Each step of a worker takes up one message or none.** -/
theorem workerStep (h : Follows u messages p done)
    (carried : (inTurn? Updater.takeUp? u messages).isSome)
    (goes : WorkerStep limit (keysOf messages) p p') : ∃ done, Follows u messages p' done := by
  cases goes with
  | @enter key w mem is phase free =>
    exact ⟨done, h.move mem (by rw [is]) (by rw [is]) (p.steady_reading w.rest w.counted)⟩
  | @finish key attempts counted mem is =>
    refine ⟨done, h.move mem (by rw [is]) (by rw [is]) ?_⟩
    exact
      { untried := fun _ phase => by cases phase
        fresh := fun _ _ _ phase => by cases phase
        ended := fun _ => rfl }
  | @read key attempts m rest counted r mem is made =>
    refine ⟨done, h.move mem (by rw [is]) (by rw [is]) ?_⟩
    exact
      { untried := fun _ phase => by cases phase
        fresh := fun _ _ _ phase => by
          cases phase
          exact ⟨m, rest, rfl, rfl, made⟩
        ended := fun phase => by cases phase }
  | @refuse key attempts m rest counted e mem is refused =>
    exact ⟨_, h.takeUp (q := p.countError e) mem is rfl (fun _ _ => ⟨rfl, rfl⟩)
      (takeUp?_of_rejected refused)⟩
  | @fail key attempts m rest counted mem is off =>
    obtain ⟨after, taken⟩ := h.exists_takeUp carried (by rw [is])
    cases (takeUp?_of_offCalendar off).symm.trans taken
  | @publish key attempts version r m rest counted mem is same =>
    have made := (h.fresh_of_publishing is).2
    exact ⟨_, h.takeUp (q := p.publish m.key r) mem is rfl
      (fun _ apart => others_of_publish apart) (takeUp?_of_ok made)⟩
  | retry mem is changed => exact absurd (h.fresh_of_publishing is).1 changed
  | giveUp mem is => cases h.attempts_of_reading is

theorem step (h : Follows u messages p done)
    (carried : (inTurn? Updater.takeUp? u messages).isSome)
    (goes : Step limit (keysOf messages) p p') : ∃ done, Follows u messages p' done := by
  cases goes with
  | work goes => exact h.workerStep carried goes
  | look rows =>
    exact ⟨done, h.split, h.taken, fun key => (h.steady key).of_same fun m _ => ⟨rfl, rfl⟩⟩

/-- At the end of all workers the order is one of the whole batch. -/
theorem sameOrder_of_done (h : Follows u messages p done) (ended : p.Done (keysOf messages)) :
    SameOrder done messages := by
  intro key
  rw [← h.split key]
  by_cases mem : key ∈ keysOf messages
  · obtain ⟨rest, counted, is⟩ := ended key mem
    rw [(h.steady key).ended (by rw [is]), List.append_nil]
  · rw [h.rest_of_not_mem mem, List.append_nil]

end Follows

/-! ## Whole runs -/

/-- **Wherever the workers are, they have taken up messages in an order of the batch.** -/
theorem exists_follows (carried : (inTurn? Updater.takeUp? u messages).isSome)
    (reached : Reaches limit u messages p) : ∃ done, Follows u messages p done := by
  induction reached with
  | refl => exact ⟨[], .start u messages⟩
  | tail _ goes ih =>
    obtain ⟨done, h⟩ := ih
    exact h.step carried goes

/-- **Workers at their end have done what the batch does group by group.** -/
theorem agree_of_done (carried : (inTurn? Updater.takeUp? u messages).isSome)
    (reached : Reaches limit u messages p) (ended : p.Done (keysOf messages)) :
    Updater.Agree (p.updater, p.summary (keysOf messages)) (u.applyBatch messages) := by
  obtain ⟨done, h⟩ := exists_follows carried reached
  have shows := h.shows
  rw [Updater.View.inTurn?_eq_of_sameOrder (h.sameOrder_of_done ended)] at shows
  obtain ⟨view, summary⟩ := Updater.applyBatch_of_view shows
  exact ⟨view.symm, summary.symm⟩

end Pool

/-! ## Workers come to their end -/

/-- How many steps a worker is from its end at most, if it never tries twice. -/
def Worker.toGo (w : Worker) : Nat :=
  match w.phase with
  | .waiting => 2 * w.rest.length + 2
  | .reading _ => 2 * w.rest.length + 1
  | .publishing .. => 2 * w.rest.length
  | .ended => 0

namespace Pool

variable {p : Pool} {u : Updater} {messages done : List Message} {key : TripKey} {w : Worker}
  {limit : Nat} {keys : List TripKey}

def toGo (p : Pool) (keys : List TripKey) : Nat := (keys.map fun key => (p.worker key).toGo).sum

/-- A pool is nearer to its end if the worker that goes on is. -/
theorem toGo_set_lt {q : Pool} {w' : Worker} (mem : key ∈ keys) (is : p.worker key = w)
    (workers : q.worker = p.worker) (nearer : w'.toGo < w.toGo) :
    (q.set key w').toGo keys < p.toGo keys := by
  subst is
  refine List.sum_lt_sum _ _ (fun k _ => ?_) ⟨key, mem, ?_⟩
  · rw [worker_set, workers]
    split
    next same => exact same ▸ Nat.le_of_lt nearer
    next => exact Nat.le_refl _
  · rw [worker_set, if_pos rfl]
    exact nearer

/-- **Each step of a worker brings the pool nearer to its end**, so workers do not go on for
ever. -/
theorem toGo_lt_of_workerStep (h : Follows u messages p done)
    (goes : WorkerStep limit (keysOf messages) p p') :
    p'.toGo (keysOf messages) < p.toGo (keysOf messages) := by
  cases goes with
  | enter mem is phase free => exact toGo_set_lt mem is rfl (by simp [Worker.toGo, phase])
  | finish mem is => exact toGo_set_lt mem is rfl (by simp [Worker.toGo])
  | read mem is made => exact toGo_set_lt mem is rfl (by simp [Worker.toGo])
  | refuse mem is refused => exact toGo_set_lt mem is rfl (by simp [Worker.toGo])
  | fail mem is off => exact toGo_set_lt mem is rfl (by simp [Worker.toGo])
  | publish mem is same =>
    refine toGo_set_lt mem is rfl ?_
    simp only [Worker.toGo, List.length_cons]
    omega
  | retry mem is changed => exact absurd (h.fresh_of_publishing is).1 changed
  | giveUp mem is => cases h.attempts_of_reading is

/-- A worker with a place goes on. -/
theorem exists_step_of_busy (h : Follows u messages p done) (mem : key ∈ keysOf messages)
    (busy : (p.worker key).phase.isBusy) : ∃ p', WorkerStep limit (keysOf messages) p p' := by
  have steady := h.steady key
  cases is : p.worker key with
  | mk phase rest counted =>
    rw [is] at busy steady
    cases phase with
    | waiting => cases busy
    | ended => cases busy
    | reading attempts =>
      obtain rfl := steady.untried attempts rfl
      cases rest with
      | nil => exact ⟨_, .finish mem is⟩
      | cons m rest =>
        cases next : p.successor m with
        | ok r => exact ⟨_, .read mem is next⟩
        | error failure =>
          cases failure with
          | rejected e => exact ⟨_, .refuse mem is next⟩
          | offCalendar => exact ⟨_, .fail mem is next⟩
    | publishing attempts version r =>
      obtain ⟨m, rest, rfl, current, -⟩ := steady.fresh attempts version r rfl
      exact ⟨_, .publish mem is current⟩

/-- **No pool is stuck**: as long as a worker has not come to its end, one of them can go on. -/
theorem exists_workerStep (h : Follows u messages p done) (room : 0 < limit)
    (going : ¬ p.Done (keysOf messages)) : ∃ p', WorkerStep limit (keysOf messages) p p' := by
  by_cases busy : ∃ key ∈ keysOf messages, (p.worker key).phase.isBusy
  · obtain ⟨key, mem, busy⟩ := busy
    exact exists_step_of_busy h mem busy
  · -- nobody has a place, so there is one for a worker that waits
    obtain ⟨key, mem, unended⟩ := not_forall₂.mp going
    have idle : ∀ key ∈ keysOf messages, ¬ (p.worker key).phase.isBusy := fun key mem holds =>
      busy ⟨key, mem, holds⟩
    have free : p.busy (keysOf messages) < limit := by
      rw [Pool.busy, List.countP_eq_zero.mpr idle]
      exact room
    cases is : p.worker key with
    | mk phase rest counted =>
      have idle := idle key mem
      rw [is] at idle
      cases phase with
      | waiting => exact ⟨_, .enter mem is rfl free⟩
      | ended => exact absurd ⟨rest, counted, is⟩ unended
      | reading attempts => exact absurd rfl idle
      | publishing attempts version r => exact absurd rfl idle

/-- **Workers can always come to their end**, wherever they are, if there is a place at all. -/
theorem exists_done (carried : (inTurn? Updater.takeUp? u messages).isSome) (room : 0 < limit)
    (reached : Reaches limit u messages p) :
    ∃ p', Relation.ReflTransGen (Step limit (keysOf messages)) p p' ∧
      p'.Done (keysOf messages) := by
  induction steps : p.toGo (keysOf messages) using Nat.strongRecOn generalizing p with
  | ind n ih =>
    by_cases ended : p.Done (keysOf messages)
    · exact ⟨p, .refl, ended⟩
    · obtain ⟨done, h⟩ := exists_follows carried reached
      obtain ⟨p', goes⟩ := exists_workerStep h room ended
      have nearer := steps ▸ toGo_lt_of_workerStep h goes
      obtain ⟨last, goesOn, ended⟩ := ih _ nearer (reached.tail (.work goes)) rfl
      exact ⟨last, .head (.work goes) goesOn, ended⟩

end Pool

end LiveTimetable
