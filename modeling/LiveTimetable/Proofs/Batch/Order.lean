import LiveTimetable.Batch.Updater
import LiveTimetable.Proofs.Store.Run
import Mathlib.Logic.Function.Basic

/-!
# The order of messages

Messages of different trips or dates may be taken up in any order. What shows of an updater
(`Updater.View`) after a list of messages depends only on the order among those of one trip and
date: `inTurn?_eq_of_sameOrder`. Two neighbours under different keys trade places
(`inTurn?_swap`), since each reads and writes the record of its own key, and counts only add up.

A view leaves out one thing, the order in which a store keeps its records. It does depend on the
order of messages, and nothing reads it.
-/

namespace LiveTimetable

/-! ## Counts add up -/

namespace Summary

@[simp] theorem empty_merge (a : Summary) : empty.merge a = a := by
  simp only [merge, empty, Nat.zero_add]

theorem merge_assoc (a b c : Summary) : (a.merge b).merge c = a.merge (b.merge c) := by
  simp only [merge, Nat.add_assoc]

theorem merge_left_comm (a b c : Summary) : a.merge (b.merge c) = b.merge (a.merge c) := by
  simp only [merge, Nat.add_left_comm]

end Summary

namespace Tally

def add (a b : Tally) : Tally :=
  ⟨a.applied + b.applied, a.rejectedIntegrity + b.rejectedIntegrity,
    a.rejectedInput + b.rejectedInput, a.unknownTrip + b.unknownTrip, a.contended + b.contended⟩

theorem add_right_comm (a b c : Tally) : (a.add b).add c = (a.add c).add b := by
  simp only [add, Nat.add_right_comm]

theorem countApplied_eq_add (t : Tally) : t.countApplied = t.add empty.countApplied := rfl

theorem countError_eq_add (t : Tally) (e : UpdateError) :
    t.countError e = t.add (empty.countError e) := by
  unfold countError
  split
  next => rfl
  next => rfl
  next =>
    split
    next => rfl
    next => rfl

end Tally

/-- **Two lists keep one order** among the messages of each trip and date. -/
def SameOrder (order messages : List Message) : Prop :=
  ∀ key, order.filter (·.key = key) = messages.filter (·.key = key)

/-! ## Messages in turn -/

/-- The state after messages that are taken up one after another, with the summary of them all.
There is none if one of them is not carried through. -/
def inTurn? {σ : Type} (takeUp? : σ → Message → Option (σ × Summary)) (s : σ) :
    List Message → Option (σ × Summary)
  | [] => some (s, .empty)
  | m :: rest => (takeUp? s m).bind fun first =>
    (inTurn? takeUp? first.1 rest).map fun others => (others.1, first.2.merge others.2)

section InTurn

variable {σ : Type} {takeUp? : σ → Message → Option (σ × Summary)} {s s' : σ} {m : Message}
  {messages rest : List Message} {summary : Summary}

theorem inTurn?_cons_eq_some_iff :
    inTurn? takeUp? s (m :: rest) = some (s', summary) ↔ ∃ mid first others,
      takeUp? s m = some (mid, first) ∧ inTurn? takeUp? mid rest = some (s', others) ∧
        summary = first.merge others := by
  simp only [inTurn?, Option.bind_eq_some_iff, Option.map_eq_some_iff, Prod.exists, Prod.mk.injEq]
  constructor
  · intro h
    obtain ⟨mid, first, hfirst, last, others, hothers, rfl, rfl⟩ := h
    exact ⟨mid, first, others, hfirst, hothers, rfl⟩
  · intro h
    obtain ⟨mid, first, others, hfirst, hothers, rfl⟩ := h
    exact ⟨mid, first, hfirst, s', others, hothers, rfl, rfl⟩

/-- Behind a message, lists that do the same from every state can stand for one another. -/
theorem inTurn?_cons_congr {a b : List Message}
    (same : ∀ s, inTurn? takeUp? s a = inTurn? takeUp? s b) (m : Message) (s : σ) :
    inTurn? takeUp? s (m :: a) = inTurn? takeUp? s (m :: b) := by
  rw [inTurn?, inTurn?]
  simp only [same]

/-- A list in two parts is taken up part by part. -/
theorem inTurn?_append (a b : List Message) (s : σ) :
    inTurn? takeUp? s (a ++ b) = (inTurn? takeUp? s a).bind fun first =>
      (inTurn? takeUp? first.1 b).map fun others => (others.1, first.2.merge others.2) := by
  induction a generalizing s with
  | nil =>
    rw [List.nil_append]
    cases h : inTurn? takeUp? s b with
    | none => simp [inTurn?, h]
    | some others => simp [inTurn?, h]
  | cons m rest ih =>
    rw [List.cons_append, inTurn?, inTurn?]
    cases takeUp? s m with
    | none => rfl
    | some first =>
      rw [Option.bind_some, Option.bind_some, ih]
      cases inTurn? takeUp? first.1 rest with
      | none => rfl
      | some mid =>
        cases h : inTurn? takeUp? mid.1 b with
        | none => simp [h]
        | some others => simp [h, Summary.merge_assoc]

end InTurn

namespace Updater

/-- The updater after one message, and how a summary counts it. -/
def takeUp? (u : Updater) (m : Message) : Option (Updater × Summary) :=
  match u.store.apply m with
  | .ok (store, _) => some (⟨store, u.tally.countApplied⟩, .ofApplied)
  | .error (.rejected e) => some ({ u with tally := u.tally.countError e }, .ofError e)
  | .error .offCalendar => none

/-- **What shows of an updater**: the schedule, the record published for each trip and date, and
the counts. -/
structure View where
  schedule : Schedule
  published : TripKey → Option TripRecord
  tally : Tally

def view (u : Updater) : View := ⟨u.store.schedule, u.store.published?, u.tally⟩

/-- What a message does, by the outcome of making its record. -/
structure Effect where
  record : Option TripRecord
  tally : Tally
  summary : Summary

def Effect.of? : Except UpdateFailure TripRecord → Option Effect
  | .ok r => some ⟨some r, Tally.empty.countApplied, .ofApplied⟩
  | .error (.rejected e) => some ⟨none, Tally.empty.countError e, .ofError e⟩
  | .error .offCalendar => none

namespace View

def effect? (v : View) (m : Message) : Option Effect :=
  Effect.of? (v.schedule.successor m (v.published m.key))

/-- The view with an effect on the record of a key. -/
def plus (v : View) (key : TripKey) (e : Effect) : View :=
  ⟨v.schedule, Function.update v.published key (e.record.or (v.published key)), v.tally.add e.tally⟩

def takeUp? (v : View) (m : Message) : Option (View × Summary) :=
  (v.effect? m).map fun e => (v.plus m.key e, e.summary)

variable {v : View} {key key' : TripKey} {e e' : Effect} {m m' : Message}

/-- A message does not see an effect on another key. -/
theorem effect?_plus (apart : m.key ≠ key) : (v.plus key e).effect? m = v.effect? m := by
  simp only [effect?, plus, Function.update_of_ne apart]

theorem plus_comm (apart : key ≠ key') :
    (v.plus key e).plus key' e' = (v.plus key' e').plus key e := by
  simp only [plus, Function.update_of_ne apart, Function.update_of_ne apart.symm,
    Function.update_comm apart, Tally.add_right_comm]

end View

/-- An updater shows what its view tells. -/
theorem takeUp?_view (u : Updater) (m : Message) :
    (u.takeUp? m).map (fun after => (after.1.view, after.2)) = u.view.takeUp? m := by
  simp only [takeUp?, View.takeUp?, View.effect?, view, Store.apply_eq]
  cases u.store.schedule.successor m (u.store.published? m.key) with
  | error e =>
    cases e with
    | offCalendar => rfl
    | rejected e =>
      simp only [Except.map, Effect.of?, Option.map_some, View.plus, Option.none_or,
        Function.update_eq_self, ← Tally.countError_eq_add]
  | ok r =>
    have updated : (u.store.withRecord m.key r).published? =
        Function.update u.store.published? m.key (some r) := by
      funext k
      simp only [Store.published?_withRecord, Function.update_apply]
    simp only [Except.map, Effect.of?, Option.map_some, View.plus, updated, Option.some_or,
      ← Tally.countApplied_eq_add]
    rfl

/-- The same for messages in turn. -/
theorem inTurn?_view (u : Updater) (messages : List Message) :
    (inTurn? takeUp? u messages).map (fun after => (after.1.view, after.2)) =
      inTurn? View.takeUp? u.view messages := by
  induction messages generalizing u with
  | nil => rfl
  | cons m rest ih =>
    rw [inTurn?, inTurn?, ← takeUp?_view]
    cases u.takeUp? m with
    | none => rfl
    | some first =>
      simp only [Option.bind_some, Option.map_some, ← ih, Option.map_map, Function.comp_def]

/-! ## Other orders -/

namespace View

variable {v : View} {m m' : Message}

/-- Two messages of different keys trade places. -/
theorem inTurn?_swap (apart : m.key ≠ m'.key) (rest : List Message) :
    inTurn? takeUp? v (m :: m' :: rest) = inTurn? takeUp? v (m' :: m :: rest) := by
  simp only [inTurn?, takeUp?]
  cases h : v.effect? m with
  | none =>
    cases h' : v.effect? m' with
    | none => rfl
    | some e' => simp only [Option.map_none, Option.bind_none, Option.map_some, Option.bind_some,
        effect?_plus apart, h]
  | some e =>
    cases h' : v.effect? m' with
    | none => simp only [Option.map_none, Option.bind_none, Option.map_some, Option.bind_some,
        effect?_plus apart.symm, h']
    | some e' =>
      simp only [Option.map_some, Option.bind_some, effect?_plus apart, effect?_plus apart.symm,
        h, h', plus_comm apart, Option.map_map, Function.comp_def, Summary.merge_left_comm]

/-- A message comes before all messages of other keys that stand in front of it. -/
theorem inTurn?_front {front : List Message} (apart : ∀ x ∈ front, x.key ≠ m.key)
    (rest : List Message) :
    inTurn? takeUp? v (front ++ m :: rest) = inTurn? takeUp? v (m :: (front ++ rest)) := by
  induction front generalizing v with
  | nil => rfl
  | cons x front ih =>
    have hx := apart x List.mem_cons_self
    have hfront : ∀ y ∈ front, y.key ≠ m.key := fun y hy => apart y (List.mem_cons_of_mem x hy)
    calc inTurn? takeUp? v (x :: (front ++ m :: rest))
        = inTurn? takeUp? v (x :: m :: (front ++ rest)) :=
          inTurn?_cons_congr (fun _ => ih hfront) x v
      _ = inTurn? takeUp? v (m :: x :: (front ++ rest)) := inTurn?_swap hx _

/-- **What shows depends only on the order among the messages of one key.** -/
theorem inTurn?_eq_of_sameOrder {order messages : List Message} (same : SameOrder order messages)
    (v : View) :
    inTurn? takeUp? v order = inTurn? takeUp? v messages := by
  induction messages generalizing order v with
  | nil =>
    cases order with
    | nil => rfl
    | cons m rest => simpa using same m.key
  | cons m rest ih =>
    -- bring the first message of the list to the front of the order
    have hm := same m.key
    rw [List.filter_cons_of_pos (by simp)] at hm
    obtain ⟨front, back, rfl, hfront, hback⟩ := List.filter_eq_cons_iff.mp hm
    have apart : ∀ x ∈ front, x.key ≠ m.key := fun x hx => by simpa using hfront x hx
    rw [inTurn?_front apart]
    have sameRest : SameOrder (front ++ back) rest := by
      intro key
      have h := same key
      by_cases hkey : m.key = key
      · subst hkey
        rw [List.filter_append, List.filter_eq_nil_iff.mpr hfront, List.nil_append]
        exact hback.2
      · simpa [List.filter_append, hkey] using h
    exact inTurn?_cons_congr (ih sameRest) m v

end View

end Updater

end LiveTimetable
