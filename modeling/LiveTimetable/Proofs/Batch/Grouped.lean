import LiveTimetable.Proofs.Columns.Batch

/-!
# What the groups of a batch are

Said of the messages alone (`Grouped`): each trip and date that has a message has a group, in the order
in which they first occur, and a group has all messages of its trip and date, in the order in which
they came. One list of groups is so (`Grouped.unique`).

Main statement: `groupByPlace_grouped`. Messages that are put into groups one by one, each at the place
that a table keeps for its key, come out as these groups. The groups one behind another are the
messages again, none lost and none twice, in an order that only moves messages past those of other
keys.
-/

namespace LiveTimetable

variable {ε : Type}

/-- How many messages come before the first of a key. -/
def firstOf (messages : List Message) (key : TripKey) : Nat := (messages.map Message.key).idxOf key

/-- **The groups of messages**, each with its key. -/
structure Grouped (messages : List Message) (groups : List (TripKey × List Message)) : Prop where
  inOrder : (groups.map Prod.fst).Pairwise fun a b => firstOf messages a < firstOf messages b
  covers : ∀ m ∈ messages, m.key ∈ groups.map Prod.fst
  inhabited : ∀ g ∈ groups, g.2 ≠ []
  own : ∀ g ∈ groups, g.2 = messages.filter (·.key = g.1)

namespace Grouped

variable {messages : List Message} {groups : List (TripKey × List Message)}

/-- No key has two groups. -/
theorem nodup (h : Grouped messages groups) : (groups.map Prod.fst).Nodup :=
  h.inOrder.imp fun lt same => by simp [same] at lt

/-- The keys of the groups are those of the messages. -/
theorem mem_keys_iff (h : Grouped messages groups) {key : TripKey} :
    key ∈ groups.map Prod.fst ↔ ∃ m ∈ messages, m.key = key := by
  constructor
  · intro mem
    obtain ⟨g, hg, rfl⟩ := List.mem_map.mp mem
    obtain ⟨m, hm⟩ := List.exists_mem_of_ne_nil _ (h.inhabited g hg)
    rw [h.own g hg, List.mem_filter, decide_eq_true_eq] at hm
    exact ⟨m, hm⟩
  · rintro ⟨m, hm, rfl⟩
    exact h.covers m hm

/-- The groups can be told from their keys. -/
theorem eq_map (h : Grouped messages groups) :
    groups = (groups.map Prod.fst).map fun key => (key, messages.filter (·.key = key)) := by
  rw [List.map_map]
  refine (List.map_id groups).symm.trans (List.map_congr_left fun g hg => ?_)
  exact Prod.ext rfl (h.own g hg)

/-- **There is one way to group messages.** -/
theorem unique {others : List (TripKey × List Message)} (h : Grouped messages groups)
    (h' : Grouped messages others) : groups = others := by
  have perm : (groups.map Prod.fst).Perm (others.map Prod.fst) :=
    (List.perm_ext_iff_of_nodup h.nodup h'.nodup).mpr fun key =>
      h.mem_keys_iff.trans h'.mem_keys_iff.symm
  have keys : groups.map Prod.fst = others.map Prod.fst :=
    perm.eq_of_pairwise (fun _ _ _ _ lt gt => absurd gt (Nat.lt_asymm lt)) h.inOrder h'.inOrder
  rw [h.eq_map, h'.eq_map, keys]

end Grouped

theorem grouped_groupByTrip (messages : List Message) : Grouped messages (groupByTrip messages) where
  inOrder := by
    rw [keys_groupByTrip]
    exact Lists.pairwise_idxOf_eraseDups _
  covers m hm := by
    rw [keys_groupByTrip, List.mem_eraseDups]
    exact List.mem_map_of_mem hm
  inhabited g hg := by
    obtain ⟨key, mem, rfl⟩ := List.mem_map.mp hg
    obtain ⟨m, hm, own⟩ := List.mem_map.mp (List.mem_eraseDups.mp mem)
    exact List.ne_nil_of_mem (List.mem_filter.mpr ⟨hm, decide_eq_true own⟩)
  own g hg := by
    obtain ⟨key, -, rfl⟩ := List.mem_map.mp hg
    rfl

/-- Lists that keep one order for each key have the same messages, each as often. -/
theorem SameOrder.perm {order messages : List Message} (same : SameOrder order messages) :
    order.Perm messages := by
  refine List.perm_iff_count.mpr fun m => ?_
  have counted : ∀ as : List Message, (as.filter (·.key = m.key)).count m = as.count m :=
    fun as => List.count_filter (decide_eq_true (rfl : m.key = m.key))
  rw [← counted order, same, counted messages]

/-- **Messages that are put into groups one by one come out as the groups of them all.** No message is
put at a place where there is no group, no other groups are those of the messages, and the groups
together are the messages, each key in its order. -/
theorem groupByPlace_grouped (messages : List Message) :
    groupByPlace messages = (.ok (groupByTrip messages) : Except (Halt ε) _) ∧
      ((groupByTrip messages).map Prod.fst).Nodup ∧ Grouped messages (groupByTrip messages) ∧
      (∀ others, Grouped messages others → others = groupByTrip messages) ∧
      ((groupByTrip messages).flatMap Prod.snd).Perm messages ∧
      SameOrder ((groupByTrip messages).flatMap Prod.snd) messages := by
  have grouped := grouped_groupByTrip messages
  have stable := sameOrder_groupByTrip messages
  exact ⟨groupByPlace_eq messages, grouped.nodup, grouped, fun _ h => h.unique grouped,
    stable.perm, stable⟩

/-- Messages of three keys in turn, of both kinds: the groups stand as their keys first occur. -/
theorem groupByPlace_grouped_batch :
    ∃ groups, Grouped Sample.batch groups ∧
      groups = [(⟨"t", Sample.date⟩,
          [.report Sample.date Sample.report, .journey Sample.date Sample.late,
            .report Sample.date Sample.report]),
        (⟨"t", Sample.tomorrow⟩,
          [.journey Sample.tomorrow Sample.late,
            .report Sample.tomorrow ⟨"t", none, none, Seconds.of? 60⟩]),
        (⟨"u", Sample.tomorrow⟩, [.report Sample.tomorrow ⟨"u", none, none, none⟩])] ∧
      groupByPlace Sample.batch = (.ok groups : Except (Halt Empty) _) := by
  obtain ⟨placed, -, grouped, -⟩ := groupByPlace_grouped (ε := Empty) Sample.batch
  exact ⟨groupByTrip Sample.batch, grouped, by decide, placed⟩

end LiveTimetable
