import Mathlib.Data.List.Forall2
import Mathlib.Data.List.Induction
import Mathlib.Data.List.Nodup

/-!
# Lists

Facts of lists that the development needs of several of its types: a list with its repetitions
dropped has none and keeps the order of first occurrences, lists that are paired member by member
can stand for one another, a sorted list keeps what held of its ties, and what is gathered by keys
that differ has, for each key, what was gathered for it.
-/

namespace LiveTimetable.Lists

variable {α β γ : Type}

section Repetitions

variable [BEq α] [LawfulBEq α] {as : List α} {a : α}

/-- A member that was there before is dropped. -/
theorem eraseDups_concat_of_mem (known : a ∈ as) : (as ++ [a]).eraseDups = as.eraseDups := by
  have none : [a].removeAll as = [] := by simp [List.removeAll, known]
  rw [List.eraseDups_append, none]
  exact List.append_nil _

/-- A member that was not comes last. -/
theorem eraseDups_concat_of_notMem (new : a ∉ as) :
    (as ++ [a]).eraseDups = as.eraseDups ++ [a] := by
  have last : [a].removeAll as = [a] := by simp [List.removeAll, new]
  rw [List.eraseDups_append, last]
  rfl

/-- The members of a list without its repetitions stand in the order in which they first occur. -/
theorem pairwise_idxOf_eraseDups (as : List α) :
    as.eraseDups.Pairwise fun a b => as.idxOf a < as.idxOf b := by
  -- from the back, as a later member leaves first occurrences where they are
  induction as using List.reverseRecOn with
  | nil => exact .nil
  | append_singleton front a ih =>
    have before : ∀ b ∈ front.eraseDups, (front ++ [a]).idxOf b = front.idxOf b :=
      fun b hb => List.idxOf_append_of_mem (List.mem_eraseDups.mp hb)
    have early : front.eraseDups.Pairwise fun b c =>
        (front ++ [a]).idxOf b < (front ++ [a]).idxOf c := by
      refine ih.imp_of_mem fun hb hc lt => ?_
      rwa [before _ hb, before _ hc]
    by_cases known : a ∈ front
    · rwa [eraseDups_concat_of_mem known]
    · rw [eraseDups_concat_of_notMem known, List.pairwise_append]
      refine ⟨early, List.pairwise_singleton _ _, fun b hb c hc => ?_⟩
      obtain rfl := List.mem_singleton.mp hc
      rw [before b hb, List.idxOf_append_of_notMem known]
      have := List.idxOf_lt_length_iff.mpr (List.mem_eraseDups.mp hb)
      omega

theorem nodup_eraseDups (as : List α) : as.eraseDups.Nodup :=
  (pairwise_idxOf_eraseDups as).imp fun lt same => by simp [same] at lt

end Repetitions

/-- Two lists have the same image when their members have it pair by pair. -/
theorem map_eq_map_iff_forall₂ {f : α → γ} {g : β → γ} {as : List α} {bs : List β} :
    as.map f = bs.map g ↔ List.Forall₂ (fun a b => f a = g b) as bs := by
  rw [← List.forall₂_eq_eq_eq, List.forall₂_map_left_iff, List.forall₂_map_right_iff]

theorem exists_forall₂ {R : α → β → Prop} {as : List α} (h : ∀ a ∈ as, ∃ b, R a b) :
    ∃ bs, List.Forall₂ R as bs := by
  induction as with
  | nil => exact ⟨[], .nil⟩
  | cons a rest ih =>
    obtain ⟨b, hb⟩ := h a List.mem_cons_self
    obtain ⟨bs, hbs⟩ := ih fun a ha => h a (List.mem_cons_of_mem _ ha)
    exact ⟨b :: bs, .cons hb hbs⟩

/-- Three lists that are zipped can be told from their members, if they are of one length. -/
theorem map_zip_zip {as : List α} {bs : List β} {cs : List γ} (hbs : bs.length = as.length)
    (hcs : cs.length = as.length) :
    (as.zip (bs.zip cs)).map (·.1) = as ∧ (as.zip (bs.zip cs)).map (·.2.1) = bs ∧
      (as.zip (bs.zip cs)).map (·.2.2) = cs := by
  have length : (bs.zip cs).length = as.length := by rw [List.length_zip, hbs, hcs, Nat.min_self]
  have behind : (as.zip (bs.zip cs)).map Prod.snd = bs.zip cs :=
    List.map_snd_zip (Nat.le_of_eq length)
  refine ⟨List.map_fst_zip (Nat.le_of_eq length.symm), ?_, ?_⟩
  · have front : (bs.zip cs).map Prod.fst = bs := List.map_fst_zip (by omega)
    rw [← behind, List.map_map] at front
    exact front
  · have back : (bs.zip cs).map Prod.snd = cs := List.map_snd_zip (by omega)
    rw [← behind, List.map_map] at back
    exact back

/-- What is asked of all members of one list is asked of those paired with them. -/
theorem forall_mem_iff_of_forall₂ {R : α → β → Prop} {P : α → Prop} {Q : β → Prop}
    (same : ∀ a b, R a b → (P a ↔ Q b)) {as : List α} {bs : List β} (h : List.Forall₂ R as bs) :
    (∀ a ∈ as, P a) ↔ ∀ b ∈ bs, Q b := by
  induction h with
  | nil => simp
  | cons hab _ ih => simp only [List.forall_mem_cons, same _ _ hab, ih]

/-- What is asked of each pair may come down to what is asked of its second member. -/
theorem forall₂_iff_forall_mem {R S : α → β → Prop} {Q : β → Prop}
    (same : ∀ a b, R a b → (S a b ↔ Q b)) {as : List α} {bs : List β} (h : List.Forall₂ R as bs) :
    List.Forall₂ S as bs ↔ ∀ b ∈ bs, Q b := by
  induction h with
  | nil => simp
  | cons hab _ ih => simp only [List.forall₂_cons, List.forall_mem_cons, same _ _ hab, ih]

/-- What each pair says of its second member holds along the second list. -/
theorem forall_mem_of_forall₂ {R : α → β → Prop} {Q : β → Prop} (own : ∀ a b, R a b → Q b)
    {as : List α} {bs : List β} (h : List.Forall₂ R as bs) : ∀ b ∈ bs, Q b :=
  (forall_mem_iff_of_forall₂ (P := fun _ => True)
    (fun a b hab => ⟨fun _ => own a b hab, fun _ => trivial⟩) h).mp fun _ _ => trivial

/-- Each member of the first list is paired. -/
theorem exists_mem_of_forall₂ {R : α → β → Prop} {as : List α} {bs : List β}
    (h : List.Forall₂ R as bs) {a : α} (ha : a ∈ as) : ∃ b ∈ bs, R a b := by
  induction h with
  | nil => cases ha
  | @cons a' b _ _ hab _ ih =>
    rcases List.mem_cons.mp ha with rfl | ha
    · exact ⟨b, List.mem_cons_self, hab⟩
    · obtain ⟨b', hb', hab'⟩ := ih ha
      exact ⟨b', List.mem_cons_of_mem _ hb', hab'⟩

/-- The same for what is asked of each two. -/
theorem pairwise_iff_of_forall₂ {R : α → β → Prop} {P : α → α → Prop} {Q : β → β → Prop}
    (same : ∀ a b a' b', R a b → R a' b' → (P a a' ↔ Q b b')) {as : List α} {bs : List β}
    (h : List.Forall₂ R as bs) : as.Pairwise P ↔ bs.Pairwise Q := by
  induction h with
  | nil => simp
  | cons hab hrest ih =>
    rw [List.pairwise_cons, List.pairwise_cons, ih,
      forall_mem_iff_of_forall₂ (fun a' b' h => same _ _ a' b' hab h) hrest]

/-- Sorting leaves ties as they stand, so what held of each two members in this order still holds
of those that tie. Places are compared where the members are not. -/
theorem pairwise_mergeSort_ties {le : α → α → Bool} {R : α → α → Prop}
    (trans : ∀ a b c, le a b → le b c → le a c) (total : ∀ a b, le a b || le b a) {as : List α}
    (h : as.Pairwise R) :
    (as.mergeSort le).Pairwise fun a b => le a b ∧ (le b a → R a b) := by
  have sorted := List.pairwise_mergeSort (List.zipIdxLE_trans trans) (List.zipIdxLE_total total)
    as.zipIdx
  have apart : (as.zipIdx.mergeSort (List.zipIdxLE le)).Nodup := by
    rw [(List.mergeSort_perm ..).nodup_iff]
    refine List.Nodup.of_map Prod.snd ?_
    rw [List.zipIdx_map_snd]
    exact List.nodup_range'
  rw [← List.mergeSort_zipIdx, List.pairwise_map]
  refine (sorted.and apart).imp_of_mem ?_
  rintro ⟨a, i⟩ ⟨b, j⟩ ha hb ⟨inOrder, different⟩
  rw [List.mem_mergeSort, List.mk_mem_zipIdx_iff_getElem?, List.getElem?_eq_some_iff] at ha hb
  obtain ⟨hi, rfl⟩ := ha
  obtain ⟨hj, rfl⟩ := hb
  simp only [List.zipIdxLE, Bool.if_false_right, Bool.and_eq_true, decide_eq_true_eq] at inOrder
  refine ⟨inOrder.1, fun tie => ?_⟩
  have le : i ≤ j := by simpa [tie] using inOrder.2
  have lt : i < j := by
    refine Nat.lt_of_le_of_ne le fun same => different ?_
    subst same
    rfl
  exact List.pairwise_iff_getElem.mp h i j hi hj lt

/-- Of what was gathered for keys that differ, the part of one key is what was gathered for it. -/
theorem filter_flatMap_of_nodup [DecidableEq β] {keyOf : α → β} {gathered : β → List α}
    (own : ∀ k, ∀ a ∈ gathered k, keyOf a = k) {keys : List β} (nodup : keys.Nodup) {key : β}
    (mem : key ∈ keys) : (keys.flatMap gathered).filter (keyOf · = key) = gathered key := by
  have others : ∀ k, k ≠ key → (gathered k).filter (keyOf · = key) = [] := by
    intro k hk
    rw [List.filter_eq_nil_iff]
    intro a ha hkey
    exact hk ((own k a ha).symm.trans (of_decide_eq_true hkey))
  induction keys with
  | nil => cases mem
  | cons k rest ih =>
    rw [List.nodup_cons] at nodup
    rw [List.flatMap_cons, List.filter_append]
    rcases List.mem_cons.mp mem with rfl | hmem
    · have hrest : (rest.flatMap gathered).filter (keyOf · = key) = [] := by
        rw [List.filter_flatMap, List.flatMap_eq_nil_iff]
        intro k hk
        exact others k fun heq => nodup.1 (heq ▸ hk)
      rw [hrest, List.append_nil, List.filter_eq_self]
      intro a ha
      exact decide_eq_true (own _ a ha)
    · rw [others k fun heq => nodup.1 (heq ▸ hmem), List.nil_append]
      exact ih nodup.2 hmem

/-- For another key nothing was gathered. -/
theorem filter_flatMap_of_not_mem [DecidableEq β] {keyOf : α → β} {gathered : β → List α}
    (own : ∀ k, ∀ a ∈ gathered k, keyOf a = k) {keys : List β} {key : β} (other : key ∉ keys) :
    (keys.flatMap gathered).filter (keyOf · = key) = [] := by
  rw [List.filter_eq_nil_iff]
  intro a ha hkey
  obtain ⟨k, hk, hmem⟩ := List.mem_flatMap.mp ha
  exact other ((own k a hmem).symm.trans (of_decide_eq_true hkey) ▸ hk)

end LiveTimetable.Lists
