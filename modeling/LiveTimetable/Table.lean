/-!
# Tables

A finite table from keys to values, kept as its entries: each key has one. An entry that is put in
place of another keeps its place, and a new one comes last. An index holds any number of values
under a key, each of them once.

Main statements: what a table finds after an entry was put (`find?_insert`) or after entries were
dropped (`find?_keep`), and what an index holds (`mem_under_add`).
-/

namespace LiveTimetable

structure Table (κ α : Type) where
  entries : List (κ × α)
  distinct : (entries.map Prod.fst).Nodup

namespace Table

variable {κ α : Type}

def empty : Table κ α := ⟨[], List.nodup_nil⟩

def size (t : Table κ α) : Nat := t.entries.length

def keys (t : Table κ α) : List κ := t.entries.map Prod.fst

/-- The entries whose keys pass a test. -/
def keep (t : Table κ α) (p : κ → Bool) : Table κ α :=
  ⟨t.entries.filter fun e => p e.1, t.distinct.sublist (List.filter_sublist.map Prod.fst)⟩

variable [DecidableEq κ]

def find? (t : Table κ α) (key : κ) : Option α := (t.entries.find? (·.1 = key)).map Prod.snd

def contains (t : Table κ α) (key : κ) : Bool := (t.find? key).isSome

/-- The entries with one put in its place. -/
def put (key : κ) (value : α) : List (κ × α) → List (κ × α)
  | [] => [(key, value)]
  | (k, v) :: rest => if k = key then (key, value) :: rest else (k, v) :: put key value rest

theorem mem_keys_put {key k : κ} {value : α} {es : List (κ × α)} :
    k ∈ (put key value es).map Prod.fst ↔ k = key ∨ k ∈ es.map Prod.fst := by
  induction es with
  | nil => simp [put]
  | cons e rest ih =>
    obtain ⟨k', v⟩ := e
    simp only [put]
    split
    · next h =>
      subst h
      simp
    · simp only [List.map_cons, List.mem_cons, ih]
      constructor
      · rintro (h | h | h) <;> simp [h]
      · rintro (h | h | h) <;> simp [h]

theorem nodup_keys_put {key : κ} {value : α} {es : List (κ × α)}
    (h : (es.map Prod.fst).Nodup) : ((put key value es).map Prod.fst).Nodup := by
  induction es with
  | nil => simp [put]
  | cons e rest ih =>
    obtain ⟨k', v⟩ := e
    simp only [List.map_cons, List.nodup_cons] at h
    simp only [put]
    split
    · next hk =>
      subst hk
      simpa using h
    · next hk =>
      simp only [List.map_cons, List.nodup_cons, mem_keys_put]
      exact ⟨by rintro (rfl | hm) <;> simp_all, ih h.2⟩

def insert (t : Table κ α) (key : κ) (value : α) : Table κ α :=
  ⟨put key value t.entries, nodup_keys_put t.distinct⟩

theorem find?_put (key k : κ) (value : α) (es : List (κ × α)) :
    ((put key value es).find? (·.1 = k)).map Prod.snd =
      if k = key then some value else (es.find? (·.1 = k)).map Prod.snd := by
  induction es with
  | nil =>
    by_cases h : k = key
    · simp [put, h]
    · have h' : ¬ key = k := fun e => h e.symm
      simp [put, h, h']
  | cons e rest ih =>
    obtain ⟨k', v⟩ := e
    simp only [put]
    split
    · next hk =>
      subst hk
      by_cases h : k = k'
      · simp [h]
      · have h' : ¬ k' = k := fun e => h e.symm
        simp [h, h']
    · next hk =>
      by_cases h : k' = k
      · subst h
        simp [hk]
      · simp [h, ih]

@[simp] theorem find?_insert (t : Table κ α) (key k : κ) (value : α) :
    (t.insert key value).find? k = if k = key then some value else t.find? k :=
  find?_put key k value t.entries

@[simp] theorem find?_empty (k : κ) : (empty : Table κ α).find? k = none := rfl

theorem find?_keep (t : Table κ α) (p : κ → Bool) (k : κ) :
    (t.keep p).find? k = if p k then t.find? k else none := by
  simp only [find?, keep]
  generalize t.entries = es
  induction es with
  | nil => simp
  | cons e rest ih =>
    obtain ⟨k', v⟩ := e
    by_cases hk : k' = k
    · subst hk
      by_cases hp : p k' = true
      · simp [hp]
      · have hp' : p k' = false := by simpa using hp
        simp only [List.filter_cons, hp', Bool.false_eq_true, if_false] at ih ⊢
        exact ih
    · have skip : ∀ es : List (κ × α),
          ((k', v) :: es).find? (fun e => decide (e.1 = k)) = es.find? fun e => decide (e.1 = k) :=
        fun es => List.find?_cons_of_neg (by simpa using hk)
      rw [skip, ← ih, List.filter_cons]
      split
      · rw [skip]
      · rfl

theorem mem_entries_iff_find? {t : Table κ α} {key : κ} {value : α} :
    (key, value) ∈ t.entries ↔ t.find? key = some value := by
  obtain ⟨es, hd⟩ := t
  simp only [find?]
  induction es with
  | nil => simp
  | cons e rest ih =>
    obtain ⟨k', v⟩ := e
    simp only [List.map_cons, List.nodup_cons] at hd
    by_cases hk : k' = key
    · subst hk
      have : (k', value) ∉ rest := fun hm => hd.1 (List.mem_map.mpr ⟨_, hm, rfl⟩)
      simp [this, eq_comm]
    · have hk' : ¬ key = k' := fun e => hk e.symm
      simp [hk, hk', ih hd.2]

end Table

structure Index where
  pairs : List (String × String)
  distinct : pairs.Nodup

namespace Index

def empty : Index := ⟨[], List.nodup_nil⟩

/-- The values under a key, in the order in which they were added. -/
def under (i : Index) (key : String) : List String :=
  (i.pairs.filter (·.1 = key)).map Prod.snd

/-- The index with a value under a key, where it may be already. -/
def add (i : Index) (key value : String) : Index :=
  if h : (key, value) ∈ i.pairs then i
  else ⟨i.pairs ++ [(key, value)], by
    rw [List.nodup_append]
    exact ⟨i.distinct, by simp, fun a ha b hb => by
      simp only [List.mem_singleton] at hb
      subst hb
      exact fun e => h (e ▸ ha)⟩⟩

theorem mem_under_iff {i : Index} {key value : String} :
    value ∈ i.under key ↔ (key, value) ∈ i.pairs := by
  simp only [under, List.mem_map, List.mem_filter, decide_eq_true_eq]
  constructor
  · rintro ⟨⟨k, v⟩, ⟨hm, hk⟩, hv⟩
    cases hk
    cases hv
    exact hm
  · exact fun hm => ⟨(key, value), ⟨hm, rfl⟩, rfl⟩

theorem mem_under_add {i : Index} {key value k v : String} :
    v ∈ (i.add key value).under k ↔ v ∈ i.under k ∨ (k = key ∧ v = value) := by
  rw [mem_under_iff, mem_under_iff]
  unfold add
  split
  · next h =>
    constructor
    · exact Or.inl
    · rintro (h' | ⟨rfl, rfl⟩)
      · exact h'
      · exact h
  · simp

theorem nodup_under (i : Index) (key : String) : (i.under key).Nodup := by
  obtain ⟨pairs, hd⟩ := i
  simp only [under]
  induction pairs with
  | nil => simp
  | cons e rest ih =>
    obtain ⟨k, v⟩ := e
    simp only [List.nodup_cons] at hd
    by_cases hk : k = key
    · subst hk
      simp only [List.filter_cons, decide_true, if_true, List.map_cons, List.nodup_cons]
      refine ⟨fun hm => hd.1 ?_, ih hd.2⟩
      simp only [List.mem_map, List.mem_filter, decide_eq_true_eq] at hm
      obtain ⟨⟨k', v'⟩, ⟨hm, hk'⟩, hv⟩ := hm
      cases hk'
      cases hv
      exact hm
    · simp only [List.filter_cons, hk, decide_false, Bool.false_eq_true, if_false]
      exact ih hd.2

end Index

end LiveTimetable
