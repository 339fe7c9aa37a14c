/-!
# Maps that remember the order of insertion

A grammar lists its variables in the order in which they were registered, with
one exception: a new start symbol comes first. An `OrderedMap` is a list of
entries whose keys are pairwise different, and like the sets beside it the map
carries that fact in its type.

The view is `get?`: every operation says which keys answer differently
afterwards. `keys` is the view of the order.
-/

namespace ContextFree

/-- A list of entries with pairwise different keys. -/
structure OrderedMap (κ : Type) (α : Type) where
  /-- The entries, oldest first. -/
  entries : List (κ × α)
  /-- No key has two entries. -/
  nodup_keys : (entries.map Prod.fst).Nodup

namespace OrderedMap

variable {κ α β : Type}

@[ext]
theorem ext {m n : OrderedMap κ α} (h : m.entries = n.entries) : m = n := by
  cases m; cases n; cases h; rfl

instance [DecidableEq κ] [DecidableEq α] : DecidableEq (OrderedMap κ α) := fun m n =>
  decidable_of_iff (m.entries = n.entries) ⟨ext, fun h => h ▸ rfl⟩

/-- The map without entries. -/
def empty : OrderedMap κ α := ⟨[], List.nodup_nil⟩

instance : Inhabited (OrderedMap κ α) := ⟨empty⟩

/-- The keys, in order. -/
def keys (m : OrderedMap κ α) : List κ := m.entries.map Prod.fst

/-- The number of entries. -/
def size (m : OrderedMap κ α) : Nat := m.entries.length

/-- Drops the entries that fail a test on their keys. -/
def filterKeys (p : κ → Bool) (m : OrderedMap κ α) : OrderedMap κ α :=
  ⟨m.entries.filter fun e => p e.1, by
    have h : (m.entries.filter fun e => p e.1).map Prod.fst = m.keys.filter p := by
      simp only [keys, List.filter_map]; rfl
    rw [h]; exact m.nodup_keys.filter p⟩

/-- Changes every value, each with its key in sight. -/
def mapValues (f : κ → α → β) (m : OrderedMap κ α) : OrderedMap κ β :=
  ⟨m.entries.map fun e => (e.1, f e.1 e.2), by
    simpa [List.map_map, Function.comp_def] using m.nodup_keys⟩

@[simp]
theorem keys_mapValues (f : κ → α → β) (m : OrderedMap κ α) :
    (m.mapValues f).keys = m.keys := by
  simp [keys, mapValues, List.map_map, Function.comp_def]

@[simp]
theorem keys_filterKeys (p : κ → Bool) (m : OrderedMap κ α) :
    (m.filterKeys p).keys = m.keys.filter p := by
  simp only [keys, filterKeys, List.filter_map]
  rfl

variable [DecidableEq κ]

/-- The value at a key. -/
def get? (m : OrderedMap κ α) (k : κ) : Option α := m.entries.lookup k

/-- Whether a key has an entry. -/
def contains (m : OrderedMap κ α) (k : κ) : Bool := m.entries.any fun e => e.1 == k

@[simp]
theorem contains_iff {m : OrderedMap κ α} {k : κ} : m.contains k = true ↔ k ∈ m.keys := by
  simp [contains, keys]

theorem get?_eq_none_of_not_mem {m : OrderedMap κ α} {k : κ} (h : k ∉ m.keys) :
    m.get? k = none := by
  refine List.lookup_eq_none_iff.2 fun e he => bne_iff_ne.2 fun hk => h ?_
  rw [hk]
  exact List.mem_map_of_mem he

/-- Adds an entry at the end; a key that has an entry keeps place and value. -/
def insertNew (m : OrderedMap κ α) (k : κ) (v : α) : OrderedMap κ α :=
  if h : m.contains k then m
  else ⟨m.entries ++ [(k, v)], by
    simp only [List.map_append, List.map_cons, List.map_nil, List.nodup_append,
      List.nodup_cons, List.not_mem_nil, not_false_eq_true, List.nodup_nil, and_self,
      List.mem_singleton, true_and]
    exact ⟨m.nodup_keys, fun a ha b hb hab => h (contains_iff.2 (hb ▸ hab ▸ ha))⟩⟩

/-- Puts an entry in front of all others; a key that has an entry keeps place
and value. -/
def insertFirst (m : OrderedMap κ α) (k : κ) (v : α) : OrderedMap κ α :=
  if h : m.contains k then m
  else ⟨(k, v) :: m.entries, by
    rw [List.map_cons, List.nodup_cons]
    exact ⟨fun hk => h (contains_iff.2 hk), m.nodup_keys⟩⟩

/-- Changes the value at one key, if it has one, and nothing else. -/
def modify (m : OrderedMap κ α) (k : κ) (f : α → α) : OrderedMap κ α :=
  m.mapValues fun k' v => if k' = k then f v else v

@[simp]
theorem keys_modify (m : OrderedMap κ α) (k : κ) (f : α → α) : (m.modify k f).keys = m.keys :=
  keys_mapValues ..

/-- Writes the value at a key: in its place if the key has an entry, at the end
if not. The last of several writes wins, the first decides the place. -/
def put (m : OrderedMap κ α) (k : κ) (v : α) : OrderedMap κ α :=
  (m.insertNew k v).modify k fun _ => v

/-- The map that results from writing entries one after the other. -/
def ofEntries (es : List (κ × α)) : OrderedMap κ α :=
  es.foldl (fun m e => m.put e.1 e.2) empty

/-- Takes the entry of a key out. -/
def erase (m : OrderedMap κ α) (k : κ) : OrderedMap κ α :=
  m.filterKeys (· ≠ k)

theorem lookup_mapValues (f : κ → α → β) (l : List (κ × α)) (k : κ) :
    (l.map fun e => (e.1, f e.1 e.2)).lookup k = (l.lookup k).map (f k) := by
  induction l with
  | nil => rfl
  | cons e l ih =>
      rw [List.map_cons, List.lookup_cons, List.lookup_cons]
      by_cases h : k = e.1
      · simp [h]
      · simp [beq_false_of_ne h, ih]

theorem get?_mapValues (m : OrderedMap κ α) (f : κ → α → β) (k : κ) :
    (m.mapValues f).get? k = (m.get? k).map (f k) :=
  lookup_mapValues f m.entries k

theorem mem_entries_iff {m : OrderedMap κ α} {k : κ} {v : α} :
    (k, v) ∈ m.entries ↔ m.get? k = some v := by
  obtain ⟨l, hl⟩ := m
  show (k, v) ∈ l ↔ l.lookup k = some v
  induction l with
  | nil => simp
  | cons e l ih =>
      rw [List.map_cons, List.nodup_cons] at hl
      rw [List.mem_cons, List.lookup_cons]
      by_cases h : k = e.1
      · subst h
        simp only [beq_self_eq_true, Option.some.injEq]
        constructor
        · rintro (h | hm)
          · exact (congrArg Prod.snd h).symm
          · exact absurd (List.mem_map_of_mem hm) hl.1
        · exact fun h => Or.inl (Prod.ext rfl h.symm)
      · rw [beq_false_of_ne h, ← ih hl.2]
        constructor
        · rintro (rfl | hm)
          · exact absurd rfl h
          · exact hm
        · exact Or.inr

theorem mem_keys_iff {m : OrderedMap κ α} {k : κ} :
    k ∈ m.keys ↔ ∃ v, m.get? k = some v := by
  constructor
  · intro h
    obtain ⟨e, he, rfl⟩ := List.mem_map.1 h
    exact ⟨e.2, mem_entries_iff.1 he⟩
  · rintro ⟨v, hv⟩
    exact List.mem_map_of_mem (mem_entries_iff.2 hv)

theorem mem_keys_of_get? {m : OrderedMap κ α} {k : κ} {v : α} (h : m.get? k = some v) :
    k ∈ m.keys :=
  mem_keys_iff.2 ⟨v, h⟩

theorem not_mem_keys_of_get? {m : OrderedMap κ α} {k : κ} (h : m.get? k = none) :
    k ∉ m.keys := by
  intro hk
  obtain ⟨v, hv⟩ := mem_keys_iff.1 hk
  rw [h] at hv
  cases hv

theorem get?_filterKeys (p : κ → Bool) (m : OrderedMap κ α) (k : κ) :
    (m.filterKeys p).get? k = if p k = true then m.get? k else none := by
  refine Option.ext fun v => ?_
  rw [← mem_entries_iff]
  show (k, v) ∈ m.entries.filter _ ↔ _
  rw [List.mem_filter, mem_entries_iff]
  split <;> simp_all

@[simp]
theorem keys_erase (m : OrderedMap κ α) (k : κ) :
    (m.erase k).keys = m.keys.filter (· ≠ k) :=
  keys_filterKeys ..

theorem get?_erase (m : OrderedMap κ α) (k k' : κ) :
    (m.erase k).get? k' = if k' = k then none else m.get? k' := by
  rw [erase, get?_filterKeys]
  by_cases h : k' = k <;> simp [h]

theorem get?_modify (m : OrderedMap κ α) (k k' : κ) (f : α → α) :
    (m.modify k f).get? k' = if k' = k then (m.get? k').map f else m.get? k' := by
  unfold modify get? mapValues
  rw [lookup_mapValues (fun k' v => if k' = k then f v else v)]
  by_cases h : k' = k <;> simp [h]

theorem get?_insertNew (m : OrderedMap κ α) (k k' : κ) (v : α) :
    (m.insertNew k v).get? k' =
      if k' = k ∧ k ∉ m.keys then some v else m.get? k' := by
  unfold insertNew
  by_cases h : k ∈ m.keys
  · simp [h]
  · rw [dif_neg (mt contains_iff.1 h)]
    show (m.entries ++ [(k, v)]).lookup k' = _
    rw [List.lookup_append]
    by_cases e : k' = k
    · subst e
      rw [show m.entries.lookup k' = none from get?_eq_none_of_not_mem h]
      simp [h]
    · simp [e, List.lookup_cons, beq_false_of_ne e, get?]

theorem entries_insertNew {m : OrderedMap κ α} {k : κ} (h : k ∉ m.keys) (v : α) :
    (m.insertNew k v).entries = m.entries ++ [(k, v)] := by
  rw [insertNew, dif_neg (mt contains_iff.1 h)]

theorem keys_insertNew (m : OrderedMap κ α) (k : κ) (v : α) :
    (m.insertNew k v).keys = if k ∈ m.keys then m.keys else m.keys ++ [k] := by
  unfold insertNew
  by_cases h : k ∈ m.keys
  · rw [dif_pos (contains_iff.2 h), if_pos h]
  · rw [dif_neg (mt contains_iff.1 h), if_neg h]
    simp [keys]

theorem mem_keys_insertNew {m : OrderedMap κ α} {k k' : κ} {v : α} :
    k' ∈ (m.insertNew k v).keys ↔ k' ∈ m.keys ∨ k' = k := by
  rw [keys_insertNew]
  split
  · next h => exact ⟨Or.inl, fun h' => h'.elim id (fun e => e ▸ h)⟩
  · simp

theorem keys_insertFirst (m : OrderedMap κ α) (k : κ) (v : α) :
    (m.insertFirst k v).keys = if k ∈ m.keys then m.keys else k :: m.keys := by
  unfold insertFirst
  by_cases h : k ∈ m.keys
  · rw [dif_pos (contains_iff.2 h), if_pos h]
  · rw [dif_neg (mt contains_iff.1 h), if_neg h]
    simp [keys]

theorem get?_insertFirst (m : OrderedMap κ α) (k k' : κ) (v : α) :
    (m.insertFirst k v).get? k' =
      if k' = k ∧ k ∉ m.keys then some v else m.get? k' := by
  unfold insertFirst
  by_cases h : k ∈ m.keys
  · simp [h]
  · rw [dif_neg (mt contains_iff.1 h)]
    show ((k, v) :: m.entries).lookup k' = _
    rw [List.lookup_cons]
    by_cases e : k' = k
    · simp [e, h]
    · simp [e, beq_false_of_ne e, get?]

end OrderedMap

end ContextFree
