/-!
# Sets that remember the order of insertion

A variable's rules and a grammar's terminals are sets, but listings show them
in the order in which they came. An `OrderedSet` is a list without repetitions,
and the absence of repetitions is part of the type: whatever sequence of
insertions, deletions and replacements produced a set, no rule is in it twice,
so no statement about "every grammar" needs that as a hypothesis.

The view is `toList`; each operation has one lemma that says what it does to it.
-/

namespace ContextFree

/-- A list without repetitions, read as a set with an order. -/
structure OrderedSet (α : Type) where
  /-- The members, oldest first. -/
  toList : List α
  /-- No member is listed twice. -/
  nodup : toList.Nodup

namespace OrderedSet

variable {α : Type}

@[ext]
theorem ext {s t : OrderedSet α} (h : s.toList = t.toList) : s = t := by
  cases s; cases t; cases h; rfl

instance [DecidableEq α] : DecidableEq (OrderedSet α) := fun s t =>
  decidable_of_iff (s.toList = t.toList) ⟨ext, fun h => h ▸ rfl⟩

/-- The set without members. -/
def empty : OrderedSet α := ⟨[], List.nodup_nil⟩

instance : Inhabited (OrderedSet α) := ⟨empty⟩

/-- The set with one member. -/
def singleton (a : α) : OrderedSet α := ⟨[a], by simp⟩

instance : Membership α (OrderedSet α) := ⟨fun s a => a ∈ s.toList⟩

theorem mem_toList {a : α} {s : OrderedSet α} : a ∈ s.toList ↔ a ∈ s := Iff.rfl

/-- The number of members. -/
def size (s : OrderedSet α) : Nat := s.toList.length

/-- The members that pass a test, in their order. -/
def filter (p : α → Bool) (s : OrderedSet α) : OrderedSet α :=
  ⟨s.toList.filter p, s.nodup.filter p⟩

@[simp]
theorem toList_filter (p : α → Bool) (s : OrderedSet α) :
    (s.filter p).toList = s.toList.filter p := rfl

theorem mem_filter {p : α → Bool} {s : OrderedSet α} {a : α} :
    a ∈ s.filter p ↔ a ∈ s ∧ p a = true := List.mem_filter

variable [DecidableEq α]

instance (a : α) (s : OrderedSet α) : Decidable (a ∈ s) :=
  inferInstanceAs (Decidable (a ∈ s.toList))

/-- Adds a member at the end; a member that is already there keeps its place. -/
def insert (s : OrderedSet α) (a : α) : OrderedSet α :=
  if h : a ∈ s.toList then s
  else ⟨s.toList ++ [a], by
    simp only [List.nodup_append, List.nodup_cons, List.not_mem_nil, not_false_eq_true,
      List.nodup_nil, and_self, List.mem_singleton, true_and]
    exact ⟨s.nodup, fun b hb c hc hbc => h (hc ▸ hbc ▸ hb)⟩⟩

theorem toList_insert (s : OrderedSet α) (a : α) :
    (s.insert a).toList = if a ∈ s then s.toList else s.toList ++ [a] := by
  unfold insert
  by_cases h : a ∈ s.toList
  · simp [h, mem_toList.1 h]
  · simp [h, show ¬ a ∈ s from h]

@[simp]
theorem mem_insert {s : OrderedSet α} {a b : α} : b ∈ s.insert a ↔ b ∈ s ∨ b = a := by
  rw [← mem_toList, toList_insert]
  split
  · next h => exact ⟨Or.inl, fun h' => h'.elim id (fun e => e ▸ h)⟩
  · simp [mem_toList]

theorem insert_of_mem {s : OrderedSet α} {a : α} (h : a ∈ s) : s.insert a = s :=
  OrderedSet.ext (by rw [toList_insert, if_pos h])

/-- Adds the members of a list one after the other. -/
def insertAll (s : OrderedSet α) (as : List α) : OrderedSet α := as.foldl insert s

@[simp]
theorem mem_insertAll {s : OrderedSet α} {as : List α} {b : α} :
    b ∈ s.insertAll as ↔ b ∈ s ∨ b ∈ as := by
  induction as generalizing s with
  | nil => simp [insertAll]
  | cons a as ih =>
      show b ∈ (s.insert a).insertAll as ↔ _
      rw [ih, mem_insert, List.mem_cons, or_assoc]

/-- The items of a list that are members only after the list was inserted. -/
def additions (s : OrderedSet α) : List α → List α
  | [] => []
  | a :: as => if a ∈ s then additions s as else a :: additions (s.insert a) as

theorem additions_sublist (s : OrderedSet α) (as : List α) : (s.additions as).Sublist as := by
  induction as generalizing s with
  | nil => exact List.Sublist.slnil
  | cons a as ih =>
      unfold additions
      split
      · exact (ih s).cons a
      · exact (ih _).cons_cons a

theorem toList_insertAll (s : OrderedSet α) (as : List α) :
    (s.insertAll as).toList = s.toList ++ s.additions as := by
  induction as generalizing s with
  | nil => simp [insertAll, additions]
  | cons a as ih =>
      show ((s.insert a).insertAll as).toList = _
      rw [ih, toList_insert, additions]
      split
      · next h => rw [insert_of_mem h]
      · simp

theorem mem_additions {s : OrderedSet α} {as : List α} {b : α} :
    b ∈ s.additions as ↔ b ∈ as ∧ b ∉ s := by
  induction as generalizing s with
  | nil => simp [additions]
  | cons a as ih =>
      unfold additions
      split
      · rw [ih, List.mem_cons]
        grind
      · rw [List.mem_cons, ih, mem_insert, List.mem_cons]
        grind

theorem insertAll_append (s : OrderedSet α) (as bs : List α) :
    s.insertAll (as ++ bs) = (s.insertAll as).insertAll bs :=
  List.foldl_append

theorem insertAll_additions (s : OrderedSet α) (as : List α) :
    s.insertAll (s.additions as) = s.insertAll as := by
  induction as generalizing s with
  | nil => rfl
  | cons a as ih =>
      show _ = (s.insert a).insertAll as
      unfold additions
      split
      · next h => rw [ih, insert_of_mem h]
      · exact ih (s.insert a)

theorem additions_append (s : OrderedSet α) (as bs : List α) :
    s.additions (as ++ bs) = s.additions as ++ (s.insertAll as).additions bs := by
  induction as generalizing s with
  | nil => rfl
  | cons a as ih =>
      have hcons : ∀ rest, s.additions (a :: rest) =
          if a ∈ s then s.additions rest else a :: (s.insert a).additions rest :=
        fun _ => rfl
      show s.additions (a :: (as ++ bs)) = s.additions (a :: as) ++
        ((s.insert a).insertAll as).additions bs
      rw [hcons, hcons]
      split
      · next h => rw [ih, insert_of_mem h]
      · rw [ih, List.cons_append]

theorem additions_eq_self {s : OrderedSet α} {as : List α} (h : (s.toList ++ as).Nodup) :
    s.additions as = as := by
  induction as generalizing s with
  | nil => rfl
  | cons a as ih =>
      have ha : ¬ a ∈ s :=
        fun ha => (List.nodup_append.1 h).2.2 a ha a List.mem_cons_self rfl
      have hinsert : (s.insert a).toList ++ as = s.toList ++ a :: as := by
        rw [toList_insert, if_neg ha, List.append_assoc, List.singleton_append]
      rw [additions, if_neg ha, ih (hinsert ▸ h)]

/-- The members of a list, each at the place of its first occurrence. -/
def ofList (as : List α) : OrderedSet α := empty.insertAll as

theorem ofList_toList (s : OrderedSet α) : ofList s.toList = s :=
  OrderedSet.ext ((toList_insertAll ..).trans (additions_eq_self s.nodup))

/-- Takes a member out; the others keep their order. -/
def erase (s : OrderedSet α) (a : α) : OrderedSet α :=
  ⟨s.toList.erase a, s.nodup.erase a⟩

@[simp]
theorem toList_erase (s : OrderedSet α) (a : α) : (s.erase a).toList = s.toList.erase a := rfl

@[simp]
theorem mem_erase {s : OrderedSet α} {a b : α} : b ∈ s.erase a ↔ b ≠ a ∧ b ∈ s :=
  s.nodup.mem_erase_iff

theorem nodup_map_swap {l : List α} (hl : l.Nodup) {old new : α} (hnew : new ∉ l) :
    (l.map fun a => if a = old then new else a).Nodup := by
  induction l with
  | nil => simp
  | cons a l ih =>
      rw [List.nodup_cons] at hl
      rw [List.mem_cons, not_or] at hnew
      rw [List.map_cons, List.nodup_cons]
      refine ⟨?_, ih hl.2 hnew.2⟩
      simp only [List.mem_map, not_exists, not_and]
      intro b hb
      have hba : b ≠ a := fun e => hl.1 (e ▸ hb)
      have hbn : b ≠ new := fun e => hnew.2 (e ▸ hb)
      by_cases h1 : b = old <;> by_cases h2 : a = old <;> grind

/-- Puts `new` where `old` stands. A `new` that is a member already is not
listed twice: then `old` is taken out and nothing takes its place. -/
def replace (s : OrderedSet α) (old new : α) : OrderedSet α :=
  if h : new ∈ s.toList then if new = old then s else s.erase old
  else ⟨s.toList.map fun a => if a = old then new else a, nodup_map_swap s.nodup h⟩

theorem toList_replace (s : OrderedSet α) (old new : α) :
    (s.replace old new).toList =
      if new ∈ s then (if new = old then s.toList else s.toList.erase old)
      else s.toList.map fun a => if a = old then new else a := by
  unfold replace
  by_cases h : new ∈ s.toList
  · rw [dif_pos h, if_pos (mem_toList.1 h)]
    split <;> simp
  · rw [dif_neg h, if_neg (show ¬ new ∈ s from h)]

theorem mem_replace {s : OrderedSet α} {old new a : α} :
    a ∈ s.replace old new ↔ (a ∈ s ∧ a ≠ old) ∨ (a = new ∧ old ∈ s) := by
  rw [← mem_toList, toList_replace]
  split
  · next hn =>
      split
      · next e => subst e; grind [mem_toList]
      · next e => rw [s.nodup.mem_erase_iff]; grind [mem_toList]
  · next hn =>
      rw [List.mem_map]
      constructor
      · rintro ⟨b, hb, rfl⟩
        by_cases e : b = old
        · exact Or.inr ⟨if_pos e, e ▸ hb⟩
        · exact Or.inl (by rw [if_neg e]; exact ⟨hb, e⟩)
      · rintro (⟨ha, e⟩ | ⟨rfl, ho⟩)
        · exact ⟨a, ha, if_neg e⟩
        · exact ⟨old, ho, if_pos rfl⟩

end OrderedSet

end ContextFree
