import ContextFree.Saturation

/-!
# The fixed point that saturation computes

Saturation stops when a pass admits no candidate, and the bound on the passes
never decides: a pass that is not the last one uses up a candidate, so the passes
cover the candidates. Two statements say what comes out. Whatever is admitted by
the result belongs to it, which makes it closed, and whatever holds of the labels
that were known and is handed on by the test holds of all labels in it, which
makes it least. Neither asks the test to be monotone.
-/

namespace ContextFree

@[simp]
theorem LabelSet.contains_insert_iff {s : LabelSet} {a b : String} :
    (s.insert a).contains b = true ↔ b = a ∨ s.contains b = true := by
  rw [Std.TreeSet.contains_insert, Bool.or_eq_true, beq_iff_eq, Std.compare_eq_iff_eq, eq_comm]

@[simp]
theorem LabelSet.contains_ofList_iff {l : List String} {a : String} :
    Std.TreeSet.contains (.ofList l : LabelSet) a = true ↔ a ∈ l := by
  rw [Std.TreeSet.contains_ofList, List.contains_iff_mem]

theorem countP_lt_countP {β : Type} {p q : β → Bool} {l : List β} {x : β}
    (hpq : ∀ y ∈ l, p y = true → q y = true) (hx : x ∈ l) (hp : p x = false) (hq : q x = true) :
    l.countP p < l.countP q := by
  induction l with
  | nil => cases hx
  | cons y l ih =>
      have hle : l.countP p ≤ l.countP q :=
        List.countP_mono_left fun z hz => hpq z (List.mem_cons_of_mem _ hz)
      rw [List.countP_cons, List.countP_cons]
      rcases List.mem_cons.1 hx with rfl | hx
      · rw [if_neg (by simp [hp]), if_pos hq]
        omega
      · have hlt := ih (fun z hz => hpq z (List.mem_cons_of_mem _ hz)) hx
        have hy := hpq y List.mem_cons_self
        split
        · next h =>
            rw [if_pos (hy h)]
            omega
        · split <;> omega

variable {α : Type} {admits : LabelSet → α → Bool} {candidates : List (String × α)}
  {known : LabelSet} {a b : String} {x : α} {passes : Nat}

theorem saturationPass_cons (e : String × α) (rest : List (String × α)) (known : LabelSet) :
    saturationPass admits (e :: rest) known =
      if admits known e.2 then saturationPass admits rest (known.insert e.1)
      else ((saturationPass admits rest known).1, e :: (saturationPass admits rest known).2) :=
  rfl

theorem saturationPass_mono (hb : known.contains b = true) :
    (saturationPass admits candidates known).1.contains b = true := by
  induction candidates generalizing known with
  | nil => exact hb
  | cons e rest ih =>
      rw [saturationPass_cons]
      split
      · exact ih (LabelSet.contains_insert_iff.2 (Or.inr hb))
      · exact ih hb

theorem saturationPass_sublist :
    (saturationPass admits candidates known).2.Sublist candidates := by
  induction candidates generalizing known with
  | nil => exact List.Sublist.slnil
  | cons e rest ih =>
      rw [saturationPass_cons]
      split
      · exact ih.cons e
      · exact ih.cons_cons e

theorem saturationPass_cases {e : String × α} (he : e ∈ candidates) :
    (saturationPass admits candidates known).1.contains e.1 = true ∨
      e ∈ (saturationPass admits candidates known).2 := by
  induction candidates generalizing known with
  | nil => cases he
  | cons e' rest ih =>
      rw [saturationPass_cons]
      split
      · rcases List.mem_cons.1 he with rfl | he
        · exact Or.inl (saturationPass_mono (LabelSet.contains_insert_iff.2 (Or.inl rfl)))
        · exact ih he
      · rcases List.mem_cons.1 he with rfl | he
        · exact Or.inr List.mem_cons_self
        · exact (ih he).imp id (List.mem_cons_of_mem _)

theorem saturationPass_of_length
    (hlen : (saturationPass admits candidates known).2.length = candidates.length) :
    (saturationPass admits candidates known).1 = known ∧
      ∀ e ∈ candidates, admits known e.2 = false := by
  induction candidates with
  | nil => exact ⟨rfl, fun e he => nomatch he⟩
  | cons e rest ih =>
      rw [saturationPass_cons] at hlen ⊢
      split at hlen
      · have hle : (saturationPass admits rest (known.insert e.1)).2.length ≤ rest.length :=
          saturationPass_sublist.length_le
        rw [hlen, List.length_cons] at hle
        omega
      · next hn =>
          obtain ⟨hknown, hrest⟩ := ih (by simpa using hlen)
          rw [if_neg hn]
          refine ⟨hknown, fun e' he' => ?_⟩
          rcases List.mem_cons.1 he' with rfl | he'
          · exact Bool.eq_false_iff.2 hn
          · exact hrest e' he'

theorem saturationPass_induct {P : String → Prop} (hknown : ∀ b, known.contains b = true → P b)
    (hstep : ∀ K, (∀ b, Std.TreeSet.contains K b = true → P b) →
      ∀ e ∈ candidates, admits K e.2 = true → P e.1)
    (hb : (saturationPass admits candidates known).1.contains b = true) : P b := by
  induction candidates generalizing known with
  | nil => exact hknown b hb
  | cons e rest ih =>
      have hrest : ∀ K, (∀ b, Std.TreeSet.contains K b = true → P b) →
          ∀ e ∈ rest, admits K e.2 = true → P e.1 :=
        fun K hK e he => hstep K hK e (List.mem_cons_of_mem _ he)
      rw [saturationPass_cons] at hb
      split at hb
      · next ha =>
          refine ih (fun c hc => ?_) hrest hb
          rcases LabelSet.contains_insert_iff.1 hc with rfl | hc
          · exact hstep known hknown e List.mem_cons_self ha
          · exact hknown c hc
      · exact ih hknown hrest hb

/-! ## All passes -/

theorem saturateWithin_succ :
    saturateWithin admits (passes + 1) candidates known =
      if (saturationPass admits candidates known).2.length = candidates.length
      then (saturationPass admits candidates known).1
      else saturateWithin admits passes (saturationPass admits candidates known).2
        (saturationPass admits candidates known).1 :=
  rfl

theorem saturateWithin_mono (hb : known.contains b = true) :
    (saturateWithin admits passes candidates known).contains b = true := by
  induction passes generalizing candidates known with
  | zero => exact hb
  | succ passes ih =>
      rw [saturateWithin_succ]
      split
      · exact saturationPass_mono hb
      · exact ih (saturationPass_mono hb)

/-- As many passes as there are candidates reach the fixed point. -/
theorem saturateWithin_closed (hle : candidates.length ≤ passes) {e : String × α}
    (he : e ∈ candidates)
    (ha : admits (saturateWithin admits passes candidates known) e.2 = true) :
    (saturateWithin admits passes candidates known).contains e.1 = true := by
  induction passes generalizing candidates known with
  | zero =>
      rw [List.length_eq_zero_iff.1 (Nat.le_zero.1 hle)] at he
      cases he
  | succ passes ih =>
      rw [saturateWithin_succ] at ha ⊢
      split at ha
      · next hlen =>
          obtain ⟨hknown, hnone⟩ := saturationPass_of_length hlen
          rw [hknown, hnone e he] at ha
          cases ha
      · next hlen =>
          rw [if_neg hlen]
          have hlt := Nat.lt_of_le_of_ne saturationPass_sublist.length_le hlen
          have hpass : (saturationPass admits candidates known).1.contains e.1 = true ∨
              e ∈ (saturationPass admits candidates known).2 := saturationPass_cases he
          rcases hpass with hin | he
          · exact saturateWithin_mono hin
          · exact ih (by omega) he ha

theorem saturateWithin_induct {P : String → Prop} (hknown : ∀ b, known.contains b = true → P b)
    (hstep : ∀ K, (∀ b, Std.TreeSet.contains K b = true → P b) →
      ∀ e ∈ candidates, admits K e.2 = true → P e.1)
    (hb : (saturateWithin admits passes candidates known).contains b = true) : P b := by
  induction passes generalizing candidates known with
  | zero => exact hknown b hb
  | succ passes ih =>
      have hpass : ∀ c, (saturationPass admits candidates known).1.contains c = true → P c :=
        fun c hc => saturationPass_induct hknown hstep hc
      rw [saturateWithin_succ] at hb
      split at hb
      · exact hpass b hb
      · exact ih hpass
          (fun K hK e he => hstep K hK e (saturationPass_sublist.subset he)) hb

theorem saturate_mono (hb : known.contains b = true) :
    (saturate admits candidates known).contains b = true :=
  saturateWithin_mono hb

/-- The result is closed: what it admits belongs to it. -/
theorem saturate_closed (he : (a, x) ∈ candidates)
    (ha : admits (saturate admits candidates known) x = true) :
    (saturate admits candidates known).contains a = true :=
  saturateWithin_closed (Nat.le_refl _) he ha

/-- The result is least: what holds of the known labels and is handed on by the
test holds of all labels in it. -/
theorem saturate_induct {P : String → Prop} (hknown : ∀ b, known.contains b = true → P b)
    (hstep : ∀ K, (∀ b, Std.TreeSet.contains K b = true → P b) →
      ∀ e ∈ candidates, admits K e.2 = true → P e.1)
    (hb : (saturate admits candidates known).contains b = true) : P b :=
  saturateWithin_induct hknown hstep hb

end ContextFree
