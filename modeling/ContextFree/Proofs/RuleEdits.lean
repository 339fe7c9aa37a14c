import ContextFree.Grammar.Variable
import Mathlib.Data.Finset.Image
import Mathlib.Data.List.Nodup

/-!
# The rules of a variable under every run of edits

Rules are added, taken out and replaced one at a time, and a request may be refused or
change nothing. Whatever the requests are, the rules of a variable stay a set with an order.
Two other accounts of an edit say what that means. One works on a plain list of rules, goes
by places and takes no care that a rule stands there once. The other works on a finite set
and knows no order.

A variable agrees with both on each edit, refusals included, so it agrees with them after
every run. Hence the plain list never comes to hold a rule twice, although nothing in its
type says so: a replacement is put in place only if its right-hand side is not there yet, and
otherwise the place is closed. In a list without repetitions the first place of a rule is its
only one, so a rule that is taken out is gone, and no edit moves a rule past another one.
-/

namespace ContextFree

/-- The members that stay as they are keep their order when the others are exchanged. -/
theorem filter_sublist_map {α : Type} {q : α → Bool} {f : α → α} {l : List α}
    (h : ∀ a ∈ l, q a = true → f a = a) : (l.filter q).Sublist (l.map f) := by
  have hfix : (l.filter q).map f = l.filter q := by
    refine (List.map_congr_left fun a ha => ?_).trans (List.map_id' _)
    obtain ⟨ha, hq⟩ := List.mem_filter.1 ha
    exact h a ha hq
  rw [← hfix]
  exact List.filter_sublist.map f

namespace OrderedSet

variable {α β : Type} [DecidableEq α] [DecidableEq β]

theorem map_toList_erase {f : α → β} (hf : Function.Injective f) (s : OrderedSet α) (a : α) :
    (s.erase a).toList.map f = (s.toList.map f).erase (f a) :=
  List.map_erase hf s.toList

theorem filter_sublist_replace (s : OrderedSet α) (old new : α) :
    (s.toList.filter fun a => !decide (a = old ∧ new ≠ old)).Sublist
      (s.replace old new).toList := by
  rw [toList_replace]
  split
  · split
    · exact List.filter_sublist
    · next hne =>
        rw [s.nodup.erase_eq_filter]
        simp [hne, bne, beq_eq_decide]
  · refine filter_sublist_map fun a _ ha => ?_
    split <;> simp_all

end OrderedSet

/-- A request to change the rules of a variable. -/
inductive RuleEdit where
  /-- To add a rule. -/
  | add (rhs : Rhs)
  /-- To take a rule out. -/
  | remove (p : Production)
  /-- To change the right-hand side of a rule. -/
  | replace (p : Production) (rhs : Rhs)

namespace RuleEdit

variable {σ τ : Type} {R : σ → τ → Prop} {s : σ} {t : τ}

/-- What edits make of a state, one after the other. A refused edit leaves it as it is. -/
def run (step? : RuleEdit → σ → Option σ) (s : σ) (edits : List RuleEdit) : σ :=
  edits.foldl (fun s e => (step? e s).getD s) s

/-- The edit of a plain list of rules. The first place of a rule counts; when the rule is
replaced, the new one gets that place, unless it stands in the list already: then the place is
closed. -/
def onList? (owner : String) : RuleEdit → List Production → Option (List Production)
  | .add rhs, l => some (if l.any (·.rhs = rhs) then l else l ++ [⟨owner, rhs⟩])
  | .remove p, l => some (l.erase p)
  | .replace p rhs, l =>
    if p ∈ l then
      some (if rhs ≠ p.rhs ∧ l.any (·.rhs = rhs) then l.eraseIdx (l.idxOf p)
        else l.set (l.idxOf p) ⟨owner, rhs⟩)
    else none

/-- The edit of a set of rules. -/
def onSet? (owner : String) : RuleEdit → Finset Production → Option (Finset Production)
  | .add rhs, S => some (S ∪ {⟨owner, rhs⟩})
  | .remove p, S => some (S \ {p})
  | .replace p rhs, S => if p ∈ S then some (S \ {p} ∪ {⟨owner, rhs⟩}) else none

/-- Whether the edit is to take a rule from its place. One that is replaced by itself stays
there. -/
def takesOut : RuleEdit → Production → Bool
  | .add _, _ => false
  | .remove p, q => q = p
  | .replace p rhs, q => q = p ∧ rhs ≠ p.rhs

theorem rel_getD {a : Option σ} {b : Option τ} (h : Option.Rel R a b) (hst : R s t) :
    R (a.getD s) (b.getD t) := by
  cases h with
  | some h => exact h
  | none => exact hst

/-- Two accounts that agree on each edit agree after every run. -/
theorem rel_run {f : RuleEdit → σ → Option σ} {g : RuleEdit → τ → Option τ}
    (hstep : ∀ e s t, R s t → Option.Rel R (f e s) (g e t)) (edits : List RuleEdit)
    (hst : R s t) : R (run f s edits) (run g t edits) := by
  induction edits generalizing s t with
  | nil => exact hst
  | cons e edits ih => exact ih (rel_getD (hstep e s t hst) hst)

end RuleEdit

namespace Variable

variable {v w : Variable} {p : Production} {old rhs : Rhs} {e : RuleEdit} {owner : String}

/-- The edit of a variable. -/
def edit? : RuleEdit → Variable → Option Variable
  | .add rhs, v => some (v.add rhs)
  | .remove p, v => some (v.remove p)
  | .replace p rhs, v => v.replace? p rhs

/-- The variable after edits. -/
def after (v : Variable) (edits : List RuleEdit) : Variable := RuleEdit.run edit? v edits

theorem edit?_eq_none_iff :
    v.edit? e = none ↔ ∃ p rhs, e = .replace p rhs ∧ p ∉ v.productions := by
  cases e with
  | add rhs => simp [edit?]
  | remove p => simp [edit?]
  | replace p rhs =>
      by_cases h : p ∈ v.productions
      · simp [edit?, replace?_of_mem h, h]
      · simp [edit?, replace?_of_not_mem h, h]

theorem mk_injective (a : String) : Function.Injective (Production.mk a) :=
  fun _ _ h => congrArg Production.rhs h

@[simp]
theorem mk_mem_productions : ⟨v.label, rhs⟩ ∈ v.productions ↔ rhs ∈ v.rules :=
  List.mem_map_of_injective (mk_injective v.label)

theorem nodup_productions (v : Variable) : v.productions.Nodup :=
  v.rules.nodup.map (mk_injective v.label)

theorem any_rhs_iff : v.productions.any (·.rhs = rhs) = true ↔ rhs ∈ v.rules := by
  rw [← OrderedSet.mem_toList, ← map_rhs_productions]
  simp

/-! ## One edit, on the list -/

theorem productions_add (v : Variable) (rhs : Rhs) :
    (v.add rhs).productions = if v.productions.any (·.rhs = rhs) then v.productions
      else v.productions ++ [⟨v.label, rhs⟩] := by
  simp only [any_rhs_iff]
  show (v.rules.insert rhs).toList.map (Production.mk v.label) = _
  rw [OrderedSet.toList_insert]
  split
  · rfl
  · exact List.map_append

theorem map_erase (v : Variable) (old : Rhs) :
    (v.rules.erase old).toList.map (Production.mk v.label) =
      v.productions.erase ⟨v.label, old⟩ :=
  OrderedSet.map_toList_erase (mk_injective v.label) v.rules old

theorem productions_remove (v : Variable) (p : Production) :
    (v.remove p).productions = v.productions.erase p := by
  unfold remove
  split
  · next h =>
      obtain ⟨old, -, rfl⟩ := mem_productions.1 (owns_iff.1 h)
      exact v.map_erase old
  · next h => exact (List.erase_of_not_mem (mt owns_iff.2 h)).symm

/-- To exchange a rule wherever it stands is to exchange it in one place. -/
theorem map_swap (hold : old ∈ v.rules) (rhs : Rhs) :
    (v.rules.toList.map fun r => if r = old then rhs else r).map (Production.mk v.label) =
      v.productions.set (v.productions.idxOf ⟨v.label, old⟩) ⟨v.label, rhs⟩ := by
  have hupdate := v.nodup_productions.map_update id ⟨v.label, old⟩ ⟨v.label, rhs⟩
  rw [if_pos (mk_mem_productions.2 hold), List.map_id] at hupdate
  rw [← hupdate, productions, List.map_map, List.map_map]
  refine List.map_congr_left fun r _ => ?_
  by_cases h : r = old <;> simp [h]

theorem map_replace (hold : old ∈ v.rules) (rhs : Rhs) :
    (v.rules.replace old rhs).toList.map (Production.mk v.label) =
      if rhs ≠ old ∧ v.productions.any (·.rhs = rhs) then
        v.productions.eraseIdx (v.productions.idxOf ⟨v.label, old⟩)
      else v.productions.set (v.productions.idxOf ⟨v.label, old⟩) ⟨v.label, rhs⟩ := by
  simp only [any_rhs_iff]
  rw [OrderedSet.toList_replace, List.eraseIdx_idxOf_eq_erase, ← map_swap hold]
  by_cases hmem : rhs ∈ v.rules
  · by_cases heq : rhs = old
    -- a rule is no sibling of its own, so here nothing is closed and nothing is exchanged
    · subst heq
      simp [hmem]
    · rw [if_pos hmem, if_neg heq, if_pos ⟨heq, hmem⟩]
      exact v.map_erase old
  · rw [if_neg hmem, if_neg fun h => hmem h.2]

theorem rel_onList (e : RuleEdit) (hv : v.label = owner) :
    Option.Rel (fun w l => w.label = owner ∧ w.productions = l)
      (v.edit? e) (e.onList? owner v.productions) := by
  subst hv
  cases e with
  | add rhs => exact .some ⟨rfl, v.productions_add rhs⟩
  | remove p => exact .some ⟨v.label_remove p, v.productions_remove p⟩
  | replace p rhs =>
      by_cases h : p ∈ v.productions
      · obtain ⟨old, hold, rfl⟩ := mem_productions.1 h
        simp only [edit?, RuleEdit.onList?, replace?_of_mem h, if_pos h]
        exact .some ⟨rfl, map_replace hold rhs⟩
      · simp only [edit?, RuleEdit.onList?, replace?_of_not_mem h, if_neg h]
        exact .none

/-! ## One edit, on the set -/

theorem toFinset_add (v : Variable) (rhs : Rhs) :
    (v.add rhs).productions.toFinset = v.productions.toFinset ∪ {⟨v.label, rhs⟩} := by
  ext p
  simp only [List.mem_toFinset, Finset.mem_union, Finset.mem_singleton, mem_productions, add,
    OrderedSet.mem_insert]
  constructor
  · rintro ⟨r, hr | rfl, rfl⟩
    · exact Or.inl ⟨r, hr, rfl⟩
    · exact Or.inr rfl
  · rintro (⟨r, hr, rfl⟩ | rfl)
    · exact ⟨r, Or.inl hr, rfl⟩
    · exact ⟨rhs, Or.inr rfl, rfl⟩

theorem toFinset_remove (v : Variable) (p : Production) :
    (v.remove p).productions.toFinset = v.productions.toFinset \ {p} := by
  ext q
  rw [productions_remove, List.mem_toFinset, v.nodup_productions.mem_erase_iff, Finset.mem_sdiff,
    List.mem_toFinset, Finset.mem_singleton, and_comm]

theorem toFinset_replace (hold : old ∈ v.rules) (rhs : Rhs) :
    ({ v with rules := v.rules.replace old rhs } : Variable).productions.toFinset =
      v.productions.toFinset \ {⟨v.label, old⟩} ∪ {⟨v.label, rhs⟩} := by
  ext p
  simp only [List.mem_toFinset, Finset.mem_union, Finset.mem_sdiff, Finset.mem_singleton,
    mem_productions, OrderedSet.mem_replace, and_iff_left hold]
  constructor
  · rintro ⟨r, ⟨hr, hne⟩ | rfl, rfl⟩
    · exact Or.inl ⟨⟨r, hr, rfl⟩, fun h => hne (mk_injective _ h)⟩
    · exact Or.inr rfl
  · rintro (⟨⟨r, hr, rfl⟩, hne⟩ | rfl)
    · exact ⟨r, Or.inl ⟨hr, fun h => hne (by rw [h])⟩, rfl⟩
    · exact ⟨rhs, Or.inr rfl, rfl⟩

theorem rel_onSet (e : RuleEdit) (hv : v.label = owner) :
    Option.Rel (fun w S => w.label = owner ∧ w.productions.toFinset = S)
      (v.edit? e) (e.onSet? owner v.productions.toFinset) := by
  subst hv
  cases e with
  | add rhs => exact .some ⟨rfl, v.toFinset_add rhs⟩
  | remove p => exact .some ⟨v.label_remove p, v.toFinset_remove p⟩
  | replace p rhs =>
      by_cases h : p ∈ v.productions
      · obtain ⟨old, hold, rfl⟩ := mem_productions.1 h
        simp only [edit?, RuleEdit.onSet?, replace?_of_mem h, if_pos (List.mem_toFinset.2 h)]
        exact .some ⟨rfl, toFinset_replace hold rhs⟩
      · simp only [edit?, RuleEdit.onSet?, replace?_of_not_mem h,
          if_neg (mt List.mem_toFinset.1 h)]
        exact .none

/-! ## One edit, on the order -/

theorem filter_sublist_edit? (h : v.edit? e = some w) :
    (v.productions.filter fun p => !e.takesOut p).Sublist w.productions := by
  cases e with
  | add rhs =>
      cases h
      refine List.filter_sublist.trans ?_
      rw [productions_add]
      split
      · exact List.Sublist.refl _
      · exact List.sublist_append_left ..
  | remove p =>
      cases h
      rw [productions_remove, v.nodup_productions.erase_eq_filter]
      simp [RuleEdit.takesOut, bne, beq_eq_decide]
  | replace p rhs =>
      by_cases hp : p ∈ v.productions
      · obtain ⟨old, -, rfl⟩ := mem_productions.1 hp
        obtain rfl : _ = w := Option.some.inj ((replace?_of_mem hp rhs).symm.trans h)
        have hkept := (v.rules.filter_sublist_replace old rhs).map (Production.mk v.label)
        rw [productions, List.filter_map]
        simpa [RuleEdit.takesOut, Function.comp_def, productions] using hkept
      · rw [edit?, replace?_of_not_mem hp] at h
        cases h

/-! ## Every run -/

theorem productions_after (v : Variable) (edits : List RuleEdit) :
    (v.after edits).label = v.label ∧
      (v.after edits).productions = RuleEdit.run (RuleEdit.onList? v.label) v.productions edits :=
  RuleEdit.rel_run (R := fun (w : Variable) l => w.label = v.label ∧ w.productions = l)
    (fun e _ _ hw => hw.2 ▸ rel_onList e hw.1) edits ⟨rfl, rfl⟩

theorem toFinset_after (v : Variable) (edits : List RuleEdit) :
    (v.after edits).productions.toFinset =
      RuleEdit.run (RuleEdit.onSet? v.label) v.productions.toFinset edits :=
  (RuleEdit.rel_run (R := fun (w : Variable) S => w.label = v.label ∧ w.productions.toFinset = S)
    (fun e _ _ hw => hw.2 ▸ rel_onSet e hw.1) edits ⟨rfl, rfl⟩).2

theorem filter_sublist_after (v : Variable) (edits : List RuleEdit) :
    (v.productions.filter fun p => !edits.any (·.takesOut p)).Sublist
      (v.after edits).productions := by
  induction edits generalizing v with
  | nil => exact List.filter_sublist
  | cons e edits ih =>
      have hstep : (v.productions.filter fun p => !e.takesOut p).Sublist
          ((v.edit? e).getD v).productions := by
        cases h : v.edit? e with
        | none => exact List.filter_sublist
        | some w => exact filter_sublist_edit? h
      -- of the rules that pass the first edit, those that pass the others are followed on
      have hkept := hstep.filter fun p => !edits.any (·.takesOut p)
      rw [List.filter_filter] at hkept
      refine List.Sublist.trans ?_ (hkept.trans (ih _))
      simp [Bool.and_comm]

/-- What holds of a variable that had no rules when it was made and was edited since. -/
structure Edited (label : String) (edits : List RuleEdit) (v : Variable) : Prop where
  /-- The label is the one it was made with. -/
  label_eq : v.label = label
  /-- The list of its rules is the plain list on which the same edits were made. -/
  productions_eq : v.productions = RuleEdit.run (RuleEdit.onList? label) [] edits
  /-- No two rules have the same right-hand side. -/
  nodup_rhs : (v.productions.map Production.rhs).Nodup
  /-- Every rule goes by the label. -/
  lhs_eq : ∀ p ∈ v.productions, p.lhs = label
  /-- The set of its rules is the one on which the same edits were made. -/
  toFinset_eq : v.productions.toFinset = RuleEdit.run (RuleEdit.onSet? label) ∅ edits
  /-- So is the set of its right-hand sides. -/
  mem_rhs_iff : ∀ rhs, rhs ∈ v.productions.map Production.rhs ↔
    ⟨label, rhs⟩ ∈ RuleEdit.run (RuleEdit.onSet? label) ∅ edits
  /-- An edit is refused exactly if it is to replace a rule that is not in that set. -/
  refused_iff : ∀ e, v.edit? e = none ↔
    ∃ p rhs, e = .replace p rhs ∧ p ∉ RuleEdit.run (RuleEdit.onSet? label) ∅ edits
  /-- A refused edit changes nothing. -/
  unchanged : ∀ e, v.edit? e = none → v.after [e] = v
  /-- The rules that no later edit takes out keep their order. -/
  sublist : ∀ later : List RuleEdit,
    (v.productions.filter fun p => !later.any (·.takesOut p)).Sublist (v.after later).productions

/-- The rules of a variable are a set with an order after every run of edits. -/
theorem edited_after (label : String) (edits : List RuleEdit) :
    Edited label edits ((blank label).after edits) := by
  have hlist := (blank label).productions_after edits
  have hset := (blank label).toFinset_after edits
  generalize (blank label).after edits = v at hlist hset ⊢
  have hlabel : v.label = label := hlist.1
  have hlhs : ∀ p ∈ v.productions, p.lhs = label := fun p hp => (lhs_of_mem hp).trans hlabel
  have hmem : ∀ p, p ∈ v.productions ↔ p ∈ RuleEdit.run (RuleEdit.onSet? label) ∅ edits :=
    fun p => List.mem_toFinset.symm.trans (iff_of_eq (congrArg (p ∈ ·) hset))
  exact {
    label_eq := hlabel
    productions_eq := hlist.2
    nodup_rhs := by
      rw [map_rhs_productions]
      exact v.rules.nodup
    lhs_eq := hlhs
    toFinset_eq := hset
    mem_rhs_iff := by
      intro rhs
      rw [map_rhs_productions, OrderedSet.mem_toList, ← mk_mem_productions, hlabel, hmem]
    refused_iff := by
      intro e
      simp only [edit?_eq_none_iff, hmem]
    unchanged := by
      intro e he
      show (v.edit? e).getD v = v
      rw [he, Option.getD_none]
    sublist := v.filter_sublist_after }

/-- A rule replaced by a sibling on either side of it, by itself and by a new one, and requests
for rules that are not there, one of them for its owner. -/
example : ((blank "S").after [
      .add [.terminal "a"], .add [.terminal "b"], .add [.terminal "a"], .add [.terminal "c"],
      .replace ⟨"S", [.terminal "a"]⟩ [.terminal "c"],
      .replace ⟨"S", [.terminal "b"]⟩ [.terminal "b"],
      .add [.terminal "d"], .replace ⟨"S", [.terminal "d"]⟩ [.terminal "b"],
      .replace ⟨"S", [.terminal "b"]⟩ [], .replace ⟨"S", [.terminal "a"]⟩ [.terminal "e"],
      .remove ⟨"A", []⟩]).rules.toList = [[], [.terminal "c"]] := by
  decide

end Variable

end ContextFree
