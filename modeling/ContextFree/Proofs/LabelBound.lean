import ContextFree.Proofs.StartSymbol

/-!
# What the bound on labels can be seen by

A grammar knows whether its fresh labels are single letters only. Nothing looks at that but
the drawing of a label, and this only when all letters are taken. So a program that draws no
label does the same to a grammar and to its copy with another bound: the results differ in
the bound and in nothing else.

That a program does the same when its states are seen through a map is kept by sequencing,
and so it is enough to look at the single steps.
-/

namespace ContextFree

variable {ε σ τ α β : Type}

/-! ## Runs seen through a map of states -/

/-- The same result, with a map applied to the state. -/
def mapState (f : σ → τ) : EStateM.Result ε σ α → EStateM.Result ε τ α
  | .ok a s => .ok a (f s)
  | .error e s => .error e (f s)

/-- One program is what the other one looks like if its states are seen through a map. -/
def RunsAs (f : σ → τ) (x : EStateM ε σ α) (y : EStateM ε τ α) : Prop :=
  ∀ s, mapState f (x.run s) = y.run (f s)

section

variable {f : σ → τ} {x : EStateM ε σ α} {y : EStateM ε τ α} {x' : α → EStateM ε σ β}
  {y' : α → EStateM ε τ β}

theorem finalState_mapState (f : σ → τ) (r : EStateM.Result ε σ α) :
    finalState (mapState f r) = f (finalState r) := by
  cases r <;> rfl

theorem exists_of_mapState_eq_error {f : σ → τ} {r : EStateM.Result ε σ α} {e : ε} {t : τ}
    (h : mapState f r = .error e t) : ∃ s, r = .error e s := by
  cases r with
  | ok a s => cases h
  | error e' s =>
      cases h
      exact ⟨s, rfl⟩

theorem mapState_mapState {υ : Type} (f : σ → τ) (g : τ → υ) (r : EStateM.Result ε σ α) :
    mapState g (mapState f r) = mapState (fun s => g (f s)) r := by
  cases r <;> rfl

theorem runsAs_pure (f : σ → τ) (a : α) :
    RunsAs f (pure a : EStateM ε σ α) (pure a : EStateM ε τ α) := fun _ => rfl

theorem RunsAs.bind (hx : RunsAs f x y) (hx' : ∀ a, RunsAs f (x' a) (y' a)) :
    RunsAs f (x >>= x') (y >>= y') := by
  intro s
  rw [EStateM.run_bind, EStateM.run_bind, ← hx s]
  cases x.run s with
  | ok a s' => exact hx' a s'
  | error e s' => rfl

theorem RunsAs.get_bind {x' : σ → EStateM ε σ α} {y' : τ → EStateM ε τ α}
    (h : ∀ s, RunsAs f (x' s) (y' (f s))) : RunsAs f (get >>= x') (get >>= y') :=
  fun s => h s s

theorem RunsAs.mapM {items : List α} (h : ∀ a, RunsAs f (x' a) (y' a)) :
    RunsAs f (items.mapM x') (items.mapM y') := by
  induction items with
  | nil => exact runsAs_pure f []
  | cons a items ih =>
      rw [List.mapM_cons, List.mapM_cons]
      exact (h a).bind fun b => ih.bind fun bs => runsAs_pure f (b :: bs)

theorem RunsAs.forM {items : List α} {x' : α → EStateM ε σ Unit} {y' : α → EStateM ε τ Unit}
    (h : ∀ a, RunsAs f (x' a) (y' a)) : RunsAs f (items.forM x') (items.forM y') := by
  induction items with
  | nil => exact runsAs_pure f ()
  | cons a items ih =>
      rw [List.forM_eq_forM, List.forM_cons, List.forM_eq_forM, List.forM_cons]
      exact (h a).bind fun _ => ih

end

/-! ## A grammar with another bound -/

namespace Grammar

/-- The grammar with another bound on fresh labels. -/
def setBounded (bounded : Bool) (g : Grammar) : Grammar := { g with bounded }

variable {g : Grammar} {bounded : Bool}

theorem setBounded_eq_self (h : g.bounded = bounded) : g.setBounded bounded = g := by
  subst h
  rfl

theorem inlineUnit_setBounded (g : Grammar) (a b : String) (bounded : Bool) :
    (g.setBounded bounded).inlineUnit a b = (g.inlineUnit a b).setBounded bounded := by
  unfold inlineUnit
  rw [apply_ite (setBounded bounded)]
  rfl

theorem unitPass_setBounded (g : Grammar) (bounded : Bool) :
    (g.setBounded bounded).unitPass = g.unitPass.setBounded bounded :=
  List.foldl_hom (setBounded bounded) fun h u => inlineUnit_setBounded h u.1 u.2 bounded

theorem keepVariables_setBounded (g : Grammar) (labels : LabelSet) (bounded : Bool) :
    (g.setBounded bounded).keepVariables labels = (g.keepVariables labels).setBounded bounded :=
  List.foldl_hom (setBounded bounded) fun _ _ => rfl

theorem discover_setBounded (g : Grammar) (bounded : Bool) (known : LabelSet)
    (labels : List String) :
    (g.setBounded bounded).discover known labels = g.discover known labels := by
  induction labels generalizing known with
  | nil => rfl
  | cons a labels ih =>
      rw [discover, discover, ih, ih]
      rfl

theorem reachWithin_setBounded (g : Grammar) (bounded : Bool) (rounds : Nat) (known : LabelSet)
    (latest : List String) :
    (g.setBounded bounded).reachWithin rounds known latest = g.reachWithin rounds known latest := by
  induction rounds generalizing known latest with
  | zero => rfl
  | succ rounds ih =>
      rw [reachWithin, reachWithin, discover_setBounded]
      simp only [ih]
      rfl

theorem usefulPart_setBounded (g : Grammar) (bounded : Bool) :
    (g.setBounded bounded).usefulPart = g.usefulPart.setBounded bounded := by
  have hsettled : (g.setBounded bounded).keepVariables (g.setBounded bounded).terminating =
      (g.keepVariables g.terminating).setBounded bounded := keepVariables_setBounded ..
  unfold usefulPart
  dsimp only
  rw [hsettled, reachable, reachWithin_setBounded]
  exact congrArg dropUnusedTerminals (keepVariables_setBounded ..)

end Grammar

/-! ## The label that comes next -/

namespace Grammar

/-- Either a letter is free, and then it does not matter whether labels are bounded, or a
numbered label is what comes next, and with a bound nothing is. -/
theorem freshLabel?_setBounded (g : Grammar) :
    (∃ label ∈ letterLabels, ∀ bounded, (g.setBounded bounded).freshLabel? = some label) ∨
      (∃ n, (g.setBounded false).freshLabel? = some (numberedLabel n)) ∧
        (g.setBounded true).freshLabel? = none := by
  obtain ⟨n, hn⟩ := g.exists_firstFree
  have heq : ∀ bounded, (g.setBounded bounded).freshLabel? =
      if bounded = true ∧ 26 ≤ n then none else some (labelAt n) :=
    fun bounded => FirstFree.freshLabel?_eq (g := g.setBounded bounded) ⟨hn.free, hn.used⟩
  by_cases hlt : n < 26
  · refine Or.inl ⟨labelAt n, ?_, fun bounded => ?_⟩
    · rw [labelAt_of_lt hlt]
      exact List.getElem_mem hlt
    · rw [heq, if_neg (by omega)]
  · obtain ⟨k, rfl⟩ := Nat.exists_eq_add_of_le' (Nat.le_of_not_lt hlt)
    refine Or.inr ⟨⟨k + 1, ?_⟩, ?_⟩
    · rw [heq, if_neg (by simp), labelAt_add]
    · rw [heq, if_pos ⟨rfl, by omega⟩]

end Grammar

theorem numberedLabel_not_mem_letterLabels (n : Nat) : numberedLabel n ∉ letterLabels := by
  have hall : ∀ a ∈ letterLabels, labelNumber? a = none := by decide
  intro h
  have hnone := hall _ h
  rw [labelNumber?_numberedLabel] at hnone
  cases hnone

/-! ## Programs that draw no label -/

namespace Transform

variable {x : Transform α} {x' : α → Transform β}

/-- The program does the same whatever the bound is, and it is not stopped for want of labels. -/
structure IgnoresBound (x : Transform α) : Prop where
  run_setBounded (bounded : Bool) : RunsAs (Grammar.setBounded bounded) x x
  not_exhausted (g : Grammar) : Ends (x.run g) (fun _ _ => True) fun e _ => e ≠ .labelsExhausted

/-- A program that ignores the bound does not change it either. -/
theorem IgnoresBound.bounded_eq (hx : x.IgnoresBound) (g : Grammar) :
    (finalState (x.run g)).bounded = g.bounded := by
  have h := hx.run_setBounded g.bounded g
  rw [Grammar.setBounded_eq_self rfl] at h
  rw [← h, finalState_mapState]
  rfl

theorem IgnoresBound.bind (hx : x.IgnoresBound) (hx' : ∀ a, (x' a).IgnoresBound) :
    (x >>= x').IgnoresBound where
  run_setBounded bounded := (hx.run_setBounded bounded).bind fun a => (hx' a).run_setBounded bounded
  not_exhausted g := by
    rw [ends_bind]
    exact (hx.not_exhausted g).imp (fun a g' _ => (hx' a).not_exhausted g') fun _ _ h => h

theorem replaceStart_ignoresBound (label : String) : (replaceStart label).IgnoresBound where
  run_setBounded bounded g := by
    rw [replaceStart_run, replaceStart_run, apply_ite (mapState _)]
    rfl
  not_exhausted g := by
    rw [replaceStart_run]
    split
    · exact nofun
    · trivial

theorem removeEmptyRules_ignoresBound : removeEmptyRules.IgnoresBound where
  run_setBounded _ _ := rfl
  not_exhausted _ := trivial

theorem removeUnits_ignoresBound (limit : Int) : (removeUnits limit).IgnoresBound where
  run_setBounded bounded g := by
    have hpasses := Function.Semiconj.iterate_right
      (fun g => (Grammar.unitPass_setBounded g bounded).symm) limit.toNat g
    rw [removeUnits_run, removeUnits_run, apply_ite (mapState _), ← hpasses]
    rfl
  not_exhausted g := by
    rw [removeUnits_run]
    split
    · trivial
    · exact nofun

theorem removeUseless_ignoresBound : removeUseless.IgnoresBound where
  run_setBounded bounded g := by
    rw [Grammar.removeUseless_run, Grammar.removeUseless_run, apply_ite (mapState _),
      Grammar.usefulPart_setBounded]
    rfl
  not_exhausted g := by
    rw [Grammar.removeUseless_run]
    split
    · trivial
    · exact nofun

theorem simplify_ignoresBound (limit : Int) : (simplify limit).IgnoresBound :=
  removeEmptyRules_ignoresBound.bind fun _ =>
    (removeUnits_ignoresBound limit).bind fun _ => removeUseless_ignoresBound

end Transform

end ContextFree
