import ContextFree.NormalForm.Standalone

/-!
# How a program ends

A transform ends in one of two ways, and what it had done by then stays done in
both. A statement about it therefore has two parts: what holds of the state when
it returned, and what holds of the state when it stopped. `Ends` states both, and
sequencing splits it into one statement for each program of the sequence.
-/

namespace ContextFree

variable {ε σ α β : Type}

/-- What holds at the end of a run: `done` if it returned, `stopped` if not. -/
def Ends (r : EStateM.Result ε σ α) (done : α → σ → Prop) (stopped : ε → σ → Prop) : Prop :=
  match r with
  | .ok a s => done a s
  | .error e s => stopped e s

variable {r : EStateM.Result ε σ α} {s : σ} {done : α → σ → Prop} {stopped : ε → σ → Prop}

theorem Ends.imp {done' : α → σ → Prop} {stopped' : ε → σ → Prop} (h : Ends r done stopped)
    (hdone : ∀ a s, done a s → done' a s) (hstopped : ∀ e s, stopped e s → stopped' e s) :
    Ends r done' stopped' := by
  cases r with
  | ok a s => exact hdone a s h
  | error e s => exact hstopped e s h

theorem ends_true (r : EStateM.Result ε σ α) : Ends r (fun _ _ => True) fun _ _ => True := by
  cases r <;> trivial

/-- What holds at the end on a condition may be shown on that condition. -/
theorem Ends.of_imp {H : Prop} (h : H → Ends r done stopped) :
    Ends r (fun a s => H → done a s) fun e s => H → stopped e s := by
  cases r <;> exact h

/-- A sequence is followed into its second program from wherever the first one
returned. -/
theorem ends_bind {x : EStateM ε σ α} {f : α → EStateM ε σ β} {done : β → σ → Prop} :
    Ends ((x >>= f).run s) done stopped ↔
      Ends (x.run s) (fun a s' => Ends ((f a).run s') done stopped) stopped := by
  rw [EStateM.run_bind]
  cases x.run s <;> exact Iff.rfl

theorem ends_get_bind {f : σ → EStateM ε σ β} {done : β → σ → Prop} :
    Ends ((get >>= f).run s) done stopped ↔ Ends ((f s).run s) done stopped :=
  Iff.rfl

theorem Ends.of_ok {a : α} (h : Ends r done stopped) (hr : r = .ok a s) : done a s := by
  subst hr
  exact h

/-- The state at the end, whichever way the run ended. -/
def finalState : EStateM.Result ε σ α → σ
  | .ok _ s => s
  | .error _ s => s

theorem Ends.finalState {P : σ → Prop} (h : Ends r (fun _ => P) fun _ => P) :
    P (finalState r) := by
  cases r <;> exact h

end ContextFree
