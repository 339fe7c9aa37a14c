import ContextFree.Grammar.Basic

/-!
# A variable and its rules

The rules of one variable as a set that can be changed rule by rule. Rules are
named by productions, and a production of another variable is not one of its
rules, whatever its right-hand side; so it is not taken out, and a request to
replace it is refused.
-/

namespace ContextFree

/-- A label with the rules it owns. -/
structure Variable where
  /-- The label of the variable. -/
  label : String
  /-- The right-hand sides of its rules. -/
  rules : OrderedSet Rhs
  deriving DecidableEq

namespace Variable

/-- A variable without rules. -/
def blank (label : String) : Variable := ⟨label, .empty⟩

/-- The rules as productions. -/
def productions (v : Variable) : List Production := v.rules.toList.map (⟨v.label, ·⟩)

/-- Whether a production is one of the rules. -/
def owns (v : Variable) (p : Production) : Bool := p.lhs == v.label && v.rules.toList.contains p.rhs

/-- Adds a rule at the end, unless it is there. -/
def add (v : Variable) (rhs : Rhs) : Variable := { v with rules := v.rules.insert rhs }

/-- Takes a rule out, if it is there. -/
def remove (v : Variable) (p : Production) : Variable :=
  if v.owns p then { v with rules := v.rules.erase p.rhs } else v

/-- Changes the right-hand side of a rule where it stands. A rule that becomes
equal to another one disappears; a rule that is not there cannot be changed. -/
def replace? (v : Variable) (p : Production) (rhs : Rhs) : Option Variable :=
  if v.owns p then some { v with rules := v.rules.replace p.rhs rhs } else none

variable {v : Variable} {p : Production}

theorem mem_productions : p ∈ v.productions ↔ ∃ r ∈ v.rules, ⟨v.label, r⟩ = p := List.mem_map

theorem lhs_of_mem (h : p ∈ v.productions) : p.lhs = v.label := by
  obtain ⟨r, -, rfl⟩ := mem_productions.1 h
  rfl

theorem map_rhs_productions (v : Variable) : v.productions.map Production.rhs = v.rules.toList := by
  simp [productions, Function.comp_def]

theorem owns_iff : v.owns p = true ↔ p ∈ v.productions := by
  simp only [owns, Bool.and_eq_true, beq_iff_eq, List.contains_iff_mem, OrderedSet.mem_toList]
  constructor
  · rintro ⟨hlhs, hrhs⟩
    exact mem_productions.2 ⟨p.rhs, hrhs, by rw [← hlhs]⟩
  · intro h
    obtain ⟨r, hr, rfl⟩ := mem_productions.1 h
    exact ⟨rfl, hr⟩

@[simp]
theorem label_remove (v : Variable) (p : Production) : (v.remove p).label = v.label := by
  unfold remove
  split <;> rfl

theorem replace?_of_mem (h : p ∈ v.productions) (rhs : Rhs) :
    v.replace? p rhs = some { v with rules := v.rules.replace p.rhs rhs } := by
  rw [replace?, if_pos (owns_iff.2 h)]

theorem replace?_of_not_mem (h : p ∉ v.productions) (rhs : Rhs) : v.replace? p rhs = none := by
  rw [replace?, if_neg (mt owns_iff.1 h)]

end Variable

namespace Grammar

/-- A variable of the grammar with its rules. -/
def find? (g : Grammar) (label : String) : Option Variable :=
  (g.rules.get? label).map (⟨label, ·⟩)

/-- Puts a variable back into the grammar after a change of its rules. -/
def setVariable (g : Grammar) (v : Variable) : Grammar :=
  g.modifyRules v.label fun _ => v.rules

end Grammar

end ContextFree
