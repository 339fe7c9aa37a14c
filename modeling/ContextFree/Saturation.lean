import Std.Data.TreeSet

/-!
# Growing a set to its fixed point

Which variables derive the empty word and which derive any word at all are two
least fixed points over the variables of a grammar. Both are computed in the same
way, in passes over the candidates that are left: a candidate that the labels known
by then admit becomes known at once, so the candidates after it in the same pass
already see it.

A pass that admits no candidate is the last one, and a pass that goes on uses one
up, so as many passes as there are candidates are always enough.
-/

namespace ContextFree

/-- A set of labels. -/
abbrev LabelSet := Std.TreeSet String

variable {α : Type}

/-- One pass over the candidates: the labels known at its end, and the candidates
that are left. -/
def saturationPass (admits : LabelSet → α → Bool) :
    List (String × α) → LabelSet → LabelSet × List (String × α)
  | [], known => (known, [])
  | (a, x) :: rest, known =>
    if admits known x then saturationPass admits rest (known.insert a)
    else
      let (known, left) := saturationPass admits rest known
      (known, (a, x) :: left)

/-- At most the given number of passes. -/
def saturateWithin (admits : LabelSet → α → Bool) :
    Nat → List (String × α) → LabelSet → LabelSet
  | 0, _, known => known
  | passes + 1, candidates, known =>
    let (known, left) := saturationPass admits candidates known
    if left.length = candidates.length then known else saturateWithin admits passes left known

/-- The labels that are known at the end, when every candidate that the known
labels admit becomes known. A candidate is a label with what is tested of it. -/
def saturate (admits : LabelSet → α → Bool) (candidates : List (String × α))
    (known : LabelSet) : LabelSet :=
  saturateWithin admits candidates.length candidates known

end ContextFree
