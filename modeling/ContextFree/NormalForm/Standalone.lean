import ContextFree.Grammar.Transform

/-!
# Standalone variables

A variable whose only rule is in normal form can stand for that rule's right-hand
side wherever it occurs. Conversion to normal form uses the standalone variables
a grammar has and makes new ones for the right-hand sides that have none, so the
grammar grows as little as the method allows.

The start symbol is never a standalone: it must not come to stand in a rule.
-/

namespace ContextFree

/-- For every right-hand side that has one, its standalone variable. -/
abbrev Standalones := OrderedMap Rhs String

/-- The standalone variables of a grammar. Of several for one right-hand side the
first is taken. -/
def Grammar.standalones (g : Grammar) : Standalones :=
  g.rules.entries.foldl (fun found (label, rules) =>
    match rules.toList with
    | [rhs] => if label ≠ g.start ∧ rhs.isNormal then found.insertNew rhs label else found
    | _ => found) .empty

/-- A grammar under conversion, with the standalone variables known so far. -/
structure Workspace where
  /-- The grammar that is converted. -/
  grammar : Grammar
  /-- Its standalone variables. -/
  standalones : Standalones

/-- A program that converts a grammar step by step. -/
abbrev Conversion (α : Type) := EStateM TransformError Workspace α

/-- The workspace that a conversion of a grammar begins with. -/
def Grammar.workspace (g : Grammar) : Workspace := ⟨g, g.standalones⟩

namespace Conversion

/-- The standalone variable of a right-hand side. If there is none yet, a
variable with a fresh label becomes it. -/
def standaloneFor (rhs : Rhs) : Conversion String := do
  let w ← get
  match w.standalones.get? rhs with
  | some label => return label
  | none =>
    match w.grammar.freshLabel? with
    | none => throw .labelsExhausted
    | some label =>
      set (Workspace.mk ((w.grammar.addVariable label).addRule label rhs)
        (w.standalones.insertNew rhs label))
      return label

/-- Runs a conversion on the grammar in place. The grammar is kept, also after an
error, and the standalone variables are forgotten. -/
def toTransform {α : Type} (conversion : Conversion α) : Transform α := fun g =>
  match conversion g.workspace with
  | .ok a w => .ok a w.grammar
  | .error e w => .error e w.grammar

end Conversion

end ContextFree
