import ContextFree.NormalForm.Standalone

/-!
# Which pair to replace next

A right-hand side of three or more symbols is shortened by putting a standalone
variable in the place of two neighbours. Three pairs are considered: the first
and second symbol, the first and third wherever these stand side by side, and
the second and third. The first of these pairs that has a standalone variable is
taken, so that no variable is made without need; if none has one, it is the pair
at the beginning.
-/

namespace ContextFree

namespace Rhs

/-- The first place at which two symbols stand side by side. -/
def indexOfPair? (a b : Symbol) : Rhs → Option Nat
  | x :: y :: rest =>
    if x = a ∧ y = b then some 0 else (indexOfPair? a b (y :: rest)).map (· + 1)
  | _ => none

/-- The pair to replace next and its place, if there are three symbols. -/
def nextPair? (standalones : Standalones) (rhs : Rhs) : Option (Nat × Symbol × Symbol) :=
  match rhs with
  | a :: b :: c :: _ =>
    let candidates := [(a, b), (a, c), (b, c)].filterMap fun (x, y) =>
      (rhs.indexOfPair? x y).map (·, x, y)
    some ((candidates.find? fun (_, x, y) => standalones.contains [x, y]).getD (0, a, b))
  | _ => none

/-- Puts a symbol in the place of the two symbols at an index. -/
def replacePair (rhs : Rhs) (index : Nat) (s : Symbol) : Rhs :=
  rhs.take index ++ s :: rhs.drop (index + 2)

end Rhs

end ContextFree
