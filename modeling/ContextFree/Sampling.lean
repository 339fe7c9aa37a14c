import ContextFree.Grammar.Basic

/-!
# Sampling words

A word is sampled by expanding the start symbol from the left, choosing a rule
for every variable. The choices come from a given sequence, so a sample can be
repeated; how many have been made is the state of a sampler.

A sample can fail to come to its end in two ways. A branch that grows deeper than
allowed is cut off, and one cut spoils the whole sample. The sign for that is a
text, and it is told apart from other texts only by what it says: a part that
happens to read like the sign counts as cut off. Besides, every expansion takes
room on a stack, and where there is none the sample breaks off. Either way it is
passed over and the next one is tried.
-/

namespace ContextFree

/-- The sign that a sample was cut off. -/
def truncationMark : String := "[...]"

/-- A sequence of choices. Each is taken modulo the number of options. -/
abbrev Choices := Nat → Nat

/-- The given choices, over and over; always the first option if there are none. -/
def Choices.cycle (choices : Array Nat) : Choices := fun k =>
  choices.getD (k % choices.size) 0

/-- Whether the stack has room to expand a symbol at a depth. The start symbol is
at depth zero. Variables may take more room than terminals, since choosing a rule
takes some as well. -/
abbrev Room := Nat → Symbol → Bool

/-- Room for every expansion. -/
def Room.unlimited : Room := fun _ _ => true

/-- A program that makes choices and counts them. -/
abbrev Sampler (α : Type) := StateM Nat α

namespace Sampler

/-- Makes the next choice. -/
def choose {α : Type} [Inhabited α] (choices : Choices) (options : List α) : Sampler α :=
  modifyGet fun k => (options[choices k % options.length]?.getD default, k + 1)

/-- Takes the room for an expansion. -/
def takeRoom (room : Room) (depth : Nat) (s : Symbol) : OptionT Sampler Unit :=
  if room depth s then return () else failure

/-- Samples the symbols of a right-hand side one after the other and stops at the
first that is cut off. Empty parts are left out. -/
def parts (sample : Symbol → OptionT Sampler String) :
    Rhs → OptionT Sampler (Option (List String))
  | [] => return some []
  | s :: rest => do
    let part ← sample s
    if part = truncationMark then return none
    match ← parts sample rest with
    | none => return none
    | some others => return some (if part.isEmpty then others else part :: others)

/-- The text of a sample that came to its end. -/
def finished? (outcome : Option String) : Option String := outcome.filter (· ≠ truncationMark)

end Sampler

namespace Grammar

/-- Samples a text for a symbol at a depth, by trees of at most the given height. A
variable without rules gives the empty text. Fails where there is no room. -/
def expand (g : Grammar) (room : Room) (choices : Choices) (separator : String) (depth : Nat) :
    Nat → Symbol → OptionT Sampler String
  | 0, s => do
    Sampler.takeRoom room depth s
    return truncationMark
  | _ + 1, .terminal a => do
    Sampler.takeRoom room depth (.terminal a)
    return a
  | height + 1, .nonterminal a => do
    Sampler.takeRoom room depth (.nonterminal a)
    match g.rulesOf a with
    | [] => return ""
    | rules =>
      let rhs ← OptionT.lift (Sampler.choose choices rules)
      match ← Sampler.parts (expand g room choices separator (depth + 1) height) rhs with
      | none => return truncationMark
      | some parts => return separator.intercalate parts

/-- Samples a text for a symbol by trees of at most the given height, with room for
all of them. -/
def sample (g : Grammar) (choices : Choices) (separator : String) (height : Nat) (s : Symbol) :
    Sampler String :=
  return (← (g.expand .unlimited choices separator 0 height s).run).getD truncationMark

/-- How high a tree may become whose root is at `depth` and whose leaves are not
below `maxDepth`. -/
def heightBelow (maxDepth depth : Int) : Nat := (maxDepth - depth + 1).toNat

/-- Samples the start symbol until enough texts are found, and at most the given
number of times. Samples that did not come to their end are passed over. -/
def sampleRepeatedly (g : Grammar) (room : Room) (choices : Choices) (separator : String)
    (height : Nat) (wanted : Int) : Nat → OrderedSet String → Sampler (OrderedSet String)
  | 0, found => return found
  | attempts + 1, found => do
    if wanted ≤ found.size then return found
    let outcome ← (g.expand room choices separator 0 height (.nonterminal g.start)).run
    sampleRepeatedly g room choices separator height wanted attempts
      ((Sampler.finished? outcome).elim found found.insert)

/-- Different texts for the start symbol, in the order in which they were found. -/
def samples (g : Grammar) (choices : Choices) (separator : String)
    (maxDepth wanted attempts : Int) (room : Room := .unlimited) : Sampler (OrderedSet String) :=
  if g.hasVariable g.start then
    g.sampleRepeatedly room choices separator (heightBelow maxDepth 0) wanted attempts.toNat .empty
  else return .empty

end Grammar

end ContextFree
