import FormIntake.Pattern.CharClass

/-!
Patterns, in a form in which nothing is left that a shorter pattern says as well: sequences and
choices are flat, one-character branches are one set, and what branches have in common in front
stands in front of the choice.
-/

namespace FormIntake

namespace Pattern

inductive Edge
  | textStart | textEnd
  | lineStart | lineEnd
  | anyLineStart | anyLineEnd
  | wordBoundary (ascii : Bool) | noWordBoundary (ascii : Bool)
  | wordStart (ascii : Bool) | wordEnd (ascii : Bool)
  | wordStartHalf (ascii : Bool) | wordEndHalf (ascii : Bool)
  deriving DecidableEq, Repr

end Pattern

inductive Pattern
  | empty
  | one (s : Text.CharSet)
  | edge (e : Pattern.Edge)
  | group (number : Nat) (p : Pattern)
  | seq (p q : Pattern)
  | alt (p q : Pattern)
  /-- From `least` to `most` times, or without an upper bound, preferably often or seldom. -/
  | repeated (p : Pattern) (least : Nat) (most : Option Nat) (greedy : Bool)
  deriving DecidableEq, Repr

namespace Pattern

open Text (CharSet)

def items : Pattern → List Pattern
  | empty => []
  | seq p q => p.items ++ q.items
  | p => [p]

def branches : Pattern → List Pattern
  | alt p q => p.branches ++ q.branches
  | p => [p]

def set? : Pattern → Option CharSet
  | one s => some s
  | _ => none

def isLiteral (p : Pattern) : Bool := (p.set?.bind CharSet.single?).isSome

def blocks (p : Pattern) : List (List Pattern) :=
  p.items.splitBy fun q r => q.isLiteral && r.isLiteral

def ofItems : List Pattern → Pattern
  | [] => empty
  | [p] => p
  | p :: rest => seq p (ofItems rest)

def inOrder (patterns : List Pattern) : Pattern := ofItems (patterns.flatMap items)

/-- The one set of branches that are all sets: either certain characters, or none of them one. -/
def unitedSet? (branches : List Pattern) : Option CharSet := do
  let sets ← branches.mapM set?
  if branches.all isLiteral || !branches.any isLiteral then
    some (.ofRanges (sets.flatMap (·.ranges)))
  else none

def ofBranches : List Pattern → Pattern
  | [] => one .empty
  | p :: rest => rest.foldl alt p

def eitherOf (patterns : List Pattern) : Pattern :=
  match patterns.flatMap branches with
  | [p] => p
  | all => ((unitedSet? all).map one).getD (ofBranches all)

def commonFront : List (List Pattern) → List (List Pattern) → List (List Pattern)
  | p :: ps, q :: qs => if p = q then p :: commonFront ps qs else []
  | _, _ => []

/-- One of the patterns. Where all are sequences with the same parts in front, these come first. -/
def anyOf (patterns : List Pattern) : Pattern :=
  let all := patterns.flatMap branches
  let parts := all.map blocks
  let front := (parts.tail).foldl commonFront (parts.headD [])
  if 2 ≤ all.length ∧ parts.all (2 ≤ ·.length) ∧ (unitedSet? all).isNone ∧ !front.isEmpty then
    inOrder (front.flatten ++
      [eitherOf (parts.map fun p => ofItems (p.drop front.length).flatten)])
  else eitherOf patterns

def takesNone : Pattern → Bool
  | empty | edge _ => true
  | one _ => false
  | group _ p => p.takesNone
  | seq p q | alt p q => p.takesNone && q.takesNone
  | repeated p _ most _ => most.isSome && p.takesNone

/-- A pattern from `least` to `most` times. What takes no character is not repeated. -/
def times (p : Pattern) (least : Nat) (most : Option Nat) (greedy : Bool) : Pattern :=
  let least := if p.takesNone then min least 1 else least
  let most := if p.takesNone then some (min (most.getD 1) 1) else most
  if least = 0 ∧ most = some 0 then empty
  else if least = 1 ∧ most = some 1 then p
  else repeated p least most greedy

end Pattern

end FormIntake
