import FormIntake.Pattern.Basic
import FormIntake.Text.Utf8.Ranges
import Std.Data.HashMap

/-!
The size of the state machines that search for a pattern, octet by octet of UTF-8, one of them from
the front of a text and one from its end. A pattern is accepted only if both are small enough.

A state takes thirty-two octets. A state that leads on by ranges of octets takes eight more for each
of them, unless it has one range only and stands alone; a fork takes four more for each of its ways.
-/

namespace FormIntake.Pattern

open Text (CharSet)
open Text.Utf8 (OctetRange)

structure Machine where
  states : Nat := 0
  octets : Nat := 0

namespace Machine

def limit : Nat := 10 * 2 ^ 20

def within (m : Machine) : Option Machine := if m.octets ≤ limit then some m else none

def state (extra : Nat) (m : Machine) : Option Machine :=
  within ⟨m.states + 1, m.octets + 32 + extra⟩

def byRanges (count : Nat) (m : Machine) : Option Machine := m.state (8 * count)

def ways (count : Nat) (m : Machine) : Option Machine :=
  within { m with octets := m.octets + 4 * count }

def repeatedly (step : Machine → Option Machine) : Nat → Machine → Option Machine
  | 0, m => some m
  | count + 1, m =>
    match step m with
    | some next => repeatedly step count next
    | none => none

end Machine

/-- Numbers of states by what they were made from. There is a limited number of places, picked by a
sum of the numbers that the key consists of, and a newcomer takes the place of what was there. -/
structure Memo where
  places : UInt64
  kept : Std.HashMap UInt64 (List Nat × Nat) := {}

namespace Memo

def place (memo : Memo) (key : List Nat) : UInt64 :=
  key.foldl (fun sum n => (sum ^^^ n.toUInt64) * 1099511628211) 14695981039346656037 % memo.places

def get? (memo : Memo) (key : List Nat) : Option Nat :=
  match memo.kept[memo.place key]? with
  | some (found, number) => if found = key then some number else none
  | none => none

def put (memo : Memo) (key : List Nat) (number : Nat) : Memo :=
  { memo with kept := memo.kept.insert (memo.place key) (key, number) }

end Memo

abbrev Drawing := StateT (Machine × Memo) Option

def stateFor (key : List Nat) (add : Machine → Option Machine) : Drawing Nat := do
  let (m, memo) ← get
  match memo.get? key with
  | some number => return number
  | none =>
    set (← add m, memo.put key m.states)
    return m.states

/-- The state that takes the octets of `sequences` from the front and leads to state `target`.
Sequences with the same first range share the state behind it, and so do equal states. -/
def sharedState (target : Nat) : Nat → List (List OctetRange) → Drawing Nat
  | 0, _ => return target
  | depth + 1, sequences =>
    if sequences.all List.isEmpty then return target
    else do
      let ranges ← (sequences.splitBy fun a b => a.head? == b.head?).mapM fun group => do
        let (first, last) := (group.head?.bind List.head?).getD (0, 0)
        let next ← sharedState target depth (group.map List.tail)
        return [first.toNat, last.toNat, next]
      stateFor ranges.flatten (Machine.byRanges ranges.length)

def chainedState (target : Nat) (sequence : List OctetRange) : Drawing Nat :=
  sequence.foldlM (fun next (first, last) =>
    stateFor [next, first.toNat, last.toNat] (Machine.state 0)) target

/-- Adds the states of a set. Backwards each sequence of octets has a chain of its own and a way
from a fork to it; chains are shared from the first octet on. -/
def addSet (backwards : Bool) (s : CharSet) (m : Machine) : Option Machine := do
  let sequences := s.ranges.flatMap fun (first, last) => Text.Utf8.sequences first last
  if sequences.all (·.length = 1) then
    (← m.state 0).byRanges sequences.length
  else if backwards then
    let target := m.states + 1
    let chains : Drawing Unit := sequences.forM fun sequence => do
      let _ ← chainedState target sequence
      let (m, memo) ← get
      set (← m.ways 1, memo)
    let (_, m, _) ← chains.run (← (← m.state 0).state 0, ⟨1000, {}⟩)
    return m
  else
    let (_, m, _) ← (sharedState m.states 4 sequences).run (← m.state 0, ⟨10000, {}⟩)
    return m

def trieSize : Nat → List (List UInt8) → Machine
  | 0, _ => {}
  | depth + 1, literals =>
    -- Where a literal ends, those behind it begin a new part of the node.
    let (closed, last) := literals.foldl (fun (closed, part) literal =>
      if !literal.isEmpty then (closed, part ++ [literal])
      else if part.isEmpty && !closed.isEmpty && closed.all List.isEmpty then (closed, part)
      else (closed ++ [part], [])) ([], [])
    let parts := (closed ++ [last]).map fun part =>
      (part.map (·.headD 0)).eraseDups.map fun b =>
        (part.filter (·.head? = some b)).map List.tail
    let below := (parts.flatten.filter fun rest => !rest.all List.isEmpty).map (trieSize depth)
    let own := parts.filter fun part => !part.isEmpty
    let ranges := (own.map fun part => if part.length = 1 then 0 else part.length).sum
    ⟨own.length + 1 + (below.map (·.states)).sum,
      32 * (own.length + 1) + 8 * ranges + 4 * (own.length + closed.length) +
        (below.map (·.octets)).sum⟩

def literal? (p : Pattern) : Option (List Char) :=
  match p.items with
  | [] => none
  | items => items.mapM fun item => item.set?.bind CharSet.single?

def addLiterals (backwards : Bool) (literals : List (List Char)) (m : Machine) : Option Machine :=
  let octets := literals.map fun cs =>
    if backwards then (Text.Utf8.encode cs).reverse else Text.Utf8.encode cs
  let size := trieSize ((octets.map List.length).foldl max 0 + 1) octets
  Machine.within ⟨m.states + 1 + size.states, m.octets + 32 + size.octets⟩

def leastOctets? : Pattern → Option Nat
  | empty | edge _ => some 0
  | one s => s.ranges.head?.map fun (first, _) => (Char.ofNat first).utf8Size
  | group _ p => leastOctets? p
  | seq p q => do return (← leastOctets? p) + (← leastOctets? q)
  | alt p q => do return min (← leastOctets? p) (← leastOctets? q)
  | repeated p least _ _ => (leastOctets? p).map (least * ·)

def takesSome (p : Pattern) : Bool := (leastOctets? p).any (0 < ·)

def endsInFork (backwards : Bool) : Pattern → Bool
  | empty | one _ | edge _ | alt _ _ => false
  | group _ p => backwards && endsInFork backwards p
  | seq p q => if backwards then endsInFork backwards p else endsInFork backwards q
  | repeated p least most _ =>
    match most with
    | none => 0 < least || takesSome p
    | some most => least = most && endsInFork backwards p

def wayOn (backwards : Bool) (p : Pattern) (m : Machine) : Option Machine :=
  if endsInFork backwards p then m.ways 1 else some m

def isChoice : Pattern → Bool
  | alt _ _ => true
  | _ => false

/-- Adds the states of a pattern. The front part of a choice, as which `front` marks it, is no
choice of its own: its ways start from the same fork and lead to the same end. -/
def addStates (backwards : Bool) : Bool → Pattern → Machine → Option Machine
  | _, empty, m => m.state 0
  | _, edge _, m => m.state 0
  | _, one s, m =>
    match s.single? with
    | some c => m.repeatedly (Machine.state 0) c.utf8Size
    | none => addSet backwards s m
  | _, group _ p, m =>
    if backwards then addStates backwards false p m
    else do
      let m ← addStates backwards false p (← m.state 0)
      (← wayOn backwards p m).state 0
  | _, seq p q, m =>
    if backwards then do
      let m ← addStates backwards false q m
      addStates backwards false p (← wayOn backwards q m)
    else do
      let m ← addStates backwards false p m
      addStates backwards false q (← wayOn backwards p m)
  | front, alt p q, m =>
    match if front then none else (alt p q).branches.mapM literal? with
    | some literals => addLiterals backwards literals m
    | none => do
      let m ← addStates backwards true p m
      let m ← if isChoice p then some m else wayOn backwards p m
      let m ← addStates backwards false q m
      let m ← wayOn backwards q m
      if isChoice p then m.ways 1 else (← m.state 8).state 0
  | _, repeated p least most _, m =>
    let add (m : Machine) : Option Machine := addStates backwards false p m
    let addOn (m : Machine) : Option Machine := do wayOn backwards p (← add m)
    match most with
    | none =>
      if 0 < least then do
        let m ← m.repeatedly addOn least
        (← m.state 0).ways 1
      else if takesSome p then do
        let m ← addOn (← m.state 0)
        m.ways 1
      else do
        let m ← add m
        let m ← wayOn backwards p (← m.state 8)
        (← m.state 8).state 0
    | some most =>
      if least = 0 ∧ most = 1 then do
        let m ← addOn (← m.state 8)
        m.state 0
      else if least = most then do
        add (← m.repeatedly addOn (least - 1))
      else do
        let m ← if least = 0 then m.state 0 else m.repeatedly addOn least
        let m ← m.state 0
        m.repeatedly (fun m => do addOn (← m.state 8)) (most - least)

def startsAt (e : Edge) : Pattern → Bool
  | edge e' => e = e'
  | empty | one _ => false
  | group _ p => startsAt e p
  | seq p q => startsAt e p || (p.takesNone && startsAt e q)
  | alt p q => startsAt e p && startsAt e q
  | repeated p least _ _ => 0 < least && startsAt e p

def endsAt (e : Edge) : Pattern → Bool
  | edge e' => e = e'
  | empty | one _ => false
  | group _ p => endsAt e p
  | seq p q => endsAt e q || (q.takesNone && endsAt e p)
  | alt p q => endsAt e p && endsAt e q
  | repeated p least _ _ => 0 < least && endsAt e p

/-- The machine that finds matches from the front: in front of the pattern it passes over octets
unless a match begins where the text does, and it keeps the place of the match. -/
def forwardMachine? (p : Pattern) : Option Machine := do
  let m ←
    if startsAt .textStart p then Machine.state 0 {}
    else (← (← Machine.state 8 {}).state 0).byRanges 1
  let m ← addStates false false p (← m.state 0)
  let m ← wayOn false p m
  (← m.state 0).state 0

def backwardMachine? (p : Pattern) : Option Machine := do
  let m ←
    if endsAt .textEnd p then Machine.state 0 {}
    else (← (← Machine.state 8 {}).state 0).byRanges 1
  let m ← addStates true false p m
  (← wayOn true p m).state 0

def fits (p : Pattern) : Bool := (forwardMachine? p).isSome && (backwardMachine? p).isSome

end FormIntake.Pattern
