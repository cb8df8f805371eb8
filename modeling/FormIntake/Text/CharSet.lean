import FormIntake.Text.Ranges

/-!
Sets of characters, as ranges of code points in increasing order. Both ends of a range are code
points of characters, so the surrogates in the middle of a range mean nothing.
-/

namespace FormIntake.Text

def codePointAfter (n : Nat) : Nat := if n = 0xD7FF then 0xE000 else n + 1

def codePointBefore (n : Nat) : Nat := if n = 0xE000 then 0xD7FF else n - 1

def greatestCodePoint : Nat := 0x10FFFF

structure CharSet where
  ranges : List (Nat × Nat)
  deriving DecidableEq, Repr

namespace CharSet

def contains (s : CharSet) (c : Char) : Bool := inRanges s.ranges c

/-- The range from `first` to `last` and those of a list in order, joined where they overlap or
touch. -/
def joinFrom (first last : Nat) : List (Nat × Nat) → List (Nat × Nat)
  | [] => [(first, last)]
  | (first', last') :: rest =>
    if first' ≤ last + 1 then joinFrom first (max last last') rest
    else (first, last) :: joinFrom first' last' rest

def ofRanges (ranges : List (Nat × Nat)) : CharSet :=
  match ranges.mergeSort fun a b => a.1 ≤ b.1 with
  | [] => ⟨[]⟩
  | (first, last) :: rest => ⟨joinFrom first last rest⟩

def empty : CharSet := ⟨[]⟩

def any : CharSet := ⟨[(0, greatestCodePoint)]⟩

def range (first last : Nat) : CharSet := ⟨[(first, last)]⟩

def char (c : Char) : CharSet := range c.toNat c.toNat

instance : Union CharSet := ⟨fun s t => ofRanges (s.ranges ++ t.ranges)⟩

def overlaps : List (Nat × Nat) → List (Nat × Nat) → List (Nat × Nat)
  | [], _ => []
  | _, [] => []
  | (first, last) :: rest, (first', last') :: rest' =>
    let common := (max first first', min last last')
    let behind :=
      if last < last' then overlaps rest ((first', last') :: rest')
      else overlaps ((first, last) :: rest) rest'
    if common.1 ≤ common.2 then common :: behind else behind
  termination_by a b => a.length + b.length

instance : Inter CharSet := ⟨fun s t => ⟨overlaps s.ranges t.ranges⟩⟩

def gapsBehind (last : Nat) : List (Nat × Nat) → List (Nat × Nat)
  | [] => if last < greatestCodePoint then [(codePointAfter last, greatestCodePoint)] else []
  | (first', last') :: rest =>
    (codePointAfter last, codePointBefore first') :: gapsBehind last' rest

/-- The gaps in front of, between and behind the ranges of `s`. Where one range ends and the next
begins on both sides of the surrogates, the gap has its ends the wrong way round. -/
def gaps (s : CharSet) : List (Nat × Nat) :=
  match s.ranges with
  | [] => [(0, greatestCodePoint)]
  | (first, last) :: rest =>
    let behind := gapsBehind last rest
    if 0 < first then (0, codePointBefore first) :: behind else behind

/-- The characters in the gaps. A gap with its ends the wrong way round counts as those two. -/
def compl (s : CharSet) : CharSet := ⟨s.gaps.map fun (a, b) => (min a b, max a b)⟩

instance : SDiff CharSet := ⟨fun s t => s ∩ ⟨t.gaps.filter fun (a, b) => a ≤ b⟩⟩

def symmDiff (s t : CharSet) : CharSet := (s ∪ t) \ (s ∩ t)

def single? (s : CharSet) : Option Char :=
  match s.ranges with
  | [(first, last)] => if first = last then some (Char.ofNat first) else none
  | _ => none

end CharSet

end FormIntake.Text
