import FormIntake.Pattern.Basic

/-!
The search of patterns in texts. A row holds a mark for each place between characters, and a pattern
turns the row of places where it may begin into the row of those where it may end.
-/

namespace FormIntake.Pattern

def isWord (ascii : Bool) (c : Option Char) : Bool :=
  c.any (if ascii then asciiWord else word).contains

def Edge.holds (before after : Option Char) : Edge → Bool
  | textStart => before.isNone
  | textEnd => after.isNone
  | lineStart => before.isNone || before = some '\n'
  | lineEnd => after.isNone || after = some '\n'
  | anyLineStart =>
    before.isNone || before = some '\n' || (before = some '\r' && after ≠ some '\n')
  | anyLineEnd =>
    after.isNone || after = some '\r' || (after = some '\n' && before ≠ some '\r')
  | wordBoundary ascii => isWord ascii before != isWord ascii after
  | noWordBoundary ascii => isWord ascii before == isWord ascii after
  | wordStart ascii => !isWord ascii before && isWord ascii after
  | wordEnd ascii => isWord ascii before && !isWord ascii after
  | wordStartHalf ascii => !isWord ascii before
  | wordEndHalf ascii => !isWord ascii after

abbrev Row := List Bool

def Row.join (a b : Row) : Row := List.zipWith (· || ·) a b

def Row.without (a b : Row) : Row := List.zipWith (fun x y => x && !y) a b

def Row.isBlank (a : Row) : Bool := !a.any id

def surroundings (text : List Char) : List (Option Char × Option Char) :=
  List.zip (none :: text.map some) (text.map some ++ [none])

def iterate (step : Row → Row) : Nat → Row → Row
  | 0, row => row
  | count + 1, row => if row.isBlank then row else iterate step count (step row)

/-- All marks of `row` and those that at most `count` steps reach; `fresh` are the marks that the
last step has added. -/
def reach (step : Row → Row) : Nat → Row → Row → Row
  | 0, row, _ => row
  | count + 1, row, fresh =>
    if fresh.isBlank then row
    else
      let next := (step fresh).without row
      reach step count (row.join next) next

/-- The places where a pattern may end that begins at a marked place. -/
def ends (text : List Char) : Pattern → Row → Row
  | empty, row => row
  | one s, row => false :: List.zipWith (fun here c => here && s.contains c) row text
  | edge e, row =>
    List.zipWith (fun here (before, after) => here && e.holds before after) row
      (surroundings text)
  | group _ p, row => p.ends text row
  | seq p q, row => q.ends text (p.ends text row)
  | alt p q, row => (p.ends text row).join (q.ends text row)
  | repeated p least most _, row =>
    let first := iterate (p.ends text) least row
    -- A step without an upper bound adds a place or is the last one.
    let more := (most.map (· - least)).getD (text.length + 1)
    reach (p.ends text) more first first

def occursIn (p : Pattern) (text : List Char) : Bool :=
  (p.ends text (List.replicate (text.length + 1) true)).any id

end FormIntake.Pattern
