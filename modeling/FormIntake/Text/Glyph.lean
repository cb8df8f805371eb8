import FormIntake.Text.Glyph.Table
import FormIntake.Text.Ranges

/-!
Glyphs: the characters a reader sees, which are extended grapheme clusters. A text has as many of
them as there are characters in front of which a cluster begins.
-/

namespace FormIntake.Text.Glyph

inductive Break
  | carriageReturn | lineFeed | control | extend | joiner | regionalIndicator | prepend
  | spacingMark | leadingJamo | vowelJamo | trailingJamo | syllable | closedSyllable
  | pictograph | consonant | other
  deriving DecidableEq, Repr

def Break.ofChar (c : Char) : Break :=
  let n := c.toNat
  if n = 0x0D then .carriageReturn
  else if n = 0x0A then .lineFeed
  else if 0x20 ≤ n && n < 0x7F then .other
  else if inRanges controlRanges c then .control
  else if n = 0x200D then .joiner
  else if 0x1F1E6 ≤ n && n ≤ 0x1F1FF then .regionalIndicator
  else if 0xAC00 ≤ n && n ≤ 0xD7A3 then
    if (n - 0xAC00) % 28 = 0 then .syllable else .closedSyllable
  else if inRanges extendRanges c then .extend
  else if inRanges prependRanges c then .prepend
  else if inRanges spacingMarkRanges c then .spacingMark
  else if inRanges leadingJamoRanges c then .leadingJamo
  else if inRanges vowelJamoRanges c then .vowelJamo
  else if inRanges trailingJamoRanges c then .trailingJamo
  else if inRanges pictographRanges c then .pictograph
  else if inRanges consonantRanges c then .consonant
  else .other

inductive Pictograph
  | absent | open | joined
  deriving DecidableEq, Repr

inductive Conjunct
  | absent | open | linked
  deriving DecidableEq, Repr

structure Context where
  last : Break
  pictograph : Pictograph
  conjunct : Conjunct
  /-- Whether an odd number of regional indicators stands in front. -/
  unpairedIndicator : Bool

/-- The context of the first character, where nothing joins and a cluster always begins. -/
def Context.start : Context := ⟨.control, .absent, .absent, false⟩

def Context.breaksBefore (x : Context) (b : Break) : Bool :=
  match x.last, b with
  | .carriageReturn, .lineFeed => false
  | .carriageReturn, _ | .lineFeed, _ | .control, _ => true
  | _, .carriageReturn | _, .lineFeed | _, .control => true
  | .leadingJamo, .leadingJamo | .leadingJamo, .vowelJamo => false
  | .leadingJamo, .syllable | .leadingJamo, .closedSyllable => false
  | .syllable, .vowelJamo | .vowelJamo, .vowelJamo => false
  | .syllable, .trailingJamo | .vowelJamo, .trailingJamo => false
  | .closedSyllable, .trailingJamo | .trailingJamo, .trailingJamo => false
  | _, .extend | _, .joiner | _, .spacingMark => false
  | .prepend, _ => false
  | _, .consonant => x.conjunct ≠ .linked
  | _, .pictograph => x.pictograph ≠ .joined
  | _, .regionalIndicator => !x.unpairedIndicator
  | _, _ => true

def Pictograph.step (p : Pictograph) (b : Break) : Pictograph :=
  match p, b with
  | _, .pictograph => .open
  | .open, .extend => .open
  | .open, .joiner => .joined
  | _, _ => .absent

def Conjunct.step (j : Conjunct) (c : Char) (b : Break) : Conjunct :=
  let isLinker := inRanges linkerRanges c
  let isExtender := (b = .extend || b = .joiner) && c.toNat ≠ 0x200C
  if b = .consonant then .open
  else if j = .absent then .absent
  else if isLinker then .linked
  else if isExtender then j
  else .absent

def Context.step (x : Context) (c : Char) (b : Break) : Context where
  last := b
  pictograph := x.pictograph.step b
  conjunct := x.conjunct.step c b
  unpairedIndicator := b = .regionalIndicator && !x.unpairedIndicator

def countFrom (x : Context) : List Char → Nat
  | [] => 0
  | c :: rest =>
    let b := Break.ofChar c
    (if x.breaksBefore b then 1 else 0) + countFrom (x.step c b) rest

end Glyph

def glyphLength (s : String) : Nat := Glyph.countFrom .start s.toList

end FormIntake.Text
