import FormIntake.Pattern.FoldTable
import FormIntake.Text.Property

namespace FormIntake.Pattern

open Text (CharSet Category Property)

def foldPairs : List (Nat × Nat) :=
  foldRuns.flatMap fun r =>
    (List.range ((r.last - r.first) / r.stride + 1)).map fun k =>
      let n := r.first + r.stride * k
      (n, ((n : Int) + r.delta).toNat)

def holds (s : CharSet) (n : Nat) : Bool := s.ranges.any fun (first, last) => first ≤ n && n ≤ last

/-- The characters that differ from one of `s` in letter case at most, where `pairs` are the
characters that fold to another one. -/
def foldedBy (pairs : List (Nat × Nat)) (s : CharSet) : CharSet :=
  let met := pairs.filter fun (source, target) => holds s source || holds s target
  let targets := CharSet.ofRanges (met.map fun (_, target) => (target, target))
  let sources := pairs.filter fun (_, target) => holds targets target
  s ∪ targets ∪ .ofRanges (sources.map fun (source, _) => (source, source))

def folded (s : CharSet) : CharSet := foldedBy foldPairs s

def asciiFoldPairs : List (Nat × Nat) := (List.range 26).map fun k => (0x41 + k, 0x61 + k)

def foldedAscii (s : CharSet) : CharSet := foldedBy asciiFoldPairs s

def digit : CharSet := .ofCategories [.decimalNumber]

def blank : CharSet := Property.whiteSpace.set

def word : CharSet :=
  Property.alphabeticSet ∪
    .ofCategories (.decimalNumber :: .connectorPunctuation :: Category.marks) ∪
    Property.joinControl.set

def asciiDigit : CharSet := .range 0x30 0x39

def asciiBlank : CharSet := .ofRanges [(0x09, 0x0D), (0x20, 0x20)]

def asciiWord : CharSet :=
  .ofRanges [(0x30, 0x39), (0x41, 0x5A), (0x5F, 0x5F), (0x61, 0x7A)]

end FormIntake.Pattern
