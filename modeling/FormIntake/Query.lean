import FormIntake.Entries
import FormIntake.Text.Pieces
import FormIntake.Text.Utf8

namespace FormIntake

namespace Urlencoded

def hexDigit? (b : UInt8) : Option Nat :=
  let n := b.toNat
  if 0x30 ≤ n ∧ n ≤ 0x39 then some (n - 0x30)
  else if 0x41 ≤ n ∧ n ≤ 0x46 then some (n - 0x37)
  else if 0x61 ≤ n ∧ n ≤ 0x66 then some (n - 0x57)
  else none

/-- Replaces every percent sign that two hexadecimal digits follow, together with them, by the octet
they write. -/
def unescape : List UInt8 → List UInt8
  | 0x25 :: high :: low :: rest =>
    match hexDigit? high, hexDigit? low with
    | some h, some l => UInt8.ofNat (16 * h + l) :: unescape rest
    | _, _ => 0x25 :: unescape (high :: low :: rest)
  | b :: rest => b :: unescape rest
  | [] => []

def decode (cs : List Char) : List Char :=
  Text.Utf8.decodeLossy (unescape (Text.Utf8.encode (cs.map fun c => if c = '+' then ' ' else c)))

def decodePair (cs : List Char) : String × String :=
  let (key, value) := Text.cut '=' cs
  (String.ofList (decode key), String.ofList (decode value))

/-- The pairs of an urlencoded text, between ampersands; a question mark in front is passed over. -/
def pairs (cs : List Char) : List (String × String) :=
  let body :=
    match cs with
    | '?' :: rest => rest
    | _ => cs
  ((Text.pieces '&' body).filter (!·.isEmpty)).map decodePair

end Urlencoded

/-- The values that came for one key: at least one. -/
structure Submitted where
  first : String
  more : List String
  deriving DecidableEq, Repr

namespace Submitted

def toList (s : Submitted) : List String := s.first :: s.more

def push (s : Submitted) (value : String) : Submitted := ⟨s.first, s.more ++ [value]⟩

end Submitted

structure Query where
  entries : Entries Submitted
  ordered : entries.Ordered

namespace Query

instance : DecidableEq Query := fun a b =>
  if same : a.entries = b.entries then
    isTrue (by cases a; cases b; cases same; rfl)
  else isFalse fun equal => same (congrArg entries equal)

def empty : Query := ⟨[], List.Pairwise.nil⟩

def get? (q : Query) (key : String) : Option String := (q.entries.get? key).map (·.first)

def getList? (q : Query) (key : String) : Option (List String) :=
  (q.entries.get? key).map (·.toList)

def contains (q : Query) (key : String) : Bool := q.entries.contains key

def size (q : Query) : Nat := q.entries.length

def isEmpty (q : Query) : Bool := q.entries.isEmpty

def keys (q : Query) : List String := q.entries.keys

def set (q : Query) (key value : String) : Query :=
  ⟨q.entries.insert key ⟨value, []⟩, Entries.ordered_insert q.ordered _ _⟩

def append (q : Query) (key value : String) : Query :=
  let values :=
    match q.entries.get? key with
    | some old => old.push value
    | none => ⟨value, []⟩
  ⟨q.entries.insert key values, Entries.ordered_insert q.ordered _ _⟩

def ofList (pairs : List (String × String)) : Query :=
  pairs.foldl (fun q (key, value) => q.append key value) empty

def parse (s : String) : Query := ofList (Urlencoded.pairs s.toList)

def toList (q : Query) : List (String × List String) := q.entries.mapValues (·.toList)

def merge (q other : Query) : Query :=
  other.toList.foldl
    (fun q (key, values) => values.foldl (fun q value => q.append key value) q) q

end Query

end FormIntake
