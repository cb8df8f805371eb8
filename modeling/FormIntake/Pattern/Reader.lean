import FormIntake.Pattern.Machine
import FormIntake.Pattern.Matcher
import FormIntake.Pattern.Property
import FormIntake.Text.Blank
import FormIntake.Text.Scan

namespace FormIntake.Pattern

open Text (CharSet)

structure Flags where
  ignoreCase : Bool := false
  multiLine : Bool := false
  dotMatchesNewline : Bool := false
  swapGreed : Bool := false
  anyLineEnd : Bool := false
  ignoreSpace : Bool := false
  unicode : Bool := true

structure Cursor where
  rest : List Char
  flags : Flags := {}
  names : List (List Char) := []
  groups : Nat := 0

abbrev Parser (α : Type) := StateT Cursor Option α

structure Parsed where
  pattern : Pattern
  depth : Nat

def depthLimit : Nat := 250

namespace PatternReader

variable {α : Type}

def fail : Parser α := fun _ => none

def flags : Parser Flags := return (← get).flags

def peek? : Parser (Option Char) := return (← get).rest.head?

def current : Parser Char := do
  match ← peek? with
  | some c => return c
  | none => fail

def bump : Parser Unit := modify fun s => { s with rest := s.rest.drop 1 }

def next : Parser Char := do
  let c ← current
  bump
  return c

def skip? (word : List Char) : Parser Bool := do
  let s ← get
  if word.isPrefixOf s.rest then
    set { s with rest := s.rest.drop word.length }
    return true
  else return false

def expect (c : Char) : Parser Unit := do
  if (← current) = c then bump else fail

def dropSpace : Nat → List Char → List Char
  | 0, cs => cs
  | fuel + 1, cs =>
    match cs.dropWhile Text.isBlank with
    | '#' :: rest => dropSpace fuel ((rest.dropWhile (· ≠ '\n')).drop 1)
    | rest => rest

def skipSpace : Parser Unit :=
  modify fun s =>
    if s.flags.ignoreSpace then { s with rest := dropSpace s.rest.length s.rest } else s

def bumpAndSkip : Parser Unit := do bump; skipSpace

def takeWhile (p : Char → Bool) : Parser (List Char) := do
  let s ← get
  set { s with rest := s.rest.dropWhile p }
  return s.rest.takeWhile p

def lift (o : Option α) : Parser α := StateT.lift o

/-- The number of characters to come, and one: enough turns for a loop that takes at least one
character each time. -/
def turns : Parser Nat := return (← get).rest.length + 1

def takeSpaced (p : Char → Bool) : Nat → Parser (List Char)
  | 0 => return []
  | fuel + 1 => do
    match ← peek? with
    | some c =>
      if p c then
        bumpAndSkip
        return c :: (← takeSpaced p fuel)
      else return []
    | none => return []

end PatternReader

open PatternReader

def isMeta (c : Char) : Bool :=
  "\\.+*?()|[]\x7b\x7d^$#&-~".toList.contains c

def isEscapable (c : Char) : Bool :=
  isMeta c || (c.toNat < 0x80 && !c.isAlphanum && c ≠ '<' && c ≠ '>')

inductive Primitive
  /-- A character; `octet` says that it was written as an octet of two digits. -/
  | literal (c : Char) (octet : Bool)
  | set (s : CharSet)
  | dot
  | edge (e : Edge)

def hexChar (digits : List Char) : Parser Char :=
  lift ((Text.numeral? 16 digits).bind Text.scalar?)

def parseHex (count : Nat) : Parser Primitive := do
  bumpAndSkip
  let isHex := fun c => (Text.hexValue? c).isSome
  if (← current) = '\x7b' then
    bumpAndSkip
    let digits ← takeSpaced isHex (← turns)
    expect '\x7d'
    skipSpace
    if digits.isEmpty then fail
    return .literal (← hexChar digits) false
  else
    let digits ← (List.range count).mapM fun k => do
      if k ≠ 0 then skipSpace
      let c ← next
      if isHex c then return c else fail
    skipSpace
    return .literal (← hexChar digits) (count = 2)

def foldSet (f : Flags) (s : CharSet) : CharSet :=
  if f.ignoreCase then (if f.unicode then folded s else foldedAscii s) else s

def negateSet (f : Flags) (negated : Bool) (s : CharSet) : Parser CharSet :=
  if negated then if f.unicode then return s.compl else fail
  else return s

def indexOf? (word : List Char) (cs : List Char) : Option Nat :=
  (List.range (cs.length + 1)).find? fun k => word.isPrefixOf (cs.drop k)

def inBraces? (name : List Char) : Option (CharSet × Bool) :=
  match indexOf? ['!', '='] name with
  | some k => (valued? (name.take k) (name.drop (k + 2))).map fun s => (s, true)
  | none =>
    let set? :=
      match (indexOf? [':'] name).or (indexOf? ['='] name) with
      | some k => valued? (name.take k) (name.drop (k + 1))
      | none => named? name
    set?.map fun s => (s, false)

/-- A set by its name. Letter case is disregarded before the complement is taken. -/
def parseProperty (negated : Bool) : Parser Primitive := do
  bumpAndSkip
  let name ←
    if (← current) = '\x7b' then
      bumpAndSkip
      let name ← takeSpaced (· ≠ '\x7d') (← turns)
      expect '\x7d'
      pure name
    else
      let c ← current
      if c = '\\' then fail
      bumpAndSkip
      pure [c]
  let f ← flags
  if !f.unicode then fail
  let (s, complement) ← lift (inBraces? name)
  return .set (← negateSet f (negated != complement) (foldSet f s))

def namedEdge? (ascii : Bool) (name : List Char) : Option Edge :=
  match String.ofList name with
  | "start" => some (.wordStart ascii)
  | "end" => some (.wordEnd ascii)
  | "start-half" => some (.wordStartHalf ascii)
  | "end-half" => some (.wordEndHalf ascii)
  | _ => none

def parseBoundary : Parser Primitive := do
  let ascii := !(← flags).unicode
  if (← peek?) ≠ some '\x7b' then return .edge (.wordBoundary ascii)
  let before ← get
  bumpAndSkip
  let isNameChar := fun (c : Char) => c.isAlpha || c = '-'
  if !isNameChar (← current) then
    set before
    return .edge (.wordBoundary ascii)
  else
    let name ← takeSpaced isNameChar (← turns)
    expect '\x7d'
    return .edge (← lift (namedEdge? ascii name))

def shorthandSet (unicode : Bool) : Char → CharSet
  | 'd' => if unicode then digit else asciiDigit
  | 's' => if unicode then blank else asciiBlank
  | _ => if unicode then word else asciiWord

def parseEscape : Parser Primitive := do
  expect '\\'
  let c ← current
  let f ← flags
  let ascii := !f.unicode
  match c with
  | 'x' => parseHex 2
  | 'u' => parseHex 4
  | 'U' => parseHex 8
  | 'p' => parseProperty false
  | 'P' => parseProperty true
  | 'd' | 's' | 'w' => bump; return .set (shorthandSet f.unicode c)
  | 'D' | 'S' | 'W' => bump; return .set (← negateSet f true (shorthandSet f.unicode c.toLower))
  | _ =>
    bump
    if isEscapable c then return .literal c false
    match c with
    | 'a' => return .literal '\x07' false
    | 'f' => return .literal '\x0c' false
    | 't' => return .literal '\t' false
    | 'n' => return .literal '\n' false
    | 'r' => return .literal '\r' false
    | 'v' => return .literal '\x0b' false
    | 'A' => return .edge .textStart
    | 'z' => return .edge .textEnd
    | 'b' => parseBoundary
    | 'B' => return .edge (.noWordBoundary ascii)
    | '<' => return .edge (.wordStart ascii)
    | '>' => return .edge (.wordEnd ascii)
    | _ => fail

def checkLiteral (f : Flags) (c : Char) (octet : Bool) : Parser Unit :=
  if !f.unicode && octet && 0x7F < c.toNat then fail else return

def classLiteral (c : Char) : Parser Char := do
  if !(← flags).unicode && 0x7F < c.toNat then fail else return c

def setItem : Parser Primitive := do
  if (← current) = '\\' then parseEscape else return .literal (← next) false

/-- The character behind the next one. Where space means nothing it is passed over, and the sign of
a comment too, but not the comment. -/
def peekBehind? : Parser (Option Char) := do
  let s ← get
  let behind := s.rest.drop 1
  if !s.flags.ignoreSpace then return behind.head?
  let seen :=
    match behind.dropWhile Text.isBlank with
    | '#' :: rest => rest.dropWhile Text.isBlank
    | rest => rest
  return seen.head?.or behind.head?

def setRange : Parser CharSet := do
  let first ← setItem
  skipSpace
  let c ← current
  let behind ← peekBehind?
  if c ≠ '-' || behind = some ']' || behind = some '-' then
    match first with
    | .literal c _ => return .char (← classLiteral c)
    | .set s => return s
    | _ => fail
  else
    bumpAndSkip
    match first, ← setItem with
    | .literal a _, .literal b _ =>
      let a ← classLiteral a
      let b ← classLiteral b
      if a ≤ b then return .range a.toNat b.toNat else fail
    | _, _ => fail

def asciiClass : Parser (Option CharSet) := do
  let before ← get
  let found ←
    if ← skip? ['[', ':'] then
      let negated ← skip? ['^']
      let name ← takeWhile (· ≠ ':')
      if ← skip? [':', ']'] then pure ((asciiClass? name).map fun c => (negated, c))
      else pure none
    else pure none
  match found with
  | some (negated, c) =>
    let f ← flags
    return some (← negateSet f negated (foldSet f c))
  | none =>
    set before
    return none

inductive SetOperator
  | inter | diff | symmDiff

def SetOperator.apply : SetOperator → CharSet → CharSet → CharSet
  | inter, s, t => s ∩ t
  | diff, s, t => s \ t
  | symmDiff, s, t => s.symmDiff t

structure SetPart where
  set : CharSet := .empty
  count : Nat := 0
  depth : Nat := 0

def SetPart.add (p : SetPart) (s : CharSet) (depth : Nat) : SetPart :=
  ⟨p.set ∪ s, p.count + 1, max p.depth depth⟩

/-- The depth of a part, where more than one item makes a level of its own. -/
def SetPart.level (p : SetPart) : Nat := if 2 ≤ p.count then p.depth + 1 else p.depth

structure SetLeft where
  part : SetPart
  operator : SetOperator

def SetPart.close (f : Flags) (left : Option SetLeft) (p : SetPart) : SetPart :=
  match left with
  | none => ⟨p.set, 1, p.level⟩
  | some l =>
    ⟨l.operator.apply (foldSet f l.part.set) (foldSet f p.set), 1, max l.part.level p.level + 1⟩

def setItems (nested : Parser SetPart) :
    Nat → Option SetLeft → SetPart → Parser SetPart
  | 0, _, _ => fail
  | fuel + 1, left, part => do
    skipSpace
    let f ← flags
    let operator (o : SetOperator) : Parser SetPart :=
      setItems nested fuel (some ⟨part.close f left, o⟩) {}
    match ← current with
    | '[' =>
      match ← asciiClass with
      | some c => setItems nested fuel left (part.add c 0)
      | none =>
        let inner ← nested
        setItems nested fuel left (part.add inner.set inner.depth)
    | ']' =>
      bump
      return part.close f left
    | _ =>
      if ← skip? ['&', '&'] then operator .inter
      else if ← skip? ['-', '-'] then operator .diff
      else if ← skip? ['~', '~'] then operator .symmDiff
      else setItems nested fuel left (part.add (← setRange) 0)

def leadingHyphens : Nat → SetPart → Parser SetPart
  | 0, part => return part
  | fuel + 1, part => do
    if (← current) = '-' then
      bumpAndSkip
      leadingHyphens fuel (part.add (.char '-') 0)
    else return part

def bracketed : Nat → Parser SetPart
  | 0 => fail
  | depth + 1 => do
    expect '['
    skipSpace
    let negated ← if (← current) = '^' then bumpAndSkip; pure true else pure false
    let start ← leadingHyphens (← turns) {}
    let start ←
      if start.count = 0 && (← current) = ']' then
        bumpAndSkip
        pure (start.add (.char ']') 0)
      else pure start
    let part ← setItems (bracketed depth) (← turns) none start
    let f ← flags
    return ⟨← negateSet f negated (foldSet f part.set), 1, part.level + 1⟩

def dotSet (f : Flags) : CharSet :=
  if f.dotMatchesNewline then .any
  else if f.anyLineEnd then (CharSet.ofRanges [(0x0A, 0x0A), (0x0D, 0x0D)]).compl
  else (CharSet.char '\n').compl

def lineStartEdge (f : Flags) : Edge :=
  if f.multiLine then (if f.anyLineEnd then .anyLineStart else .lineStart) else .textStart

def lineEndEdge (f : Flags) : Edge :=
  if f.multiLine then (if f.anyLineEnd then .anyLineEnd else .lineEnd) else .textEnd

def ofPrimitive : Primitive → Parser Pattern
  | .literal c octet => do
    let f ← flags
    checkLiteral f c octet
    return .one (foldSet f (.char c))
  | .set s => return .one s
  | .dot => do
    let f ← flags
    if f.unicode then return .one (dotSet f) else fail
  | .edge e => return .edge e

def parsePrimitive : Parser Primitive := do
  let f ← flags
  match ← current with
  | '\\' => parseEscape
  | '.' => bump; return .dot
  | '^' => bump; return .edge (lineStartEdge f)
  | '$' => bump; return .edge (lineEndEdge f)
  | c => bump; return .literal c false

inductive Piece
  | pattern (p : Parsed)
  | flags

def popPiece (pieces : List Piece) : Parser (Parsed × List Piece) :=
  match pieces with
  | .pattern p :: rest => return (p, rest)
  | _ => fail

def repeatPiece (p : Parsed) (least : Nat) (most : Option Nat) : Parser Piece := do
  let turned ← skip? ['?']
  let swapped := (← flags).swapGreed
  return .pattern ⟨p.pattern.times least most (turned == swapped), p.depth + 1⟩

def parseCount : Parser Nat := do
  let _ ← takeWhile Text.isBlank
  let digits ← takeSpaced Char.isDigit (← turns)
  let _ ← takeSpaced Text.isBlank (← turns)
  if digits.isEmpty then fail
  let n ← lift (Text.numeral? 10 digits)
  if n < 2 ^ 32 then return n else fail

def parseBounds : Parser (Nat × Option Nat) := do
  bumpAndSkip
  let least ← parseCount
  let most ←
    if (← current) = ',' then
      bumpAndSkip
      if (← current) = '\x7d' then pure none else some <$> parseCount
    else pure (some least)
  expect '\x7d'
  if most.any (· < least) then fail
  return (least, most)

def isNameStart (c : Char) : Bool := c = '_' || Text.isAlphabetic c

def isNamePart (c : Char) : Bool :=
  isNameStart c || c = '.' || c = '[' || c = ']' || Text.isNumeric c

def groupName : Parser Unit := do
  let name ← takeWhile (· ≠ '>')
  expect '>'
  let s ← get
  if (name.head?.any isNameStart) && name.all isNamePart && !s.names.contains name then
    set { s with names := name :: s.names }
  else fail

def flagLetters : Parser (List Char) := do
  let letters ← takeWhile fun c => c ≠ ':' && c ≠ ')'
  let known := "imsURux-".toList
  if letters.all known.contains && letters.Nodup && letters.getLast? ≠ some '-' then return letters
  else fail

def Flags.set (f : Flags) (value : Bool) : Char → Flags
  | 'i' => { f with ignoreCase := value }
  | 'm' => { f with multiLine := value }
  | 's' => { f with dotMatchesNewline := value }
  | 'U' => { f with swapGreed := value }
  | 'R' => { f with anyLineEnd := value }
  | 'x' => { f with ignoreSpace := value }
  | _ => { f with unicode := value }

def Flags.apply (f : Flags) (letters : List Char) : Flags :=
  let on := letters.takeWhile (· ≠ '-')
  let off := (letters.dropWhile (· ≠ '-')).drop 1
  off.foldl (fun f c => f.set false c) (on.foldl (fun f c => f.set true c) f)

def parseGroup (inside : Parser Parsed) : Parser Piece := do
  bumpAndSkip
  let outer ← flags
  let close : Parser Parsed := do
    let p ← inside
    expect ')'
    modify fun s => { s with flags := outer }
    return ⟨p.pattern, p.depth + 1⟩
  let counted : Parser Piece := do
    let number := (← get).groups + 1
    modify fun s => { s with groups := number }
    let p ← close
    return .pattern ⟨.group number p.pattern, p.depth⟩
  if (← skip? "?P<".toList) then
    groupName
    counted
  else if (← skip? "?<".toList) then
    if (← current) = '=' || (← current) = '!' then fail
    groupName
    counted
  else if (← skip? ['?']) then
    let letters ← flagLetters
    let f := outer.apply letters
    if (← next) = ')' then
      if letters.isEmpty then fail
      modify fun s => { s with flags := f }
      return .flags
    else
      modify fun s => { s with flags := f }
      return .pattern (← close)
  else counted

def parsePieces (inside : Parser Parsed) : Nat → List Piece → Parser (List Piece)
  | 0, pieces => return pieces
  | fuel + 1, pieces => do
    skipSpace
    match ← peek? with
    | none | some ')' | some '|' => return pieces
    | some '(' => parsePieces inside fuel ((← parseGroup inside) :: pieces)
    | some '[' =>
      let part ← bracketed depthLimit
      parsePieces inside fuel (.pattern ⟨.one part.set, part.depth⟩ :: pieces)
    | some '\x7b' =>
      let (p, rest) ← popPiece pieces
      let (least, most) ← parseBounds
      skipSpace
      parsePieces inside fuel ((← repeatPiece p least most) :: rest)
    | some c =>
      if c = '?' || c = '*' || c = '+' then
        let (p, rest) ← popPiece pieces
        bump
        let least := if c = '+' then 1 else 0
        let most := if c = '?' then some 1 else none
        parsePieces inside fuel ((← repeatPiece p least most) :: rest)
      else
        let p ← ofPrimitive (← parsePrimitive)
        parsePieces inside fuel (.pattern ⟨p, 0⟩ :: pieces)

def joinPieces (pieces : List Piece) : Parsed :=
  let patterns := pieces.reverse.filterMap fun
    | .pattern p => some p
    | .flags => none
  let depth := (patterns.map (·.depth)).foldl max 0
  ⟨inOrder (patterns.map (·.pattern)), if 2 ≤ pieces.length then depth + 1 else depth⟩

def parseBranches (inside : Parser Parsed) : Nat → Parser (List Parsed)
  | 0 => fail
  | fuel + 1 => do
    let branch := joinPieces (← parsePieces inside (← turns) [])
    if ← skip? ['|'] then return branch :: (← parseBranches inside fuel)
    else return [branch]

def parseChoice : Nat → Parser Parsed
  | 0 => fail
  | depth + 1 => do
    let found ← parseBranches (parseChoice depth) (← turns)
    let deepest := (found.map (·.depth)).foldl max 0
    return ⟨anyOf (found.map (·.pattern)), if 2 ≤ found.length then deepest + 1 else deepest⟩

def read (text : String) : Option Pattern :=
  match (parseChoice (depthLimit + 1)).run { rest := text.toList } with
  | some (p, s) =>
    if s.rest.isEmpty && p.depth ≤ depthLimit && fits p.pattern then some p.pattern else none
  | none => none

end FormIntake.Pattern
