namespace FormIntake.Text

abbrev Reader (α : Type) := StateT (List Char) Option α

namespace Reader

variable {α : Type}

def fail : Reader α := fun _ => none

def peek? : Reader (Option Char) := fun cs => some (cs.head?, cs)

def next : Reader Char
  | [] => none
  | c :: cs => some (c, cs)

def char (c : Char) : Reader Unit
  | [] => none
  | d :: cs => if d = c then some ((), cs) else none

def word (word : String) : Reader Unit := word.toList.forM char

def skip? (c : Char) : Reader Bool
  | [] => some (false, [])
  | d :: cs => if d = c then some (true, cs) else some (false, d :: cs)

def takeWhile (p : Char → Bool) : Reader (List Char) :=
  fun cs => some (cs.takeWhile p, cs.dropWhile p)

def takeWhile1 (p : Char → Bool) : Reader (List Char) := do
  let taken ← takeWhile p
  if taken.isEmpty then fail else return taken

def satisfy (p : Char → Bool) : Reader Char := do
  let c ← next
  if p c then return c else fail

def orElse (first second : Reader α) : Reader α := fun cs => (first cs).or (second cs)

def attempt? (r : Reader α) : Reader (Option α) := fun cs =>
  match r cs with
  | some (a, rest) => some (some a, rest)
  | none => some (none, cs)

def manyWithin (r : Reader α) : Nat → Reader (List α)
  | 0 => pure []
  | fuel + 1 => do
    match ← attempt? r with
    | none => pure []
    | some a => return a :: (← manyWithin r fuel)

/-- Runs `r` while it succeeds; `r` takes at least one character each time. -/
def many (r : Reader α) : Reader (List α) := fun cs => manyWithin r cs.length cs

def atEnd? : Reader Bool := fun cs => some (cs.isEmpty, cs)

def readAll (r : Reader α) (cs : List Char) : Option α :=
  match r cs with
  | some (a, []) => some a
  | _ => none

end Reader

def hexValue? (c : Char) : Option Nat :=
  if '0' ≤ c ∧ c ≤ '9' then some (c.toNat - '0'.toNat)
  else if 'a' ≤ c ∧ c ≤ 'f' then some (c.toNat - 'a'.toNat + 10)
  else if 'A' ≤ c ∧ c ≤ 'F' then some (c.toNat - 'A'.toNat + 10)
  else none

def numeral? (base : Nat) (digits : List Char) : Option Nat :=
  digits.foldlM (fun n c => do
    let d ← hexValue? c
    if d < base then some (base * n + d) else none) 0

def scalar? (n : Nat) : Option Char :=
  if n < 0xD800 ∨ (0xDFFF < n ∧ n < 0x110000) then some (Char.ofNat n) else none

end FormIntake.Text
