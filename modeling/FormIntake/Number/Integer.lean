import FormIntake.Number.Power

namespace FormIntake

inductive IntWidth
  | i32 | i64 | u8 | u64
  deriving DecidableEq, Repr

namespace IntWidth

def least : IntWidth → Int
  | i32 => -2 ^ 31
  | i64 => -2 ^ 63
  | u8 | u64 => 0

def greatest : IntWidth → Int
  | i32 => 2 ^ 31 - 1
  | i64 => 2 ^ 63 - 1
  | u8 => 2 ^ 8 - 1
  | u64 => 2 ^ 64 - 1

def name : IntWidth → String
  | i32 => "i32"
  | i64 => "i64"
  | u8 => "u8"
  | u64 => "u64"

def holds (w : IntWidth) (n : Int) : Bool := w.least ≤ n && n ≤ w.greatest

abbrev Value (w : IntWidth) : Type := { n : Int // w.holds n = true }

def value? (w : IntWidth) (n : Int) : Option w.Value :=
  if fits : w.holds n = true then some ⟨n, fits⟩ else none

theorem least_nonpos (w : IntWidth) : w.least ≤ 0 := by cases w <;> decide

theorem greatest_nonneg (w : IntWidth) : 0 ≤ w.greatest := by cases w <;> decide

theorem within_of_holds (w : IntWidth) {n : Int} (held : w.holds n = true) :
    -2 ^ 63 ≤ n ∧ n < 2 ^ 64 := by
  simp only [holds, Bool.and_eq_true, decide_eq_true_eq] at held
  cases w <;> simp only [least, greatest] at held <;> omega

def zero (w : IntWidth) : w.Value :=
  ⟨0, by simp [holds, w.least_nonpos, w.greatest_nonneg]⟩

end IntWidth

inductive IntegerFault
  | empty | invalidDigit | tooLarge | tooSmall
  deriving DecidableEq, Repr

def IntegerFault.message : IntegerFault → String
  | empty => "cannot parse integer from empty string"
  | invalidDigit => "invalid digit found in string"
  | tooLarge => "number too large to fit in target type"
  | tooSmall => "number too small to fit in target type"

namespace Integer

def digit? (c : Char) : Option Nat :=
  if '0' ≤ c ∧ c ≤ '9' then some (c.toNat - '0'.toNat) else none

def readDigits (limit : Nat) (excess : IntegerFault) (n : Nat) : List Char → Except IntegerFault Nat
  | [] => .ok n
  | c :: rest =>
    match digit? c with
    | none => .error .invalidDigit
    | some d =>
      if 10 * n + d ≤ limit then readDigits limit excess (10 * n + d) rest else .error excess

def readMagnitude (limit : Nat) (excess : IntegerFault) : List Char → Except IntegerFault Nat
  | [] => .error .invalidDigit
  | cs => readDigits limit excess 0 cs

/-- Reads a decimal integer of width `w`; where there are no integers below zero, there is no minus
sign. -/
def read (w : IntWidth) : List Char → Except IntegerFault Int
  | [] => .error .empty
  | '+' :: cs => (readMagnitude w.greatest.toNat .tooLarge cs).map Int.ofNat
  | '-' :: cs =>
    if w.least = 0 then .error .invalidDigit
    else (readMagnitude (-w.least).toNat .tooSmall cs).map fun n => -Int.ofNat n
  | cs => (readMagnitude w.greatest.toNat .tooLarge cs).map Int.ofNat

theorem le_of_readDigits {limit n m : Nat} {excess : IntegerFault} {cs : List Char}
    (start : n ≤ limit) (found : readDigits limit excess n cs = .ok m) : m ≤ limit := by
  induction cs generalizing n with
  | nil => simp [readDigits] at found; omega
  | cons c rest ih =>
    simp only [readDigits] at found
    split at found
    · cases found
    · split at found
      · next inside => exact ih inside found
      · cases found

theorem le_of_readMagnitude {limit m : Nat} {excess : IntegerFault} {cs : List Char}
    (found : readMagnitude limit excess cs = .ok m) : m ≤ limit := by
  cases cs with
  | nil => cases found
  | cons c rest => exact le_of_readDigits (Nat.zero_le _) found

theorem eq_of_map_ok {e α β : Type} {f : α → β} {result : Except e α} {b : β}
    (found : result.map f = .ok b) : ∃ a, result = .ok a ∧ f a = b := by
  cases result with
  | error fault => cases found
  | ok a => exact ⟨a, rfl, by simpa [Except.map] using found⟩

theorem holds_of_read {w : IntWidth} {cs : List Char} {n : Int} (found : read w cs = .ok n) :
    w.holds n = true := by
  have low := w.least_nonpos
  have high := w.greatest_nonneg
  unfold read at found
  split at found
  · cases found
  · obtain ⟨m, read, rfl⟩ := eq_of_map_ok found
    have bound := le_of_readMagnitude read
    simp only [IntWidth.holds, Bool.and_eq_true, decide_eq_true_eq, Int.ofNat_eq_natCast]
    omega
  · split at found
    · cases found
    · obtain ⟨m, read, rfl⟩ := eq_of_map_ok found
      have bound := le_of_readMagnitude read
      simp only [IntWidth.holds, Bool.and_eq_true, decide_eq_true_eq, Int.ofNat_eq_natCast]
      omega
  · obtain ⟨m, read, rfl⟩ := eq_of_map_ok found
    have bound := le_of_readMagnitude read
    simp only [IntWidth.holds, Bool.and_eq_true, decide_eq_true_eq, Int.ofNat_eq_natCast]
    omega

end Integer

end FormIntake
