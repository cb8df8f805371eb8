import FormIntake.Proofs.Number.Finite
import Mathlib.Algebra.Order.Field.Power
import Mathlib.Algebra.Order.Monoid.WithTop
import Mathlib.Data.Int.ConditionallyCompleteOrder
import Mathlib.Data.Rat.Cast.Order
import Mathlib.Order.WithBot
import Mathlib.Tactic.Linarith
import Mathlib.Tactic.NormNum
import Mathlib.Tactic.Positivity
import Mathlib.Tactic.Push
import Mathlib.Tactic.Ring

namespace FormIntake.Binary64

/-- The whole number `m` of the magnitude of `m · 2^e`. -/
def steps (magnitude : Nat) : Nat :=
  if magnitude < 2 ^ 52 then magnitude else 2 ^ 52 + magnitude % 2 ^ 52

/-- What lies between the number of a magnitude and the next one: the `2^e` of `m · 2^e`. -/
def unit (magnitude : Nat) : ℚ := 2 ^ (((max (magnitude / 2 ^ 52) 1 : Nat) : ℤ) - 1075)

def size (magnitude : Nat) : ℚ := steps magnitude * unit magnitude

def toRat (x : Binary64) : ℚ :=
  (if x.isNegative then -1 else 1) * (x.significand * 2 ^ x.exponent)

/-- The number that a double stands for, or an infinity. -/
def number (x : Binary64) : WithBot (WithTop ℚ) :=
  if x.isFinite then ((x.toRat : WithTop ℚ) : WithBot (WithTop ℚ))
  else if x.isNegative then ⊥ else ⊤

/-- No double is nearer to `n` than `x`, and if another is as near, then `x` is the even one. -/
structure NearestTo (n : Nat) (x : Binary64) : Prop where
  finite : x.isFinite = true
  nearest : ∀ y : Binary64, y.isFinite = true → |x.toRat - n| ≤ |y.toRat - n|
  even : ∀ y : Binary64, y.isFinite = true → |x.toRat - n| = |y.toRat - n| → y.toRat ≠ x.toRat →
    x.magnitude % 2 = 0

theorem unit_pos (magnitude : Nat) : 0 < unit magnitude := by
  unfold unit
  positivity

theorem unit_succ_of_carry {magnitude : Nat} (normal : 2 ^ 52 ≤ magnitude)
    (carries : (magnitude + 1) % 2 ^ 52 = 0) : unit (magnitude + 1) = 2 * unit magnitude := by
  have exponent : ((max ((magnitude + 1) / 2 ^ 52) 1 : Nat) : ℤ) - 1075 =
      ((max (magnitude / 2 ^ 52) 1 : Nat) : ℤ) - 1075 + 1 := by omega
  rw [unit, unit, exponent, zpow_add_one₀ two_ne_zero, mul_comm]

theorem size_succ (magnitude : Nat) : size (magnitude + 1) = size magnitude + unit magnitude := by
  by_cases carries : 2 ^ 52 ≤ magnitude ∧ (magnitude + 1) % 2 ^ 52 = 0
  · have last : steps magnitude = 2 ^ 53 - 1 := by
      rw [steps, if_neg (by omega)]
      omega
    have first : steps (magnitude + 1) = 2 ^ 52 := by
      rw [steps, if_neg (by omega), carries.2]
    rw [size, size, first, last, unit_succ_of_carry carries.1 carries.2]
    push_cast
    ring
  · have same : unit (magnitude + 1) = unit magnitude := by
      have exponent : max ((magnitude + 1) / 2 ^ 52) 1 = max (magnitude / 2 ^ 52) 1 := by omega
      rw [unit, unit, exponent]
    have next : steps (magnitude + 1) = steps magnitude + 1 := by
      unfold steps
      split <;> split <;> omega
    rw [size, size, same, next]
    push_cast
    ring

theorem size_strictMono : StrictMono size := by
  apply strictMono_nat_of_lt_succ
  intro magnitude
  rw [size_succ]
  linarith [unit_pos magnitude]

theorem size_zero : size 0 = 0 := by
  simp [size, steps]

theorem size_nonneg (magnitude : Nat) : 0 ≤ size magnitude := by
  rw [← size_zero]
  exact size_strictMono.monotone (Nat.zero_le magnitude)

theorem size_of_steps {field q : Nat} (low : 2 ^ 52 ≤ q) (high : q ≤ 2 ^ 53) :
    size (field * 2 ^ 52 + q) = q * 2 ^ ((field : ℤ) - 1074) := by
  by_cases within : q < 2 ^ 53
  · have significand : steps (field * 2 ^ 52 + q) = q := by
      rw [steps, if_neg (by omega)]
      omega
    have exponent : ((max ((field * 2 ^ 52 + q) / 2 ^ 52) 1 : Nat) : ℤ) - 1075 =
        (field : ℤ) - 1074 := by omega
    rw [size, significand, unit, exponent]
  · have significand : steps (field * 2 ^ 52 + q) = 2 ^ 52 := by
      rw [steps, if_neg (by omega)]
      omega
    have exponent : ((max ((field * 2 ^ 52 + q) / 2 ^ 52) 1 : Nat) : ℤ) - 1075 =
        (field : ℤ) - 1074 + 1 := by omega
    have whole : q = 2 ^ 53 := by omega
    rw [size, significand, unit, exponent, zpow_add_one₀ two_ne_zero, whole]
    push_cast
    ring

theorem roundDiv_one (n : Nat) : roundDiv .toEven n 1 = n := by
  simp [roundDiv, Nat.mod_one]

theorem roundDiv_near (num : Nat) {den : Nat} (pos : 0 < den) :
    let rounded := roundDiv .toEven num den * den
    2 * num ≤ 2 * rounded + den ∧ 2 * rounded ≤ 2 * num + den ∧
      (2 * num = 2 * rounded + den ∨ 2 * rounded = 2 * num + den →
        roundDiv .toEven num den % 2 = 0) := by
  have whole := Nat.div_add_mod num den
  have rest := Nat.mod_lt num pos
  have next : (num / den + 1) * den = den * (num / den) + den := by ring
  have this : num / den * den = den * (num / den) := Nat.mul_comm _ _
  unfold roundDiv
  dsimp only
  split
  · rw [this]; omega
  · split
    · rw [next]; omega
    · split
      · rw [this]; omega
      · rw [next]; omega

theorem abs_roundDiv_sub (num : Nat) {den : Nat} (pos : 0 < den) :
    2 * |((roundDiv .toEven num den * den : ℕ) : ℚ) - num| ≤ den ∧
      (2 * |((roundDiv .toEven num den * den : ℕ) : ℚ) - num| = den →
        roundDiv .toEven num den % 2 = 0) := by
  obtain ⟨fromBelow, fromAbove, tie⟩ := roundDiv_near num pos
  have lower : (2 * num : ℚ) ≤ 2 * (roundDiv .toEven num den * den : ℕ) + den := by
    exact_mod_cast fromBelow
  have upper : (2 * (roundDiv .toEven num den * den : ℕ) : ℚ) ≤ 2 * num + den := by
    exact_mod_cast fromAbove
  constructor
  · have half : |((roundDiv .toEven num den * den : ℕ) : ℚ) - num| ≤ den / 2 :=
      abs_le.2 ⟨by linarith, by linarith⟩
    linarith
  · intro half
    apply tie
    rcases abs_cases (((roundDiv .toEven num den * den : ℕ) : ℚ) - num) with
      ⟨positive, _⟩ | ⟨negative, _⟩
    · have sum : (2 * (roundDiv .toEven num den * den : ℕ) : ℚ) = 2 * num + den := by linarith
      exact .inr (by exact_mod_cast sum)
    · have sum : (2 * num : ℚ) = 2 * (roundDiv .toEven num den * den : ℕ) + den := by linarith
      exact .inl (by exact_mod_cast sum)

theorem le_roundDiv (num den : Nat) : num / den ≤ roundDiv .toEven num den := by
  unfold roundDiv
  dsimp only
  split
  · exact Nat.le_refl _
  · split
    · omega
    · split <;> omega

theorem nearestMagnitude_eq {n : Nat} (nonzero : n ≠ 0) (small : n < 2 ^ 65) :
    nearestMagnitude n 1 = (n.log2 + 1022) * 2 ^ 52 +
      if 52 ≤ n.log2 then roundDiv .toEven n (2 ^ (n.log2 - 52)) else n * 2 ^ (52 - n.log2) := by
  have finite := nearestMagnitude_lt small
  unfold nearestMagnitude at finite ⊢
  rw [if_neg nonzero] at finite ⊢
  extract_lets estimate below power e q
  extract_lets at finite
  have estimated : estimate = n.log2 := by
    simp only [estimate, show Nat.log2 1 = 0 from by decide]
    omega
  have least : ¬ n < 1 * 2 ^ n.log2 := by
    have le := Nat.log2_self_le nonzero
    omega
  have reached : below = false := by
    simp only [below, estimated, Int.natCast_nonneg, if_true, Int.toNat_natCast, least,
      decide_false]
  have scale : e = n.log2 - 52 := by
    simp only [e, power, reached, estimated, Bool.false_eq_true, if_false]
    omega
  have field : (e + 1074).toNat = n.log2 + 1022 := by omega
  have significand : q = if 52 ≤ n.log2 then roundDiv .toEven n (2 ^ (n.log2 - 52))
      else n * 2 ^ (52 - n.log2) := by
    simp only [q]
    by_cases many : 52 ≤ n.log2
    · have shift : e.toNat = n.log2 - 52 := by omega
      rw [if_pos (by omega), if_pos many, shift, Nat.one_mul]
    · have shift : (-e).toNat = 52 - n.log2 := by omega
      rw [if_neg (by omega), if_neg many, shift, roundDiv_one]
  rw [← significand, ← field]
  omega

theorem shifted_bounds {n : Nat} (nonzero : n ≠ 0) (digits : n.log2 ≤ 52) :
    2 ^ 52 ≤ n * 2 ^ (52 - n.log2) ∧ n * 2 ^ (52 - n.log2) ≤ 2 ^ 53 := by
  have least := Nat.log2_self_le nonzero
  have most := Nat.lt_log2_self (n := n)
  have low : 2 ^ n.log2 * 2 ^ (52 - n.log2) = 2 ^ 52 := by
    rw [← Nat.pow_add]
    congr 1
    omega
  have high : 2 ^ (n.log2 + 1) * 2 ^ (52 - n.log2) = 2 ^ 53 := by
    rw [← Nat.pow_add]
    congr 1
    omega
  exact ⟨low ▸ Nat.mul_le_mul_right _ least, high ▸ Nat.mul_le_mul_right _ most.le⟩

theorem size_nearestMagnitude {n : Nat} (few : n < 2 ^ 53) : size (nearestMagnitude n 1) = n := by
  by_cases zero : n = 0
  · rw [zero]
    exact size_zero
  · have digits : n.log2 ≤ 52 := by
      have lt := (Nat.log2_lt zero).2 few
      omega
    obtain ⟨low, high⟩ := shifted_bounds zero digits
    have significand : (if 52 ≤ n.log2 then roundDiv .toEven n (2 ^ (n.log2 - 52))
        else n * 2 ^ (52 - n.log2)) = n * 2 ^ (52 - n.log2) := by
      split
      · next all =>
        have last : n.log2 = 52 := by omega
        rw [last, Nat.sub_self, Nat.pow_zero, roundDiv_one, Nat.mul_one]
      · rfl
    have exponent : ((n.log2 + 1022 : ℕ) : ℤ) - 1074 = -((52 - n.log2 : ℕ) : ℤ) := by omega
    rw [nearestMagnitude_eq zero (by omega), significand, size_of_steps low high, exponent,
      zpow_neg, zpow_natCast]
    push_cast
    rw [mul_assoc, mul_inv_cancel₀ (by positivity), mul_one]

/-- A magnitude is nearest if it is off by half a unit at most, and no more than what is above and,
should it be too great, what is below it. -/
theorem size_near {magnitude : Nat} {n u : ℚ} (above : u ≤ unit magnitude)
    (below : n < size magnitude → ∃ less, magnitude = less + 1 ∧ u ≤ unit less)
    (near : 2 * |size magnitude - n| ≤ u) (other : Nat) :
    |size magnitude - n| ≤ |size other - n| ∧
      (|size magnitude - n| = |size other - n| →
        other = magnitude ∨ 2 * |size magnitude - n| = u) := by
  have far : u / 2 ≤ |size other - n| →
      |size magnitude - n| ≤ |size other - n| ∧ (|size magnitude - n| = |size other - n| →
        other = magnitude ∨ 2 * |size magnitude - n| = u) := by
    intro half
    refine ⟨by linarith, fun same => .inr (by linarith)⟩
  have bounds := abs_le.1 (show |size magnitude - n| ≤ u / 2 by linarith)
  rcases Nat.lt_trichotomy other magnitude with less | rfl | more
  · by_cases high : n < size magnitude
    · obtain ⟨p, rfl, wide⟩ := below high
      have le := size_strictMono.monotone (Nat.le_of_lt_succ less)
      rw [size_succ] at bounds
      apply far
      apply le_abs.2
      right
      linarith
    · have lt := size_strictMono less
      have closer : |size magnitude - n| < |size other - n| := by
        rw [abs_of_nonpos (by linarith), abs_of_neg (by linarith)]
        linarith
      exact ⟨closer.le, fun same => absurd same closer.ne⟩
  · exact ⟨le_rfl, fun _ => .inl rfl⟩
  · have le := size_strictMono.monotone (Nat.succ_le_of_lt more)
    rw [Nat.succ_eq_add_one, size_succ] at le
    apply far
    apply le_abs.2
    left
    linarith

theorem le_unit {field q : Nat} (low : 2 ^ 52 ≤ q) :
    (2 : ℚ) ^ ((field : ℤ) - 1074) ≤ unit (field * 2 ^ 52 + q) := by
  unfold unit
  apply zpow_le_zpow_right₀ one_le_two
  omega

/-- A whole number with more binary digits is rounded to `q` times the unit of its binade. -/
structure Rounded (n field q u : Nat) : Prop where
  magnitude : nearestMagnitude n 1 = field * 2 ^ 52 + q
  quotient : q = roundDiv .toEven n u
  pos : 0 < u
  least : 2 ^ 52 * u ≤ n
  high : q ≤ 2 ^ 53
  power : (2 : ℚ) ^ ((field : ℤ) - 1074) = u

theorem exists_rounded {n : Nat} (many : 2 ^ 53 ≤ n) (small : n < 2 ^ 64) :
    ∃ field q u, Rounded n field q u := by
  have nonzero : n ≠ 0 := by omega
  have digits : 52 ≤ n.log2 := by
    have le := (Nat.le_log2 nonzero).2 many
    omega
  have scaled : 2 ^ 52 * 2 ^ (n.log2 - 52) = 2 ^ n.log2 := by
    rw [← Nat.pow_add]
    congr 1
    omega
  have least := Nat.log2_self_le nonzero
  have most := Nat.lt_log2_self (n := n)
  have pos : 0 < 2 ^ (n.log2 - 52) := Nat.two_pow_pos _
  refine ⟨n.log2 + 1022, _, 2 ^ (n.log2 - 52), ?magnitude, rfl, pos, ?least, ?high, ?power⟩
  case magnitude => rw [nearestMagnitude_eq nonzero (by omega), if_pos digits]
  case least =>
    rw [scaled]
    exact least
  case high =>
    have near := (roundDiv_near n pos).2.1
    rw [Nat.pow_succ, ← scaled] at most
    have bound : 2 * roundDiv .toEven n (2 ^ (n.log2 - 52)) * 2 ^ (n.log2 - 52) <
        (2 ^ 54 + 1) * 2 ^ (n.log2 - 52) := by
      rw [Nat.mul_assoc]
      linarith
    have doubled := Nat.lt_of_mul_lt_mul_right bound
    omega
  case power =>
    have exponent : ((n.log2 + 1022 : ℕ) : ℤ) - 1074 = ((n.log2 - 52 : ℕ) : ℤ) := by omega
    rw [exponent, zpow_natCast]
    push_cast
    rfl

section

variable {n field q u : Nat}

theorem Rounded.low (rounded : Rounded n field q u) : 2 ^ 52 ≤ q := by
  rw [rounded.quotient]
  exact ((Nat.le_div_iff_mul_le rounded.pos).2 rounded.least).trans (le_roundDiv n u)

theorem Rounded.size_eq (rounded : Rounded n field q u) :
    size (nearestMagnitude n 1) = (q * u : ℕ) := by
  rw [rounded.magnitude, size_of_steps rounded.low rounded.high, rounded.power]
  push_cast
  rfl

theorem Rounded.le_unit (rounded : Rounded n field q u) : u ≤ unit (nearestMagnitude n 1) := by
  rw [rounded.magnitude, ← rounded.power]
  exact Binary64.le_unit rounded.low

theorem Rounded.exists_pred (rounded : Rounded n field q u)
    (up : n < size (nearestMagnitude n 1)) :
    ∃ less, nearestMagnitude n 1 = less + 1 ∧ u ≤ unit less := by
  rw [rounded.size_eq, Nat.cast_lt] at up
  have more : 2 ^ 52 < q := Nat.lt_of_mul_lt_mul_right (rounded.least.trans_lt up)
  refine ⟨field * 2 ^ 52 + (q - 1), ?_, ?_⟩
  · rw [rounded.magnitude]
    omega
  · rw [← rounded.power]
    exact Binary64.le_unit (by omega)

theorem Rounded.near (rounded : Rounded n field q u) :
    2 * |size (nearestMagnitude n 1) - n| ≤ u ∧
      (2 * |size (nearestMagnitude n 1) - n| = u → nearestMagnitude n 1 % 2 = 0) := by
  obtain ⟨near, tie⟩ := abs_roundDiv_sub n rounded.pos
  rw [← rounded.quotient, ← rounded.size_eq] at near tie
  refine ⟨near, fun half => ?_⟩
  have even := tie half
  rw [rounded.magnitude]
  omega

end

theorem nearestMagnitude_near {n : Nat} (small : n < 2 ^ 64) (other : Nat) :
    |size (nearestMagnitude n 1) - n| ≤ |size other - n| ∧
      (|size (nearestMagnitude n 1) - n| = |size other - n| →
        other = nearestMagnitude n 1 ∨ nearestMagnitude n 1 % 2 = 0) := by
  by_cases few : n < 2 ^ 53
  · rw [size_nearestMagnitude few, sub_self, abs_zero]
    refine ⟨abs_nonneg _, fun same => .inl ?_⟩
    apply size_strictMono.injective
    rw [size_nearestMagnitude few]
    exact sub_eq_zero.1 (abs_eq_zero.1 same.symm)
  · obtain ⟨field, q, u, rounded⟩ := exists_rounded (Nat.le_of_not_lt few) small
    obtain ⟨near, even⟩ := rounded.near
    obtain ⟨nearest, ties⟩ := size_near rounded.le_unit rounded.exists_pred near other
    exact ⟨nearest, fun same => (ties same).imp_right even⟩

def numberAt (key : ℤ) : ℚ := if key < 0 then -size key.natAbs else size key.natAbs

theorem numberAt_strictMono : StrictMono numberAt := by
  apply strictMono_int_of_lt_succ
  intro key
  by_cases negative : key < 0
  · have next : key.natAbs = (key + 1).natAbs + 1 := by omega
    have less : size (key + 1).natAbs < size key.natAbs := by
      rw [next]
      exact size_strictMono (Nat.lt_succ_self _)
    rw [numberAt, numberAt, if_pos negative]
    split
    · linarith
    · have zero : (key + 1).natAbs = 0 := by omega
      rw [zero, size_zero] at less ⊢
      linarith
  · have next : (key + 1).natAbs = key.natAbs + 1 := by omega
    rw [numberAt, numberAt, if_neg negative, if_neg (by omega), next]
    exact size_strictMono (Nat.lt_succ_self _)

section

variable {x y : Binary64}

theorem toRat_eq_numberAt (x : Binary64) : x.toRat = numberAt x.orderKey := by
  have sized : (x.significand : ℚ) * 2 ^ x.exponent = size x.magnitude := rfl
  rw [toRat, sized, orderKey]
  by_cases negative : x.isNegative = true
  · rw [if_pos negative, if_pos negative, numberAt, Int.natAbs_neg, Int.natAbs_natCast]
    split
    · ring
    · have zero : x.magnitude = 0 := by omega
      rw [zero, size_zero]
      ring
  · rw [if_neg negative, if_neg negative, numberAt, if_neg (by omega), Int.natAbs_natCast, one_mul]

theorem natAbs_orderKey (x : Binary64) : x.orderKey.natAbs = x.magnitude := by
  unfold orderKey
  split <;> omega

theorem isFinite_iff : x.isFinite = true ↔ x.orderKey.natAbs < infinityMagnitude := by
  rw [natAbs_orderKey, isFinite, decide_eq_true_iff]

theorem isNegative_ofMagnitude {magnitude : Nat} (small : magnitude < 2 ^ 63) (negative : Bool) :
    (ofMagnitude negative magnitude).isNegative = negative := by
  unfold ofMagnitude isNegative
  rw [UInt64.toNat_ofNat']
  cases negative with
  | false => exact decide_eq_false (by simp; omega)
  | true => exact decide_eq_true (by simp; omega)

theorem exists_orderKey {key : ℤ} (within : key.natAbs < infinityMagnitude) :
    ∃ z : Binary64, z.isFinite = true ∧ z.orderKey = key := by
  have small : key.natAbs < 2 ^ 63 := by
    simp only [infinityMagnitude] at within
    omega
  refine ⟨ofMagnitude (decide (key < 0)) key.natAbs, isFinite_ofMagnitude within _, ?_⟩
  rw [orderKey, isNegative_ofMagnitude small, magnitude_ofMagnitude small]
  by_cases negative : key < 0
  · rw [if_pos (decide_eq_true negative)]
    omega
  · rw [if_neg (by simpa using negative)]
    omega

theorem number_cases (valid : x.isNaN = false) :
    (x.isFinite = true ∧ x.number = ((x.toRat : WithTop ℚ) : WithBot (WithTop ℚ))) ∨
    (x.number = ⊤ ∧ x.orderKey = infinityMagnitude) ∨
    (x.number = ⊥ ∧ x.orderKey = -infinityMagnitude) := by
  by_cases finite : x.isFinite = true
  · exact .inl ⟨finite, if_pos finite⟩
  · have infinite : x.magnitude = infinityMagnitude := by
      simp only [isFinite, decide_eq_true_eq] at finite
      simp only [isNaN, decide_eq_false_iff_not] at valid
      omega
    rw [number, if_neg finite, orderKey, infinite]
    cases x.isNegative with
    | false => exact .inr (.inl ⟨rfl, rfl⟩)
    | true => exact .inr (.inr ⟨rfl, rfl⟩)

theorem toRat_lt_iff : x.toRat < y.toRat ↔ x.orderKey < y.orderKey := by
  rw [toRat_eq_numberAt, toRat_eq_numberAt, numberAt_strictMono.lt_iff_lt]

theorem lt_iff (left : x.isNaN = false) (right : y.isNaN = false) :
    x.lt y = true ↔ x.number < y.number := by
  have keys : x.lt y = true ↔ x.orderKey < y.orderKey := by simp [lt, left, right]
  have top : (0 : ℤ) < infinityMagnitude := by decide
  have most : y.orderKey.natAbs ≤ infinityMagnitude := by
    rw [natAbs_orderKey]
    simpa [isNaN] using right
  rw [keys]
  rcases number_cases left with ⟨finite, here⟩ | ⟨here, key⟩ | ⟨here, key⟩
  · have bound := isFinite_iff.1 finite
    rcases number_cases right with ⟨_, there⟩ | ⟨there, key⟩ | ⟨there, key⟩
    · rw [here, there, WithBot.coe_lt_coe, WithTop.coe_lt_coe, toRat_lt_iff]
    · rw [here, there, key]
      exact iff_of_true (by omega) (WithBot.coe_lt_coe.2 (WithTop.coe_lt_top _))
    · rw [there, key]
      exact iff_of_false (by omega) not_lt_bot
  · rw [here, key]
    exact iff_of_false (by omega) not_top_lt
  · rw [here, key]
    rcases number_cases right with ⟨finite, there⟩ | ⟨there, key⟩ | ⟨there, key⟩
    · have bound := isFinite_iff.1 finite
      rw [there]
      exact iff_of_true (by omega) (WithBot.bot_lt_coe _)
    · rw [there, key]
      exact iff_of_true (by omega) (WithBot.bot_lt_coe _)
    · rw [there, key]
      exact iff_of_false (lt_irrefl _) (lt_irrefl _)

theorem NearestTo.congr {n : Nat} (near : NearestTo n y) (finite : x.isFinite = true)
    (same : x.toRat = y.toRat) : NearestTo n x := by
  have keys : x.orderKey = y.orderKey := by
    rw [toRat_eq_numberAt, toRat_eq_numberAt] at same
    exact numberAt_strictMono.injective same
  have magnitudes : x.magnitude = y.magnitude := by
    rw [← natAbs_orderKey, keys, natAbs_orderKey]
  refine ⟨finite, ?_, ?_⟩
  · rw [same]
    exact near.nearest
  · rw [same, magnitudes]
    exact near.even

/-- Between two doubles that are as near there would be a nearer one, or one of them is odd. -/
theorem NearestTo.not_toRat_lt {n : Nat} (left : NearestTo n x) (right : NearestTo n y) :
    ¬ x.toRat < y.toRat := by
  intro less
  have same := le_antisymm (left.nearest y right.finite) (right.nearest x left.finite)
  have evenLeft := left.even y right.finite same less.ne'
  have evenRight := right.even x left.finite same.symm less.ne
  have keys := toRat_lt_iff.1 less
  have fits := isFinite_iff.1 left.finite
  have fits' := isFinite_iff.1 right.finite
  rw [← natAbs_orderKey] at evenLeft evenRight
  have within : (x.orderKey + 1).natAbs < infinityMagnitude := by omega
  obtain ⟨z, finite, next⟩ := exists_orderKey within
  have above : x.toRat < z.toRat := toRat_lt_iff.2 (by omega)
  have below : z.toRat < y.toRat := toRat_lt_iff.2 (by omega)
  have middle : x.toRat - n = -(y.toRat - n) := by
    rcases abs_eq_abs.1 same with equal | opposite
    · linarith
    · exact opposite
  have nearer := left.nearest z finite
  rw [middle, abs_neg, abs_of_pos (by linarith)] at nearer
  have inside : |z.toRat - n| < y.toRat - n := abs_lt.2 ⟨by linarith, by linarith⟩
  linarith

theorem NearestTo.toRat_le_iff {n : Nat} (near : NearestTo n y) (finite : x.isFinite = true) :
    y.toRat ≤ x.toRat ↔ n ≤ x.toRat ∨ NearestTo n x := by
  constructor
  · intro above
    by_cases reaches : n ≤ x.toRat
    · exact .inl reaches
    · have closest := near.nearest x finite
      rw [abs_of_nonpos (by linarith), abs_of_nonpos (by linarith)] at closest
      exact .inr (near.congr finite (by linarith))
  · rintro (reaches | nearX)
    · by_contra less
      have closest := near.nearest x finite
      rw [abs_of_pos (by linarith), abs_of_nonneg (by linarith)] at closest
      linarith
    · exact le_of_not_gt (nearX.not_toRat_lt near)

theorem NearestTo.le_toRat_iff {n : Nat} (near : NearestTo n y) (finite : x.isFinite = true) :
    x.toRat ≤ y.toRat ↔ x.toRat ≤ n ∨ NearestTo n x := by
  constructor
  · intro below
    by_cases reaches : x.toRat ≤ n
    · exact .inl reaches
    · have closest := near.nearest x finite
      rw [abs_of_pos (by linarith), abs_of_pos (by linarith)] at closest
      exact .inr (near.congr finite (by linarith))
  · rintro (reaches | nearX)
    · by_contra more
      have closest := near.nearest x finite
      rw [abs_of_neg (by linarith), abs_of_nonpos (by linarith)] at closest
      linarith
    · exact le_of_not_gt (near.not_toRat_lt nearX)

theorem number_of_isFinite (finite : x.isFinite = true) :
    x.number = ((x.toRat : WithTop ℚ) : WithBot (WithTop ℚ)) := if_pos finite

theorem natCast_le_coe {n : Nat} {r : ℚ} :
    (n : WithBot (WithTop ℚ)) ≤ ((r : WithTop ℚ) : WithBot (WithTop ℚ)) ↔ (n : ℚ) ≤ r := by
  norm_cast

theorem coe_le_natCast {n : Nat} {r : ℚ} :
    ((r : WithTop ℚ) : WithBot (WithTop ℚ)) ≤ (n : WithBot (WithTop ℚ)) ↔ r ≤ n := by
  norm_cast

theorem natCast_ne_top (n : Nat) : (n : WithBot (WithTop ℚ)) ≠ ⊤ := by
  intro same
  exact WithTop.natCast_ne_top n (WithBot.coe_injective same)

theorem not_nearestTo_of_orderKey {n : Nat} (infinite : infinityMagnitude ≤ x.orderKey.natAbs) :
    ¬ NearestTo n x := by
  intro near
  have finite := isFinite_iff.1 near.finite
  omega

theorem NearestTo.number_le_iff {n : Nat} (near : NearestTo n y) (valid : x.isNaN = false) :
    y.number ≤ x.number ↔ n ≤ x.number ∨ NearestTo n x := by
  rw [number_of_isFinite near.finite]
  rcases number_cases valid with ⟨finite, here⟩ | ⟨here, _⟩ | ⟨here, key⟩
  · rw [here, natCast_le_coe, WithBot.coe_le_coe, WithTop.coe_le_coe, near.toRat_le_iff finite]
  · rw [here]
    exact iff_of_true le_top (.inl le_top)
  · have far : ¬ NearestTo n x := not_nearestTo_of_orderKey (by omega)
    rw [here]
    simp [far]

theorem NearestTo.le_number_iff {n : Nat} (near : NearestTo n y) (valid : x.isNaN = false) :
    x.number ≤ y.number ↔ x.number ≤ n ∨ NearestTo n x := by
  rw [number_of_isFinite near.finite]
  rcases number_cases valid with ⟨finite, here⟩ | ⟨here, key⟩ | ⟨here, _⟩
  · rw [here, coe_le_natCast, WithBot.coe_le_coe, WithTop.coe_le_coe, near.le_toRat_iff finite]
  · have far : ¬ NearestTo n x := not_nearestTo_of_orderKey (by omega)
    rw [here]
    simp [far, natCast_ne_top]
  · rw [here]
    exact iff_of_true bot_le (.inl bot_le)

theorem isNaN_of_isFinite (finite : x.isFinite = true) : x.isNaN = false := by
  simp only [isFinite, decide_eq_true_eq] at finite
  simp only [isNaN, decide_eq_false_iff_not]
  omega

theorem NearestTo.lt_eq_false_iff {n : Nat} (near : NearestTo n y) (valid : x.isNaN = false) :
    x.lt y = false ↔ n ≤ x.number ∨ NearestTo n x := by
  rw [Bool.eq_false_iff, ne_eq, lt_iff valid (isNaN_of_isFinite near.finite), not_lt,
    near.number_le_iff valid]

theorem NearestTo.gt_eq_false_iff {n : Nat} (near : NearestTo n y) (valid : x.isNaN = false) :
    y.lt x = false ↔ x.number ≤ n ∨ NearestTo n x := by
  rw [Bool.eq_false_iff, ne_eq, lt_iff (isNaN_of_isFinite near.finite) valid, not_lt,
    near.le_number_iff valid]

end

theorem toRat_eq_size (x : Binary64) :
    x.toRat = if x.isNegative then -size x.magnitude else size x.magnitude := by
  have sized : (x.significand : ℚ) * 2 ^ x.exponent = size x.magnitude := rfl
  rw [toRat, sized]
  split
  · rw [neg_one_mul]
  · rw [one_mul]

theorem toRat_ofMagnitude {magnitude : Nat} (small : magnitude < infinityMagnitude) :
    (ofMagnitude false magnitude).toRat = size magnitude := by
  have fits : magnitude < 2 ^ 63 := by
    simp only [infinityMagnitude] at small
    omega
  rw [toRat_eq_size, isNegative_ofMagnitude fits, magnitude_ofMagnitude fits]
  exact if_neg Bool.false_ne_true

theorem ofInt_natCast (n : Nat) : ofInt n = ofMagnitude false (nearestMagnitude n 1) := by
  have positive : decide ((n : ℤ) < 0) = false := decide_eq_false (by omega)
  rw [ofInt, ofRatio, positive, Int.natAbs_natCast]

theorem nearestTo_ofInt {n : Nat} (small : n < 2 ^ 64) : NearestTo n (ofInt n) := by
  have finite : nearestMagnitude n 1 < infinityMagnitude := nearestMagnitude_lt (by omega)
  have fits : nearestMagnitude n 1 < 2 ^ 63 := by
    simp only [infinityMagnitude] at finite
    omega
  have value := toRat_ofMagnitude finite
  have nearer (y : Binary64) : |size y.magnitude - n| ≤ |y.toRat - n| := by
    have positive := size_nonneg y.magnitude
    have natural : (0 : ℚ) ≤ n := Nat.cast_nonneg n
    rw [toRat_eq_size]
    split
    · rw [abs_of_nonpos (show -size y.magnitude - n ≤ 0 by linarith)]
      exact abs_le.2 ⟨by linarith, by linarith⟩
    · exact le_rfl
  rw [ofInt_natCast]
  refine ⟨isFinite_ofMagnitude finite false, ?_, ?_⟩
  · intro y _
    rw [value]
    exact (nearestMagnitude_near small y.magnitude).1.trans (nearer y)
  · intro y _ same other
    rw [value] at same other
    rw [magnitude_ofMagnitude fits]
    have nearest := nearestMagnitude_near small y.magnitude
    rcases nearest.2 (le_antisymm nearest.1 (same ▸ nearer y)) with equal | even
    · -- The other double differs in the sign alone.
      rw [toRat_eq_size, equal] at same other
      split at same
      · next negative =>
        rw [if_pos negative] at other
        rcases abs_eq_abs.1 same with zero | opposite
        · exact absurd (by linarith) other
        · have zero : (n : ℚ) = 0 := by linarith
          rw [Nat.cast_eq_zero.1 zero]
          rfl
      · next positive =>
        rw [if_neg positive] at other
        exact absurd rfl other
    · exact even

theorem exists_toRat_eq {n : Nat} (few : n ≤ 2 ^ 53) :
    ∃ z : Binary64, z.isFinite = true ∧ z.toRat = n := by
  rcases Nat.lt_or_eq_of_le few with less | rfl
  · have finite : nearestMagnitude n 1 < infinityMagnitude := nearestMagnitude_lt (by omega)
    refine ⟨ofMagnitude false (nearestMagnitude n 1), isFinite_ofMagnitude finite false, ?_⟩
    rw [toRat_ofMagnitude finite, size_nearestMagnitude less]
  · have finite : 1075 * 2 ^ 52 + 2 ^ 52 < infinityMagnitude := by decide
    refine ⟨ofMagnitude false (1075 * 2 ^ 52 + 2 ^ 52), isFinite_ofMagnitude finite false, ?_⟩
    rw [toRat_ofMagnitude finite, size_of_steps (Nat.le_refl _) (by decide)]
    norm_num

theorem NearestTo.toRat_eq {n : Nat} {x : Binary64} (near : NearestTo n x) (few : n ≤ 2 ^ 53) :
    x.toRat = n := by
  obtain ⟨z, finite, equal⟩ := exists_toRat_eq few
  have gap := near.nearest z finite
  rw [equal, sub_self, abs_zero] at gap
  exact sub_eq_zero.1 (abs_eq_zero.1 (le_antisymm gap (abs_nonneg _)))

theorem NearestTo.number_eq {n : Nat} {x : Binary64} (near : NearestTo n x) (few : n ≤ 2 ^ 53) :
    x.number = n := by
  rw [number_of_isFinite near.finite, near.toRat_eq few]
  norm_cast

end FormIntake.Binary64
