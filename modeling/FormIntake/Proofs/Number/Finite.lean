import FormIntake.Number.Binary64

namespace FormIntake.Binary64

theorem magnitude_ofMagnitude {magnitude : Nat} (small : magnitude < 2 ^ 63) (negative : Bool) :
    (ofMagnitude negative magnitude).magnitude = magnitude := by
  unfold ofMagnitude Binary64.magnitude
  rw [UInt64.toNat_ofNat']
  split <;> omega

theorem isFinite_ofMagnitude {magnitude : Nat} (small : magnitude < infinityMagnitude)
    (negative : Bool) : (ofMagnitude negative magnitude).isFinite = true := by
  have fits : magnitude < 2 ^ 63 := by simp only [infinityMagnitude] at small; omega
  simp [isFinite, magnitude_ofMagnitude fits, small]

theorem isFinite_zero : zero.isFinite = true := by decide

theorem roundDiv_le (tie : Tie) (num den : Nat) : roundDiv tie num den ≤ num / den + 1 := by
  unfold roundDiv
  dsimp only
  split
  · omega
  · split
    · omega
    · cases tie with
      | upward => exact Nat.le_refl _
      | toEven => dsimp only; split <;> omega

/-- Rounding a number to a power of two that is not far below it leaves few digits. -/
theorem roundDiv_scaled_lt {num : Nat} {e : Int} (near : (num.log2 : Int) - 53 ≤ e) :
    (if 0 ≤ e then roundDiv .toEven num (1 * 2 ^ e.toNat)
      else roundDiv .toEven (num * 2 ^ (-e).toNat) 1) ≤ 2 ^ 54 := by
  have above := Nat.lt_log2_self (n := num)
  split
  · have powers : 2 ^ (num.log2 + 1) ≤ 2 ^ 54 * 2 ^ e.toNat := by
      rw [← Nat.pow_add]
      exact Nat.pow_le_pow_right (by decide) (by omega)
    have quotient : num / (1 * 2 ^ e.toNat) < 2 ^ 54 := by
      rw [Nat.one_mul, Nat.div_lt_iff_lt_mul (Nat.pow_pos (by decide))]
      omega
    have rounded := roundDiv_le .toEven num (1 * 2 ^ e.toNat)
    omega
  · have powers : 2 ^ (num.log2 + 1) * 2 ^ (-e).toNat ≤ 2 ^ 54 := by
      rw [← Nat.pow_add]
      exact Nat.pow_le_pow_right (by decide) (by omega)
    have product : num * 2 ^ (-e).toNat < 2 ^ (num.log2 + 1) * 2 ^ (-e).toNat :=
      Nat.mul_lt_mul_of_pos_right above (Nat.pow_pos (by decide))
    have rounded := roundDiv_le .toEven (num * 2 ^ (-e).toNat) 1
    rw [Nat.div_one] at rounded
    omega

theorem nearestMagnitude_lt {num : Nat} (small : num < 2 ^ 65) :
    nearestMagnitude num 1 < infinityMagnitude := by
  by_cases zero : num = 0
  · rw [zero]; decide
  · have size : num.log2 < 65 := (Nat.log2_lt zero).2 small
    unfold nearestMagnitude
    rw [if_neg zero]
    extract_lets estimate below power e q
    have estimated : estimate = num.log2 := by
      simp only [estimate, show Nat.log2 1 = 0 from by decide]
      omega
    have powerNear : estimate - 1 ≤ power ∧ power ≤ estimate := by
      simp only [power]
      split <;> omega
    have near : (num.log2 : Int) - 53 ≤ e := by omega
    have few : q ≤ 2 ^ 54 := roundDiv_scaled_lt near
    have low : (e + 1074).toNat ≤ 1086 := by omega
    simp only [infinityMagnitude]
    omega

theorem isFinite_ofInt {n : Int} (fits : -2 ^ 63 ≤ n ∧ n < 2 ^ 64) :
    (ofInt n).isFinite = true :=
  isFinite_ofMagnitude (nearestMagnitude_lt (by omega)) _

end FormIntake.Binary64
