import FormIntake.Proofs.Number.Digits

namespace FormIntake.Decimal

theorem digits_toDigits (n : Nat) : Digits (Nat.toDigits 10 n) :=
  ⟨Nat.toDigits_ne_nil, fun _ member => Nat.isDigit_of_mem_toDigits (by decide) (by decide) member⟩

theorem length_toDigits_eq_iff {n k : Nat} (positive : 0 < k) :
    (Nat.toDigits 10 n).length = k ↔ n < 10 ^ k ∧ (k = 1 ∨ 10 ^ (k - 1) ≤ n) := by
  have atMost := Nat.length_toDigits_le_iff (n := n) (b := 10) (by decide) positive
  by_cases single : k = 1
  · -- zero has a digit as well, so that there is no lower bound
    have nonempty : 0 < (Nat.toDigits 10 n).length := Nat.length_toDigits_pos
    rw [single] at atMost ⊢
    omega
  · have less := Nat.length_toDigits_le_iff (n := n) (b := 10) (k := k - 1) (by decide) (by omega)
    omega

theorem head?_toDigits {n : Nat} (positive : 0 < n) : (Nat.toDigits 10 n).head? ≠ some '0' := by
  intro zero
  obtain ⟨rest, text⟩ := List.head?_eq_some_iff.1 zero
  have digits := digits_toDigits n
  have value := digitsValue_toDigits n
  rw [text] at digits value
  -- without the zero the digits have the same value, and the text was the shortest one
  have same : digitsValue rest = n := (digitsValue_zeros_append 1 rest).symm.trans value
  have bound : n < 10 ^ rest.length := by
    rw [← same]
    exact digitsValue_lt fun c member => digits.2 c (List.mem_cons_of_mem _ member)
  cases rest with
  | nil => exact absurd bound (by simpa using Nat.ne_of_gt positive)
  | cons c rest =>
    have short := (Nat.length_toDigits_le_iff (b := 10) (by decide) (Nat.succ_pos _)).2 bound
    rw [text] at short
    exact absurd short (Nat.not_succ_le_self _)

theorem length_toString_of_nonneg {v : Int} (nonneg : 0 ≤ v) :
    (toString v).length = (Nat.toDigits 10 v.natAbs).length := by
  have text : toString v = v.toNat.repr := Int.repr_eq_if.trans (if_pos nonneg)
  have same : v.toNat = v.natAbs := by omega
  rw [text, Nat.repr_eq_ofList_toDigits, String.length_ofList, same]

theorem length_toString_of_neg {v : Int} (negative : v < 0) :
    (toString v).length = (Nat.toDigits 10 v.natAbs).length + 1 := by
  have text : toString v = "-" ++ (-v).toNat.repr :=
    Int.repr_eq_if.trans (if_neg (Int.not_le.2 negative))
  have same : (-v).toNat = v.natAbs := by omega
  have sign : "-".length = 1 := rfl
  rw [text, String.length_append, sign, Nat.repr_eq_ofList_toDigits, String.length_ofList, same,
    Nat.add_comm]

/-- Which integers have a decimal text of `n` characters; a minus sign is one of them. -/
theorem length_toString_eq_iff (v : Int) {n : Nat} (positive : 0 < n) :
    (toString v).length = n ↔
      0 ≤ v ∧ (10 ^ (n - 1) ≤ v ∧ v < 10 ^ n ∨ n = 1 ∧ v = 0) ∨
      v < 0 ∧ 2 ≤ n ∧ 10 ^ (n - 2) ≤ -v ∧ -v < 10 ^ (n - 1) := by
  have powers (k : Nat) : (10 : Int) ^ k = (10 ^ k : Nat) := (Int.natCast_pow 10 k).symm
  simp only [powers]
  rcases Int.lt_or_le v 0 with negative | nonneg
  · rw [length_toString_of_neg negative]
    by_cases more : 2 ≤ n
    · have digits := length_toDigits_eq_iff (n := v.natAbs) (k := n - 1) (by omega)
      have single : n - 1 = 1 → 10 ^ (n - 2) = 1 := by
        intro one
        have zero : n - 2 = 0 := by omega
        rw [zero, Nat.pow_zero]
      have same : n - 1 - 1 = n - 2 := by omega
      rw [same] at digits
      omega
    · have nonempty : 0 < (Nat.toDigits 10 v.natAbs).length := Nat.length_toDigits_pos
      omega
  · rw [length_toString_of_nonneg nonneg, length_toDigits_eq_iff positive]
    have single : n = 1 → 10 ^ (n - 1) = 1 := by
      rintro rfl
      rfl
    have positive : 0 < 10 ^ n := Nat.pow_pos (by decide)
    omega

end FormIntake.Decimal
