import FormIntake.Text.Utf8
import Mathlib.Tactic.IntervalCases

namespace FormIntake.Text.Utf8

theorem toNat_ofNat {n : Nat} (small : n < 256) : (UInt8.ofNat n).toNat = n := by
  rw [UInt8.toNat_ofNat']
  exact Nat.mod_eq_of_lt small

section

variable {n value owed least greatest : Nat} {pending : Pending} {rest : List UInt8}

theorem decodeLossy_ascii (small : n < 0x80) :
    decodeLossy (UInt8.ofNat n :: rest) = Char.ofNat n :: decodeLossy rest := by
  rw [decodeLossy, toNat_ofNat (by omega), if_pos small]

theorem decodeLossy_begin (large : 0x80 ≤ n) (octet : n < 256)
    (begins : begin? (UInt8.ofNat n) = some pending) :
    decodeLossy (UInt8.ofNat n :: rest) = decodePending pending rest := by
  rw [decodeLossy, toNat_ofNat octet, if_neg (by omega), begins]

theorem decodePending_more (low : least ≤ n) (high : n ≤ greatest) (octet : n < 256) :
    decodePending ⟨value, owed + 2, least, greatest⟩ (UInt8.ofNat n :: rest) =
      decodePending ⟨value * 64 + (n - 0x80), owed + 1, 0x80, 0xBF⟩ rest := by
  rw [decodePending, toNat_ofNat octet, if_pos ⟨low, high⟩, if_neg (by simp)]
  rfl

theorem decodePending_last (low : least ≤ n) (high : n ≤ greatest) (octet : n < 256) :
    decodePending ⟨value, 1, least, greatest⟩ (UInt8.ofNat n :: rest) =
      Char.ofNat (value * 64 + (n - 0x80)) :: decodeLossy rest := by
  rw [decodePending, toNat_ofNat octet, if_pos ⟨low, high⟩, if_pos (Nat.le_refl 1)]

end

theorem toNat_of_mem_utf8EncodeChar {c : Char} {b : UInt8} (member : b ∈ String.utf8EncodeChar c) :
    b.toNat = c.toNat ∨ 0x80 ≤ b.toNat := by
  simp only [String.utf8EncodeChar, show c.val.toNat = c.toNat from rfl] at member
  split at member
  · rw [List.mem_singleton.1 member, UInt8.toNat_ofNat']
    omega
  split at member
  · simp only [List.mem_cons, List.not_mem_nil, or_false] at member
    rcases member with rfl | rfl <;> rw [UInt8.toNat_ofNat'] <;> omega
  split at member
  · simp only [List.mem_cons, List.not_mem_nil, or_false] at member
    rcases member with rfl | rfl | rfl <;> rw [UInt8.toNat_ofNat'] <;> omega
  · simp only [List.mem_cons, List.not_mem_nil, or_false] at member
    rcases member with rfl | rfl | rfl | rfl <;> rw [UInt8.toNat_ofNat'] <;> omega

theorem begin?_two {k : Nat} (low : 2 ≤ k) (high : k < 32) :
    begin? (UInt8.ofNat (k + 192)) = some ⟨k, 1, 0x80, 0xBF⟩ := by
  interval_cases k <;> rfl

/-- The bounds of the second octet shut out characters of two octets, and surrogates. -/
theorem begin?_three {k : Nat} (high : k < 16) :
    begin? (UInt8.ofNat (k + 224)) =
      some ⟨k, 2, if k = 0 then 0xA0 else 0x80, if k = 13 then 0x9F else 0xBF⟩ := by
  interval_cases k <;> rfl

/-- The bounds of the second octet shut out characters of three octets, and what is no character. -/
theorem begin?_four {k : Nat} (high : k < 5) :
    begin? (UInt8.ofNat (k + 240)) =
      some ⟨k, 3, if k = 0 then 0x90 else 0x80, if k = 4 then 0x8F else 0xBF⟩ := by
  interval_cases k <;> rfl

theorem decodeLossy_utf8EncodeChar (c : Char) (rest : List UInt8) :
    decodeLossy (String.utf8EncodeChar c ++ rest) = c :: decodeLossy rest := by
  have scalar : c.toNat < 0xD800 ∨ (0xDFFF < c.toNat ∧ c.toNat < 0x110000) := c.valid
  have whole : Char.ofNat c.toNat = c := Char.ofNat_toNat c
  simp only [String.utf8EncodeChar, show c.val.toNat = c.toNat from rfl]
  generalize c.toNat = v at scalar whole
  split
  · rw [List.singleton_append, decodeLossy_ascii (by omega), whole]
  split
  · have begins := begin?_two (k := v / 64 % 32) (by omega) (by omega)
    have value : v / 64 % 32 * 64 + (v % 64 + 128 - 0x80) = v := by omega
    simp only [List.cons_append, List.nil_append]
    rw [decodeLossy_begin (by omega) (by omega) begins,
      decodePending_last (by omega) (by omega) (by omega), value, whole]
  split
  · have begins := begin?_three (k := v / 4096 % 16) (by omega)
    have value : (v / 4096 % 16 * 64 + (v / 64 % 64 + 128 - 0x80)) * 64 +
        (v % 64 + 128 - 0x80) = v := by omega
    simp only [List.cons_append, List.nil_append]
    rw [decodeLossy_begin (by omega) (by omega) begins,
      decodePending_more (by split <;> omega) (by split <;> omega) (by omega),
      decodePending_last (by omega) (by omega) (by omega), value, whole]
  · have begins := begin?_four (k := v / 262144 % 8) (by omega)
    have value : ((v / 262144 % 8 * 64 + (v / 4096 % 64 + 128 - 0x80)) * 64 +
        (v / 64 % 64 + 128 - 0x80)) * 64 + (v % 64 + 128 - 0x80) = v := by omega
    simp only [List.cons_append, List.nil_append]
    rw [decodeLossy_begin (by omega) (by omega) begins,
      decodePending_more (by split <;> omega) (by split <;> omega) (by omega),
      decodePending_more (by omega) (by omega) (by omega),
      decodePending_last (by omega) (by omega) (by omega), value, whole]

theorem decodeLossy_encode (cs : List Char) : decodeLossy (encode cs) = cs := by
  induction cs with
  | nil => rfl
  | cons c cs ih => rw [encode, List.flatMap_cons, decodeLossy_utf8EncodeChar, ← encode, ih]

end FormIntake.Text.Utf8
