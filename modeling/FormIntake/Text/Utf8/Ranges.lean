import FormIntake.Number.Power
import FormIntake.Text.Utf8

namespace FormIntake.Text.Utf8

abbrev OctetRange := UInt8 × UInt8

/-- Cuts a range at the first or the last multiple of `block` in it, so that the middle part holds
whole blocks only: the last code point in front of the cut and the first one behind it. -/
def cutAt? (block first last : Nat) : Option (Nat × Nat) :=
  if first / block = last / block then none
  else if first % block ≠ 0 then
    some (first - first % block + block - 1, first - first % block + block)
  else if last % block ≠ block - 1 then some (last - last % block - 1, last - last % block)
  else none

/-- The place where a range has to be cut because its characters are not all the sequences that
ranges of octets make: at the surrogates, where the number of octets grows, and at whole blocks of
following octets. -/
def cut? (first last : Nat) : Option (Nat × Nat) :=
  if first ≤ 0xD7FF ∧ 0xE000 ≤ last then some (0xD7FF, 0xE000)
  else if first ≤ 0x7F ∧ 0x7F < last then some (0x7F, 0x80)
  else if first ≤ 0x7FF ∧ 0x7FF < last then some (0x7FF, 0x800)
  else if first ≤ 0xFFFF ∧ 0xFFFF < last then some (0xFFFF, 0x10000)
  else if last ≤ 0x7F then none
  else (cutAt? 64 first last).or ((cutAt? (64 ^ 2) first last).or (cutAt? (64 ^ 3) first last))

theorem cutAt?_within {block first last a b : Nat} (positive : 0 < block) (inOrder : first ≤ last)
    (cut : cutAt? block first last = some (a, b)) : first ≤ a ∧ a < b ∧ b ≤ last := by
  have split (n : Nat) : block * (n / block) + n % block = n := Nat.div_add_mod n block
  have below (n : Nat) : n % block < block := Nat.mod_lt n positive
  simp only [cutAt?] at cut
  split at cut
  · cases cut
  · next differ =>
    have less : first / block + 1 ≤ last / block := by
      have := Nat.div_le_div_right (c := block) inOrder
      omega
    have blocks : block * (first / block) + block ≤ block * (last / block) := by
      simpa [Nat.mul_add] using Nat.mul_le_mul_left block less
    have := split first
    have := split last
    have := below first
    split at cut
    · cases cut
      omega
    · split at cut
      · cases cut
        omega
      · cases cut

theorem cut?_within {first last a b : Nat} (inOrder : first ≤ last)
    (cut : cut? first last = some (a, b)) : first ≤ a ∧ a < b ∧ b ≤ last := by
  unfold cut? at cut
  split at cut
  · cases cut; omega
  · split at cut
    · cases cut; omega
    · split at cut
      · cases cut; omega
      · split at cut
        · cases cut; omega
        · split at cut
          · cases cut
          · rcases Option.or_eq_some_iff.1 cut with small | ⟨_, larger⟩
            · exact cutAt?_within (by decide) inOrder small
            · rcases Option.or_eq_some_iff.1 larger with middle | ⟨_, large⟩
              · exact cutAt?_within (by decide) inOrder middle
              · exact cutAt?_within (by decide) inOrder large

def sequences (first last : Nat) : List (List OctetRange) :=
  if _ : last < first then []
  else
    match _ : cut? first last with
    | none =>
      [List.zip (String.utf8EncodeChar (Char.ofNat first))
        (String.utf8EncodeChar (Char.ofNat last))]
    | some (a, b) => sequences first a ++ sequences b last
  termination_by last - first
  decreasing_by
    all_goals
      have := cut?_within (Nat.le_of_not_lt ‹_›) ‹_›
      omega

end FormIntake.Text.Utf8
