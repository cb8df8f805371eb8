import FormIntake.Text.Blank
import Mathlib.Data.List.DropRight

namespace FormIntake.Text

def Blank (s : String) : Prop := ∀ c ∈ s.toList, isBlank c = true

theorem toList_trim (s : String) :
    (trim s).toList = (s.toList.dropWhile isBlank).rdropWhile isBlank := by
  rw [trim, String.toList_ofList]
  rfl

theorem trim_eq_empty_iff {s : String} : trim s = "" ↔ Blank s := by
  rw [← String.toList_eq_nil_iff, toList_trim, List.rdropWhile_eq_nil_iff,
    ← List.dropWhile_eq_nil_iff, List.dropWhile_idempotent, List.dropWhile_eq_nil_iff]
  rfl

theorem trim_trim (s : String) : trim (trim s) = trim s := by
  have front := List.dropWhile_eq_self_iff.1 (List.dropWhile_idempotent isBlank s.toList)
  have inner := List.rdropWhile_prefix isBlank (s.toList.dropWhile isBlank)
  -- The first character that is left is one in front of which nothing was white space.
  have kept : (trim s).toList.dropWhile isBlank = (trim s).toList := by
    rw [toList_trim, List.dropWhile_eq_self_iff]
    intro filled
    rw [inner.getElem filled]
    exact front _
  rw [← String.toList_inj, toList_trim, kept, toList_trim, List.rdropWhile_idempotent]

theorem toList_trim_of_around {s : String} {front text back : List Char}
    (around : s.toList = front ++ (text ++ back)) (before : ∀ c ∈ front, isBlank c = true)
    (after : ∀ c ∈ back, isBlank c = true) (begins : ∀ c ∈ text.head?, isBlank c = false)
    (ends : ∀ c ∈ text.getLast?, isBlank c = false) (filled : text ≠ []) :
    (trim s).toList = text := by
  have fronts : (text ++ back).dropWhile isBlank = text ++ back := by
    cases text with
    | nil => exact absurd rfl filled
    | cons c cs => simp [begins c rfl]
  have backs : (text ++ back).rdropWhile isBlank = text.rdropWhile isBlank := by
    rw [List.rdropWhile, List.reverse_append, List.dropWhile_append_of_pos]
    · rfl
    · simpa using after
  have last : text.rdropWhile isBlank = text := by
    rw [List.rdropWhile_eq_self_iff]
    intro filled
    simp [ends _ (List.getLast_mem_getLast? filled)]
  rw [toList_trim, around, List.dropWhile_append_of_pos before, fronts, backs, last]

end FormIntake.Text
