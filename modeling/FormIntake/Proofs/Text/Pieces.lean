import FormIntake.Text.Pieces

namespace FormIntake.Text

variable {separator : Char} {cs front rest : List Char} {items : List (List Char)}

theorem pieces_eq_splitOn (separator : Char) (cs : List Char) :
    pieces separator cs = cs.splitOn separator := by
  induction cs with
  | nil => rfl
  | cons c cs ih =>
    rw [List.splitOn, List.splitOnP_cons_eq_if_modifyHead, ← List.splitOn, ← ih]
    by_cases same : c = separator
    · simp [pieces, same]
    · have filled : pieces separator cs ≠ [] := by rw [ih]; exact List.splitOnP_ne_nil _ _
      simp only [pieces, same, ↓reduceIte, beq_iff_eq]
      cases found : pieces separator cs with
      | nil => exact absurd found filled
      | cons piece others => rfl

theorem pieces_ne_nil (separator : Char) (cs : List Char) : pieces separator cs ≠ [] := by
  rw [pieces_eq_splitOn]
  exact List.splitOnP_ne_nil _ _

theorem pieces_append (separator : Char) (front rest : List Char) :
    pieces separator (front ++ separator :: rest) =
      pieces separator front ++ pieces separator rest := by
  induction front with
  | nil => simp [pieces]
  | cons c front ih =>
    rw [List.cons_append, pieces, pieces, ih]
    by_cases same : c = separator
    · rw [if_pos same, if_pos same, List.cons_append]
    · rw [if_neg same, if_neg same]
      cases found : pieces separator front with
      | nil => exact absurd found (pieces_ne_nil separator front)
      | cons piece others => rfl

/-- `items` are the parts of `cs` between separators. -/
structure Separated (separator : Char) (cs : List Char) (items : List (List Char)) : Prop where
  filled : items ≠ []
  free : ∀ item ∈ items, separator ∉ item
  joined : [separator].intercalate items = cs

theorem not_mem_of_mem_pieces {piece : List Char} (member : piece ∈ pieces separator cs) :
    separator ∉ piece := by
  induction cs generalizing piece with
  | nil => simp_all [pieces]
  | cons c cs ih =>
    unfold pieces at member
    split at member
    · rcases List.mem_cons.1 member with rfl | later
      · simp
      · exact ih later
    · next differs =>
      split at member
      · next head others found =>
        rcases List.mem_cons.1 member with rfl | later
        · have headFree : separator ∉ head := ih (found ▸ List.mem_cons_self)
          have other : separator ≠ c := fun same => differs same.symm
          simp [other, headFree]
        · exact ih (found ▸ List.mem_cons_of_mem _ later)
      · next found => exact absurd found (pieces_ne_nil separator cs)

theorem separated_iff : Separated separator cs items ↔ items = pieces separator cs := by
  constructor
  · rintro ⟨filled, free, rfl⟩
    rw [pieces_eq_splitOn, List.splitOn_intercalate separator free filled]
  · rintro rfl
    refine ⟨pieces_ne_nil separator cs, fun item => not_mem_of_mem_pieces, ?_⟩
    rw [pieces_eq_splitOn, List.intercalate_splitOn]

theorem differs_of_not_mem (free : separator ∉ front) :
    ∀ c ∈ front, decide (c ≠ separator) = true := by
  intro c member
  have other : c ≠ separator := fun same => free (same ▸ member)
  simpa using other

theorem cut_append (free : separator ∉ front) :
    cut separator (front ++ separator :: rest) = (front, rest) := by
  have differs := differs_of_not_mem free
  rw [cut, List.takeWhile_append_of_pos differs, List.dropWhile_append_of_pos differs]
  simp

theorem cut_of_not_mem (free : separator ∉ front) : cut separator front = (front, []) := by
  have differs := differs_of_not_mem free
  rw [← List.append_nil front, cut, List.takeWhile_append_of_pos differs,
    List.dropWhile_append_of_pos differs]
  simp

theorem append_cut (member : separator ∈ cs) :
    (cut separator cs).1 ++ separator :: (cut separator cs).2 = cs := by
  obtain ⟨front, rest, rfl, free⟩ := List.eq_append_cons_of_mem member
  rw [cut_append free]

end FormIntake.Text
