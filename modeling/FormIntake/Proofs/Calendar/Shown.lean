import FormIntake.Proofs.Calendar.Cells
import FormIntake.Proofs.Calendar.Rfc3339

namespace FormIntake

open Layout

namespace LocalDateTime

def HasFourDigits (t : LocalDateTime) : Prop := 1000 ≤ t.date.year ∧ t.date.year ≤ 9999

def part? (t : LocalDateTime) : Numeral → Option Nat
  | .year => some t.date.year.toNat
  | .month => some t.date.month
  | .day => some t.date.day
  | .hour => some t.time.hour
  | .minute => some t.time.minute
  | .second => some t.time.second
  | _ => none

end LocalDateTime

namespace Layout

def isSpaced (layout : String) : Bool :=
  (items layout.toList).any fun item =>
    match item with
    | .numeral _ => false
    | _ => true

/-- `cs` is written item by item. Numbers have their full width, or may also have no zeros in front
if the text is loose. -/
inductive Shows (t : LocalDateTime) (loose : Bool) : List Item → List Char → Prop
  | done : Shows t loose [] []
  | literal {c : Char} {items : List Item} {cs : List Char} (rest : Shows t loose items cs) :
      Shows t loose (.literal c :: items) (c :: cs)
  | blank {items : List Item} {cs : List Char} (rest : Shows t loose items cs) :
      Shows t loose (.blank :: items) (' ' :: cs)
  | padded {n : Numeral} {width value : Nat} {items : List Item} {cs : List Char}
      (bound : n.width = some width) (part : t.part? n = some value)
      (rest : Shows t loose items cs) :
      Shows t loose (.numeral n :: items) (Rfc3339.padded width value ++ cs)
  | bare {n : Numeral} {value : Nat} {items : List Item} {cs : List Char}
      (isLoose : loose = true) (part : t.part? n = some value) (rest : Shows t loose items cs) :
      Shows t loose (.numeral n :: items) (Nat.toDigits 10 value ++ cs)

/-- The text is a date and time in a layout; where numbers touch, all have their full width. -/
def Written (layout : String) (t : LocalDateTime) (text : String) : Prop :=
  Shows t (isSpaced layout) (items layout.toList) text.toList

theorem Shows.ne_nil {t : LocalDateTime} {loose : Bool} {items : List Item} {cs : List Char}
    (shows : Shows t loose items cs) (filled : items ≠ []) : cs ≠ [] := by
  cases shows with
  | done => exact absurd rfl filled
  | literal | blank => simp
  | padded => exact List.append_ne_nil_of_left_ne_nil (Rfc3339.padded_ne_nil _ _) _
  | bare => exact List.append_ne_nil_of_left_ne_nil Nat.toDigits_ne_nil _

def Numeral.widths (n : Numeral) (loose : Bool) : List Nat :=
  match n.width with
  | none => []
  | some width => if loose = true ∧ n ≠ .year then List.range' 1 width else [width]

def forms (loose : Bool) : List Item → List (List Cell)
  | [] => [[]]
  | .literal c :: items => (forms loose items).map (.mark c :: ·)
  | .blank :: items => (forms loose items).map (.mark ' ' :: ·)
  | .numeral n :: items =>
    (n.widths loose).flatMap fun width => (forms loose items).map (n.cells width ++ ·)
  | _ => []

section

variable {t : LocalDateTime} {loose : Bool} {n : Numeral} {width value : Nat}

theorem width_of_part? (part : t.part? n = some value) : ∃ width, n.width = some width := by
  cases n <;> first | exact ⟨_, rfl⟩ | cases part

theorem part_lt (years : t.HasFourDigits) (bound : n.width = some width)
    (part : t.part? n = some value) : value < 10 ^ width := by
  have month := t.date.month_mem
  have day := t.date.day_mem
  have time := t.time.inDay
  have year := years.2
  cases n <;> cases bound <;> cases part <;> omega

theorem le_part_year (years : t.HasFourDigits) : 1000 ≤ t.date.year.toNat := by
  have year := years.1
  omega

theorem eq_padded_toDigits (value : Nat) :
    Nat.toDigits 10 value = Rfc3339.padded (Nat.toDigits 10 value).length value := by
  simp [Rfc3339.padded]

theorem width_pos (bound : n.width = some width) : 0 < width := by
  cases n <;> cases bound <;> decide

theorem mem_widths_of_padded (bound : n.width = some width) : width ∈ n.widths loose := by
  have positive := width_pos bound
  simp only [Numeral.widths, bound]
  split
  · rw [List.mem_range'_1]
    omega
  · exact List.mem_singleton_self width

theorem mem_widths_of_bare (years : t.HasFourDigits) (bound : n.width = some width)
    (part : t.part? n = some value) : (Nat.toDigits 10 value).length ∈ n.widths true := by
  have small := part_lt years bound part
  have positive : 0 < (Nat.toDigits 10 value).length := Nat.length_toDigits_pos
  have positive := width_pos bound
  have short := (Nat.length_toDigits_le_iff (by decide) positive).2 small
  simp only [Numeral.widths, bound, true_and]
  by_cases isYear : n = .year
  · subst isYear
    cases bound
    cases part
    have long : ¬ (Nat.toDigits 10 t.date.year.toNat).length ≤ 3 := by
      rw [Nat.length_toDigits_le_iff (by decide) (by decide)]
      have := le_part_year years
      omega
    simp
    omega
  · rw [if_pos isYear, List.mem_range'_1]
    omega

end

theorem form_of_number {t : LocalDateTime} {loose : Bool} {n : Numeral} {width value : Nat}
    {items : List Item} {cs : List Char} (member : width ∈ n.widths loose) (positive : 0 < width)
    (part : t.part? n = some value) (small : value < 10 ^ width)
    (rest : ∃ cells ∈ forms loose items,
      cs = cells.map (Cell.char t.part?) ∧ ∀ cell ∈ cells, cell.Fits t.part?) :
    ∃ cells ∈ forms loose (.numeral n :: items),
      Rfc3339.padded width value ++ cs = cells.map (Cell.char t.part?) ∧
        ∀ cell ∈ cells, cell.Fits t.part? := by
  obtain ⟨cells, form, rfl, fits⟩ := rest
  refine ⟨n.cells width ++ cells, ?_, ?_, ?_⟩
  · exact List.mem_flatMap.2 ⟨width, member, List.mem_map_of_mem form⟩
  · rw [List.map_append, map_cells positive part small]
  · intro cell inText
    rcases List.mem_append.1 inText with inNumber | inRest
    · obtain ⟨place, _, rfl⟩ := List.mem_map.1 inNumber
      exact ⟨value, part, small⟩
    · exact fits cell inRest

theorem exists_form {t : LocalDateTime} {loose : Bool} {items : List Item} {cs : List Char}
    (years : t.HasFourDigits) (shows : Shows t loose items cs) :
    ∃ cells ∈ forms loose items,
      cs = cells.map (Cell.char t.part?) ∧ ∀ cell ∈ cells, cell.Fits t.part? := by
  induction shows with
  | done => exact ⟨[], List.mem_singleton_self [], rfl, by simp⟩
  | literal _ ih =>
    obtain ⟨cells, form, rfl, fits⟩ := ih
    exact ⟨_, List.mem_map_of_mem form, rfl, List.forall_mem_cons.2 ⟨trivial, fits⟩⟩
  | blank _ ih =>
    obtain ⟨cells, form, rfl, fits⟩ := ih
    exact ⟨_, List.mem_map_of_mem form, rfl, List.forall_mem_cons.2 ⟨trivial, fits⟩⟩
  | padded bound part _ ih =>
    exact form_of_number (mem_widths_of_padded bound) (width_pos bound) part
      (part_lt years bound part) ih
  | @bare n value _ _ isLoose part _ ih =>
    -- Without zeros in front, a number has the width of its own digits.
    obtain ⟨width, bound⟩ := width_of_part? part
    have positive : 0 < (Nat.toDigits 10 value).length := Nat.length_toDigits_pos
    rw [eq_padded_toDigits]
    refine form_of_number ?_ positive part ?_ ih
    · rw [isLoose]
      exact mem_widths_of_bare years bound part
    · exact (Nat.length_toDigits_le_iff (by decide) positive).1 (Nat.le_refl _)

end Layout

def LocalDateTime.partsOf (t : LocalDateTime) (known : List Numeral) : Parts where
  year := if .year ∈ known then some t.date.year else none
  month := if .month ∈ known then some t.date.month else none
  day := if .day ∈ known then some t.date.day else none
  half := if .hour ∈ known then some (t.time.hour / 12) else none
  hourOfHalf := if .hour ∈ known then some (t.time.hour % 12) else none
  minute := if .minute ∈ known then some t.time.minute else none
  second := if .second ∈ known then some t.time.second else none

namespace Layout

variable {t : LocalDateTime} {known : List Numeral}

theorem agree?_ite {α : Type} [DecidableEq α] (p : Prop) [Decidable p] (value : α) :
    agree? (if p then some value else none) value = some (some value) := by
  split <;> simp [agree?]

theorem put?_partsOf (years : t.HasFourDigits) {n : Numeral} {value : Nat}
    (part : t.part? n = some value) (known : List Numeral) :
    (t.partsOf known).put? n value = some (t.partsOf (n :: known)) := by
  have month := t.date.month_mem
  have day := t.date.day_mem
  have time := t.time.inDay
  obtain ⟨early, late⟩ := years
  have year : ((t.date.year.toNat : Nat) : Int) = t.date.year := by omega
  have inBounds : (Parts.bounds n).1 ≤ value ∧ value ≤ (Parts.bounds n).2 := by
    cases n <;> cases part <;> simp only [Parts.bounds] <;> omega
  rw [Parts.put?_of_bounds inBounds]
  cases n <;> cases part <;>
    simp [Parts.note?, LocalDateTime.partsOf, agree?_ite, year]

theorem date?_partsOf (year : .year ∈ known) (month : .month ∈ known) (day : .day ∈ known) :
    (t.partsOf known).date? = some t.date := by
  have candidate : (t.partsOf known).candidate? (some t.date.year) none = some t.date := by
    simp only [Parts.candidate?, LocalDateTime.partsOf, if_pos month, if_pos day]
    exact Date.ofYmd?_self t.date
  have admits : (t.partsOf known).admits t.date = true := by
    simp [LocalDateTime.partsOf, Parts.admits, Parts.fitsYear, year, month, day]
  have resolved : (t.partsOf known).date? =
      ((t.partsOf known).candidate? (if .year ∈ known then some t.date.year else none) none).bind
        fun date => if (t.partsOf known).admits date then some date else none := rfl
  rw [resolved, if_pos year, candidate, Option.bind_some, if_pos admits]

theorem time?_partsOf (hour : .hour ∈ known) (minute : .minute ∈ known)
    (second : .second ∈ known ∨ t.time.second = 0) (whole : t.time.nanosecond = 0) :
    (t.partsOf known).time? = some t.time := by
  have bounds := t.time.inDay
  have hours : 12 * (t.time.hour / 12) + t.time.hour % 12 = t.time.hour := Nat.div_add_mod _ 12
  have seconds : (if .second ∈ known then some t.time.second else none).getD 0 = t.time.second := by
    split
    · rfl
    · next unknown => exact (second.resolve_left unknown).symm
  have notSixty : t.time.second ≠ 60 := by omega
  have self := t.time.of?_self
  rw [whole] at self
  simp only [LocalDateTime.partsOf, Parts.time?, if_pos hour, if_pos minute, seconds, hours,
    Option.bind_eq_bind, Option.bind_some, Option.getD_none, Option.isSome_none, Bool.and_false,
    Bool.false_eq_true, if_false, if_neg notSixty, self]

theorem localDateTime?_partsOf (date : (t.partsOf known).date? = some t.date)
    (time : (t.partsOf known).time? = some t.time) :
    (t.partsOf known).localDateTime? = some t := by
  simp only [Parts.localDateTime?, date, time]
  rfl

end Layout

end FormIntake
