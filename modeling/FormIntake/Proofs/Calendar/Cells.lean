import FormIntake.Proofs.Calendar.Numeral

/-!
Texts of which only the form is known: which characters are marks, and which ones are the digits of
which number. The form alone decides where a layout reads a number and which digits it takes for it.
-/

namespace FormIntake.Layout

/-- A mark, or the digit at a place of a number that is written with `width` digits. -/
inductive Cell
  | mark (c : Char)
  | digit (n : Numeral) (width place : Nat)
  deriving DecidableEq

def Numeral.cells (n : Numeral) (width : Nat) : List Cell := (List.range width).map (.digit n width)

namespace Cell

def char (value : Numeral → Option Nat) : Cell → Char
  | mark c => c
  | digit n width place => (Rfc3339.padded width ((value n).getD 0)).getD place '0'

/-- Whether a digit belongs to a number that has no more digits than are written. -/
def Fits (value : Numeral → Option Nat) : Cell → Prop
  | mark _ => True
  | digit n width _ => ∃ v, value n = some v ∧ v < 10 ^ width

def isDigit : Cell → Bool
  | mark c => c.isDigit
  | digit .. => true

def isBlank : Cell → Bool
  | mark c => Text.isBlank c
  | digit .. => false

variable (value : Numeral → Option Nat)

theorem isDigit_char_digit (n : Numeral) (width place : Nat) :
    (char value (digit n width place)).isDigit = true := by
  simp only [char, List.getD_eq_getElem?_getD]
  cases found : (Rfc3339.padded width ((value n).getD 0))[place]? with
  | none => rfl
  | some c => exact Rfc3339.isDigit_of_mem_padded (List.mem_of_getElem? found)

theorem char_digit_ne {c : Char} (other : c.isDigit = false) (n : Numeral) (width place : Nat) :
    char value (digit n width place) ≠ c := by
  intro same
  have isDigit := isDigit_char_digit value n width place
  rw [same, other] at isDigit
  cases isDigit

theorem isDigit_char (cell : Cell) : (cell.char value).isDigit = cell.isDigit := by
  cases cell with
  | mark c => rfl
  | digit n width place => exact isDigit_char_digit value n width place

theorem isBlank_char (cell : Cell) : Text.isBlank (cell.char value) = cell.isBlank := by
  cases cell with
  | mark c => rfl
  | digit n width place => exact Text.isBlank_of_isDigit (isDigit_char_digit value n width place)

end Cell

theorem map_cells {value : Numeral → Option Nat} {n : Numeral} {width v : Nat}
    (positive : 0 < width) (known : value n = some v) (fits : v < 10 ^ width) :
    (n.cells width).map (Cell.char value) = Rfc3339.padded width v := by
  have length := Rfc3339.length_padded positive fits
  refine List.ext_getElem (by simp [Numeral.cells, length]) fun place inCells inText => ?_
  simp [Numeral.cells, Cell.char, known, inText]

structure Group where
  numeral : Numeral
  negative : Bool
  cells : List Cell
  deriving DecidableEq

def takeCells (width : Option Nat) (cells : List Cell) : Option (List Cell × List Cell) :=
  let digits := cells.takeWhile Cell.isDigit
  let taken :=
    match width with
    | some width => digits.take width
    | none => digits
  if taken.isEmpty then none else some (taken, cells.drop taken.length)

def Numeral.takeSign (n : Numeral) : List Cell → Bool × Option Nat × List Cell
  | .mark c :: cells =>
    if n.hasSign = true ∧ c = '-' then (true, none, cells)
    else if n.hasSign = true ∧ c = '+' then (false, none, cells)
    else (false, n.width, .mark c :: cells)
  | cells => (false, n.width, cells)

def takeGroup (n : Numeral) (cells : List Cell) : Option (Group × List Cell) :=
  let (negative, width, cells) := n.takeSign cells
  (takeCells width cells).map fun (taken, rest) => (⟨n, negative, taken⟩, rest)

/-- What a layout takes for numbers at the front of a text, and what follows. -/
def capture : List Item → List Cell → Option (List Group × List Cell)
  | [], cells => some ([], cells)
  | .literal c :: items, .mark d :: cells => if d = c then capture items cells else none
  | .blank :: items, cells => capture items (cells.dropWhile Cell.isBlank)
  | .numeral n :: items, cells => do
    let (group, rest) ← takeGroup n (cells.dropWhile Cell.isBlank)
    let (groups, rest) ← capture items rest
    return (group :: groups, rest)
  | _, _ => none

def captureAll (layout : String) (cells : List Cell) : Option (List Group) :=
  match capture (items layout.toList) cells with
  | some (groups, []) => some groups
  | _ => none

def Item.isPlain : Item → Bool
  | .literal c => !c.isDigit
  | .blank | .numeral _ => true
  | _ => false

namespace Group

def value (values : Numeral → Option Nat) (g : Group) : Int :=
  let n := Decimal.digitsValue (g.cells.map (Cell.char values))
  if g.negative then -n else n

def note? (values : Numeral → Option Nat) (p : Parts) (g : Group) : Option Parts :=
  p.put? g.numeral (g.value values)

def isWhole (g : Group) : Bool :=
  match g.cells with
  | .digit n width _ :: _ => !g.negative && n = g.numeral && g.cells = n.cells width
  | _ => false

theorem value_of_isWhole {values : Numeral → Option Nat} {g : Group} (whole : g.isWhole = true)
    (fits : ∀ cell ∈ g.cells, cell.Fits values) :
    ∃ v, values g.numeral = some v ∧ g.value values = v := by
  obtain ⟨numeral, negative, cells⟩ := g
  unfold isWhole at whole
  dsimp only at whole fits
  split at whole
  · next n width place others =>
    simp only [Bool.and_eq_true, Bool.not_eq_true', decide_eq_true_eq] at whole
    obtain ⟨⟨rfl, rfl⟩, spelled⟩ := whole
    obtain ⟨v, known, small⟩ := fits _ List.mem_cons_self
    have positive : 0 < width := by
      rcases Nat.eq_zero_or_pos width with rfl | positive
      · cases spelled
      · exact positive
    refine ⟨v, known, ?_⟩
    simp only [value, spelled, map_cells positive known small, Rfc3339.digitsValue_padded]
    rfl
  · cases whole

end Group

section

variable (value : Numeral → Option Nat)

theorem takeNumber_map (width : Option Nat) (cells : List Cell) :
    takeNumber width (cells.map (Cell.char value)) =
      (takeCells width cells).map fun (taken, rest) =>
        (Decimal.digitsValue (taken.map (Cell.char value)), rest.map (Cell.char value)) := by
  have digits : (cells.map (Cell.char value)).takeWhile Char.isDigit =
      (cells.takeWhile Cell.isDigit).map (Cell.char value) := by
    rw [List.takeWhile_map]
    congr 2
    funext cell
    exact Cell.isDigit_char value cell
  cases width with
  | none =>
    simp only [takeNumber, takeCells, digits, List.isEmpty_map, List.length_map]
    split <;> simp
  | some width =>
    simp only [takeNumber, takeCells, digits, ← List.map_take, List.isEmpty_map, List.length_map]
    split <;> simp

theorem dropBlank_map (cells : List Cell) :
    (cells.map (Cell.char value)).dropWhile Text.isBlank =
      (cells.dropWhile Cell.isBlank).map (Cell.char value) := by
  rw [List.dropWhile_map]
  congr 2
  funext cell
  exact Cell.isBlank_char value cell

theorem takeNumeral_of_unsigned {n : Numeral} {cs : List Char}
    (unsigned : n.hasSign = true → cs.head? ≠ some '-' ∧ cs.head? ≠ some '+') :
    takeNumeral n cs = (takeNumber n.width cs).map fun (value, rest) => ((value : Int), rest) := by
  unfold takeNumeral
  split
  · next signed => exact absurd rfl (unsigned signed).1
  · next signed => exact absurd rfl (unsigned signed).2
  · rfl

theorem takeSign_of_unsigned {n : Numeral} {cells : List Cell}
    (unsigned : n.hasSign = true →
      cells.head? ≠ some (.mark '-') ∧ cells.head? ≠ some (.mark '+')) :
    n.takeSign cells = (false, n.width, cells) := by
  unfold Numeral.takeSign
  split
  · next c cells =>
    have notMinus : ¬ (n.hasSign = true ∧ c = '-') := fun ⟨signed, same⟩ =>
      (unsigned signed).1 (by rw [same]; rfl)
    have notPlus : ¬ (n.hasSign = true ∧ c = '+') := fun ⟨signed, same⟩ =>
      (unsigned signed).2 (by rw [same]; rfl)
    rw [if_neg notMinus, if_neg notPlus]
  · rfl

theorem numeral_of_takeGroup {n : Numeral} {cells rest : List Cell} {group : Group}
    (found : takeGroup n cells = some (group, rest)) : group.numeral = n := by
  obtain ⟨_, _, same⟩ := Option.map_eq_some_iff.1 found
  cases same
  rfl

theorem head?_map_eq_some {cells : List Cell} {c : Char} (other : c.isDigit = false) :
    (cells.map (Cell.char value)).head? = some c ↔ cells.head? = some (.mark c) := by
  cases cells with
  | nil => simp
  | cons cell cells =>
    cases cell with
    | mark d => simp [Cell.char]
    | digit n width place => simp [Cell.char_digit_ne value other n width place]

theorem takeNumeral_map (n : Numeral) (cells : List Cell) :
    takeNumeral n (cells.map (Cell.char value)) =
      (takeGroup n cells).map fun (group, rest) =>
        (group.value value, rest.map (Cell.char value)) := by
  by_cases signed : n.hasSign = true ∧
      (cells.head? = some (.mark '-') ∨ cells.head? = some (.mark '+'))
  · obtain ⟨hasSign, minus | plus⟩ := signed
    · obtain ⟨rest, rfl⟩ := List.head?_eq_some_iff.1 minus
      simp [takeNumeral, takeGroup, Numeral.takeSign, hasSign, Cell.char, takeNumber_map,
        Group.value, Function.comp_def]
    · obtain ⟨rest, rfl⟩ := List.head?_eq_some_iff.1 plus
      simp [takeNumeral, takeGroup, Numeral.takeSign, hasSign, Cell.char, takeNumber_map,
        Group.value, Function.comp_def]
  · have unsigned : n.hasSign = true →
        cells.head? ≠ some (.mark '-') ∧ cells.head? ≠ some (.mark '+') := fun hasSign =>
      not_or.1 fun sign => signed ⟨hasSign, sign⟩
    have unsigned' : n.hasSign = true → (cells.map (Cell.char value)).head? ≠ some '-' ∧
        (cells.map (Cell.char value)).head? ≠ some '+' := by
      rw [ne_eq, ne_eq, head?_map_eq_some value (by decide), head?_map_eq_some value (by decide)]
      exact unsigned
    rw [takeNumeral_of_unsigned unsigned', takeNumber_map, takeGroup,
      takeSign_of_unsigned unsigned]
    simp [Group.value, Function.comp_def]

theorem readItems_map {items : List Item} (plain : ∀ item ∈ items, item.isPlain = true) (p : Parts)
    (cells : List Cell) :
    readItems p (cells.map (Cell.char value)) items =
      (capture items cells).bind fun (groups, rest) =>
        (groups.foldlM (Group.note? value) p).map (·, rest.map (Cell.char value)) := by
  induction items generalizing p cells with
  | nil => rfl
  | cons item items ih =>
    have rest := fun other member => plain other (List.mem_cons_of_mem _ member)
    have head := plain item List.mem_cons_self
    cases item with
    | literal c =>
      have other : c.isDigit = false := Bool.not_eq_eq_eq_not.1 head
      cases cells with
      | nil => rfl
      | cons cell cells =>
        cases cell with
        | mark d =>
          by_cases same : d = c
          · simp only [List.map_cons, readItems, readItem, Cell.char, capture, if_pos same,
              Option.bind_eq_bind, Option.bind_some]
            exact ih rest p cells
          · simp [readItems, readItem, Cell.char, capture, same]
        | digit n width place =>
          have differs := Cell.char_digit_ne value other n width place
          simp [readItems, readItem, capture, differs]
    | blank =>
      simp only [readItems, readItem, dropBlank_map, capture, Option.bind_eq_bind, Option.bind_some]
      exact ih rest _ _
    | numeral n =>
      simp only [readItems, readItem, dropBlank_map, takeNumeral_map, capture]
      cases takes : takeGroup n (cells.dropWhile Cell.isBlank) with
      | none => rfl
      | some found =>
        obtain ⟨group, left⟩ := found
        have named : group.numeral = n := numeral_of_takeGroup takes
        have first (groups : List Group) : (group :: groups).foldlM (Group.note? value) p =
            (p.put? n (group.value value)).bind fun q => groups.foldlM (Group.note? value) q := by
          rw [List.foldlM_cons, Group.note?, named]
          rfl
        simp only [Option.map_some, Option.bind_eq_bind, Option.bind_some, Option.pure_def]
        -- The form goes on to be read even where the value of this number is refused.
        cases noted : p.put? n (group.value value) with
        | none => cases capture items left <;> simp [first, noted]
        | some q =>
          simp only [Option.bind_some, ih rest q left]
          cases capture items left <;> simp [first, noted]
    | _ => cases head

theorem read_map {layout : String} (plain : ∀ item ∈ items layout.toList, item.isPlain = true)
    (cells : List Cell) :
    read layout (String.ofList (cells.map (Cell.char value))) =
      (captureAll layout cells).bind fun groups => groups.foldlM (Group.note? value) {} := by
  unfold read captureAll
  rw [String.toList_ofList, readItems_map value plain]
  cases capture (items layout.toList) cells with
  | none => rfl
  | some found =>
    obtain ⟨groups, rest⟩ := found
    cases rest with
    | nil =>
      dsimp only [Option.bind_some]
      cases groups.foldlM (Group.note? value) {} <;> rfl
    | cons cell rest =>
      dsimp only [Option.bind_some]
      cases groups.foldlM (Group.note? value) {} <;> rfl

end

theorem subset_of_takeCells {width : Option Nat} {cells taken rest : List Cell}
    (found : takeCells width cells = some (taken, rest)) : taken ⊆ cells ∧ rest ⊆ cells := by
  have digits : cells.takeWhile Cell.isDigit ⊆ cells := (List.takeWhile_sublist _).subset
  cases width with
  | none =>
    simp only [takeCells] at found
    split at found
    · cases found
    · cases found
      exact ⟨digits, List.drop_subset _ _⟩
  | some width =>
    simp only [takeCells] at found
    split at found
    · cases found
    · cases found
      exact ⟨List.Subset.trans (List.take_subset _ _) digits, List.drop_subset _ _⟩

theorem takeSign_subset (n : Numeral) (cells : List Cell) : (n.takeSign cells).2.2 ⊆ cells := by
  unfold Numeral.takeSign
  split
  · split
    · exact List.subset_cons_self _ _
    · split
      · exact List.subset_cons_self _ _
      · exact fun _ member => member
  · exact fun _ member => member

theorem subset_of_takeGroup {n : Numeral} {cells rest : List Cell} {group : Group}
    (found : takeGroup n cells = some (group, rest)) : group.cells ⊆ cells ∧ rest ⊆ cells := by
  obtain ⟨⟨taken, left⟩, takes, same⟩ := Option.map_eq_some_iff.1 found
  cases same
  have inSigned := subset_of_takeCells takes
  have signed := takeSign_subset n cells
  exact ⟨List.Subset.trans inSigned.1 signed, List.Subset.trans inSigned.2 signed⟩

theorem subset_of_capture {items : List Item} {cells rest : List Cell} {groups : List Group}
    (found : capture items cells = some (groups, rest)) :
    ∀ group ∈ groups, group.cells ⊆ cells := by
  induction items generalizing cells groups with
  | nil => cases found; simp
  | cons item items ih =>
    cases item with
    | literal c =>
      match cells with
      | [] => cases found
      | .digit .. :: cells => cases found
      | .mark d :: cells =>
        simp only [capture] at found
        split at found
        · intro group member
          exact List.Subset.trans (ih found group member) (List.subset_cons_self _ _)
        · cases found
    | blank =>
      intro group member
      exact List.Subset.trans (ih found group member) (List.dropWhile_sublist _).subset
    | numeral n =>
      obtain ⟨⟨first, left⟩, takes, found⟩ := Option.bind_eq_some_iff.1 found
      obtain ⟨⟨others, last⟩, captured, found⟩ := Option.bind_eq_some_iff.1 found
      cases found
      have unblank : cells.dropWhile Cell.isBlank ⊆ cells := (List.dropWhile_sublist _).subset
      have taken := subset_of_takeGroup takes
      refine List.forall_mem_cons.2 ⟨List.Subset.trans taken.1 unblank, fun group member => ?_⟩
      exact List.Subset.trans (ih captured group member) (List.Subset.trans taken.2 unblank)
    | _ => cases found

theorem subset_of_captureAll {layout : String} {cells : List Cell} {groups : List Group}
    (found : captureAll layout cells = some groups) : ∀ group ∈ groups, group.cells ⊆ cells := by
  unfold captureAll at found
  split at found
  · next captured => cases found; exact subset_of_capture captured
  · cases found

end FormIntake.Layout
