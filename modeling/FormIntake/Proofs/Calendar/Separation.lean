import FormIntake.Proofs.Calendar.Shown
import FormIntake.Settings

/-!
Lists of layouts that keep their texts apart: each text of a layout is read as it is meant by the
first layout of its list that fits it, and fits no layout of the other list. This can be checked
form by form.
-/

namespace FormIntake.Layout

def isPlain (layout : String) : Bool := (items layout.toList).all Item.isPlain

def tells (layout : String) (groups : List Group) : Bool :=
  groups.all Group.isWhole &&
    (items layout.toList).all fun item =>
      match item with
      | .numeral n => groups.any fun g => g.numeral = n
      | _ => true

/-- Whether the texts of a layout that have a form are read by `own`, and by none of `others`. -/
def isToldApart (own others : List String) (layout : String) (cells : List Cell) : Bool :=
  (own.findSome? (captureAll · cells)).any (tells layout) &&
    others.all fun other => (captureAll other cells).isNone

def isSeparate (own others : List String) : Bool :=
  own.all isPlain && others.all isPlain && own.all fun layout =>
    (forms (isSpaced layout) (items layout.toList)).all (isToldApart own others layout)

variable {own others : List String} {layout text : String} {t : LocalDateTime}
  {groups : List Group} {cells : List Cell}

theorem exists_group_of_tells (told : tells layout groups = true) {n : Numeral}
    (member : .numeral n ∈ items layout.toList) : ∃ g ∈ groups, g.numeral = n := by
  have all := (Bool.and_eq_true_iff.1 told).2
  have any := List.all_eq_true.1 all _ member
  simpa using any

theorem value_of_tells (told : tells layout groups = true)
    (captured : own.findSome? (captureAll · cells) = some groups)
    (fits : ∀ cell ∈ cells, cell.Fits t.part?) :
    ∀ g ∈ groups, ∃ v, t.part? g.numeral = some v ∧ g.value t.part? = v := by
  intro g member
  obtain ⟨winner, _, wins⟩ := List.exists_of_findSome?_eq_some captured
  have whole := List.all_eq_true.1 (Bool.and_eq_true_iff.1 told).1 g member
  apply Group.value_of_isWhole whole
  intro cell inGroup
  exact fits cell (subset_of_captureAll wins g member inGroup)

theorem foldlM_note?_partsOf (years : t.HasFourDigits)
    (right : ∀ g ∈ groups, ∃ v, t.part? g.numeral = some v ∧ g.value t.part? = v)
    (known : List Numeral) :
    groups.foldlM (Group.note? t.part?) (t.partsOf known) =
      some (t.partsOf ((groups.map (·.numeral)).reverse ++ known)) := by
  induction groups generalizing known with
  | nil => rfl
  | cons g groups ih =>
    obtain ⟨⟨v, part, value⟩, others⟩ := List.forall_mem_cons.1 right
    have noted : Group.note? t.part? (t.partsOf known) g =
        some (t.partsOf (g.numeral :: known)) := by
      rw [Group.note?, value, put?_partsOf years part]
    rw [List.foldlM_cons, noted]
    simpa using ih others (g.numeral :: known)

theorem findSome?_of_bind {α β γ : Type} {list : List α} {f : α → Option β} {g : β → Option γ}
    {h : α → Option γ} {b : β} {c : γ} (bound : ∀ a ∈ list, h a = (f a).bind g)
    (first : list.findSome? f = some b) (next : g b = some c) : list.findSome? h = some c := by
  induction list with
  | nil => cases first
  | cons a list ih =>
    obtain ⟨head, tail⟩ := List.forall_mem_cons.1 bound
    rw [List.findSome?_cons] at first ⊢
    cases found : f a with
    | none =>
      rw [found] at first
      rw [head, found]
      exact ih tail first
    | some b' =>
      rw [found] at first
      cases first
      simp [head, found, next]

/-- What a text of separate layouts tells, and who reads it. -/
structure Told (own others : List String) (layout : String) (t : LocalDateTime) (text : String)
    (known : List Numeral) : Prop where
  all : ∀ n, .numeral n ∈ items layout.toList → n ∈ known
  first : ∀ {α : Type} {make : Parts → Option α} {made : α}, make (t.partsOf known) = some made →
    own.findSome? (fun layout => (read layout text).bind make) = some made
  refused : ∀ other ∈ others, read other text = none

theorem Told.none_of_others {known : List Numeral} (told : Told own others layout t text known)
    {α : Type} (make : Parts → Option α) :
    others.findSome? (fun layout => (read layout text).bind make) = none := by
  apply List.findSome?_eq_none_iff.2
  intro other member
  rw [told.refused other member]
  rfl

theorem exists_told (separate : isSeparate own others = true) (member : layout ∈ own)
    (years : t.HasFourDigits) (written : Written layout t text) :
    ∃ known, Told own others layout t text known := by
  simp only [isSeparate, Bool.and_eq_true, List.all_eq_true] at separate
  obtain ⟨⟨ownPlain, othersPlain⟩, apart⟩ := separate
  obtain ⟨cells, form, same, fits⟩ := exists_form years written
  have isText : text = String.ofList (cells.map (Cell.char t.part?)) := by
    rw [← same, String.ofList_toList]
  have reads {layout : String} (plain : isPlain layout = true) :
      read layout text =
        (captureAll layout cells).bind fun groups => groups.foldlM (Group.note? t.part?) {} := by
    rw [isText]
    exact read_map t.part? (List.all_eq_true.1 plain) cells
  have here := apart layout member cells form
  simp only [isToldApart, Bool.and_eq_true, Option.any_eq_true, List.all_eq_true] at here
  obtain ⟨⟨groups, captured, told⟩, refused⟩ := here
  have right := value_of_tells told captured fits
  have noted := foldlM_note?_partsOf years right []
  refine ⟨(groups.map (·.numeral)).reverse ++ [], ?_, ?_, ?_⟩
  · intro n inLayout
    obtain ⟨g, inGroups, rfl⟩ := exists_group_of_tells told inLayout
    simpa using ⟨g, inGroups, rfl⟩
  · intro α make made makes
    -- Layouts in front of the one that takes these numbers have no parts to make anything of.
    have bound : ∀ layout ∈ own, (read layout text).bind make =
        (captureAll layout cells).bind fun groups =>
          (groups.foldlM (Group.note? t.part?) {}).bind make := by
      intro layout inOwn
      rw [reads (ownPlain layout inOwn), Option.bind_assoc]
    refine findSome?_of_bind bound captured ?_
    have empty : ({} : Parts) = t.partsOf [] := rfl
    rw [empty, noted]
    exact makes
  · intro other inOthers
    rw [reads (othersPlain other inOthers)]
    simp [Option.isNone_iff_eq_none.1 (refused other inOthers)]

theorem isSeparate_defaultDateLayouts :
    isSeparate Settings.defaultDateLayouts Settings.defaultDateTimeLayouts = true := by
  decide +kernel

theorem isSeparate_defaultDateTimeLayouts :
    isSeparate Settings.defaultDateTimeLayouts Settings.defaultDateLayouts = true := by
  decide +kernel

end FormIntake.Layout
