import FormIntake.Proofs.Field.LimitForm

namespace FormIntake.Limit

open Decimal

def greatestBound (typeName : String) : Nat :=
  if typeName ∈ ["int64", "float"] then 2 ^ 63 - 1 else 2 ^ 31 - 1

def Accepts (item : List Char) (n : Int) : Prop := Integer.Writes item n ∧ IntWidth.i64.holds n

/-- What an expression means as the limit of fields of a type. -/
inductive Means (typeName expr : String) : Except FormError (Option Limit) → Prop
  | unlimited (empty : expr = "") : Means typeName expr (.ok none)
  | pattern {source : List Char} {p : Pattern}
      (marked : expr.toList = 'r' :: 'e' :: ':' :: source)
      (reads : Pattern.read (String.ofList source) = some p) :
      Means typeName expr (.ok (some (.pattern (String.ofList source) p)))
  | badPattern {source : List Char} (marked : expr.toList = 'r' :: 'e' :: ':' :: source)
      (fails : Pattern.read (String.ofList source) = none) :
      Means typeName expr (.error (.invalidLimit expr .badPattern))
  | length (form : Positive expr.toList) (type : typeName ∈ ["string", "int", "int64"])
      (fits : digitsValue expr.toList ≤ 2 ^ 31 - 1) :
      Means typeName expr (.ok (some (.length (digitsValue expr.toList))))
  | longLength (form : Positive expr.toList) (type : typeName ∈ ["string", "int", "int64"])
      (exceeds : 2 ^ 31 - 1 < digitsValue expr.toList) :
      Means typeName expr (.error (.invalidLimit expr .lengthOutOfRange))
  | noLength (form : Positive expr.toList) (type : typeName ∉ ["string", "int", "int64"]) :
      Means typeName expr (.error (.limitMismatch expr typeName))
  | intRange {least greatest : List Char} (form : IntRange expr.toList least greatest)
      (leastFits : digitsValue least ≤ greatestBound typeName)
      (greatestFits : digitsValue greatest ≤ greatestBound typeName)
      (inOrder : digitsValue least ≤ digitsValue greatest) :
      Means typeName expr (.ok (some (.intRange (digitsValue least) (digitsValue greatest))))
  | longBound {least greatest : List Char} (form : IntRange expr.toList least greatest)
      (exceeds : greatestBound typeName < digitsValue least ∨
        greatestBound typeName < digitsValue greatest) :
      Means typeName expr (.error (.invalidLimit expr (.badBound .tooLarge)))
  | emptyIntRange {least greatest : List Char} (form : IntRange expr.toList least greatest)
      (leastFits : digitsValue least ≤ greatestBound typeName)
      (greatestFits : digitsValue greatest ≤ greatestBound typeName)
      (reversed : digitsValue greatest < digitsValue least) :
      Means typeName expr (.error (.invalidLimit expr .upperBelowLower))
  | floatRange {x y : Binary64} (form : FloatRange expr.toList x y) (type : typeName = "float")
      (inOrder : y.lt x = false) : Means typeName expr (.ok (some (.floatRange x y)))
  | emptyFloatRange {x y : Binary64} (form : FloatRange expr.toList x y)
      (type : typeName = "float") (reversed : y.lt x = true) :
      Means typeName expr (.error (.invalidLimit expr .upperBelowLower))
  | noFloatRange {x y : Binary64} (form : FloatRange expr.toList x y) (type : typeName ≠ "float") :
      Means typeName expr (.error (.limitMismatch expr typeName))
  | emptyItem {items : List (List Char)} (form : Listing expr.toList items) (empty : [] ∈ items) :
      Means typeName expr (.error (.invalidLimit expr .emptyItem))
  | texts {items : List (List Char)} (form : Listing expr.toList items) (full : [] ∉ items)
      (type : typeName = "string") :
      Means typeName expr (.ok (some (.texts (items.map String.ofList))))
  | ints {items : List (List Char)} {accepted : List Int} (form : Listing expr.toList items)
      (full : [] ∉ items) (type : typeName ∈ ["int", "int64"])
      (accepts : List.Forall₂ Accepts items accepted) :
      Means typeName expr (.ok (some (.ints accepted)))
  | badItem {before after : List (List Char)} {item : List Char} {fault : IntegerFault}
      (form : Listing expr.toList (before ++ item :: after)) (full : [] ∉ before ++ item :: after)
      (type : typeName ∈ ["int", "int64"]) (good : ∀ other ∈ before, ∃ n, Accepts other n)
      (fails : Integer.read .i64 item = .error fault) :
      Means typeName expr (.error (.invalidLimit expr (.badItem fault)))
  | noList {items : List (List Char)} (form : Listing expr.toList items) (full : [] ∉ items)
      (type : typeName ∉ ["string", "int", "int64"]) :
      Means typeName expr (.error (.limitMismatch expr typeName))

section

variable {typeName : String} {cs least greatest : List Char}

theorem parseLength_of_positive (form : Positive cs) :
    parseLength cs =
      if digitsValue cs ≤ 2 ^ 31 - 1 then .ok (.length (digitsValue cs))
      else .error .lengthOutOfRange := by
  rw [parseLength, Integer.read_of_digits form.1]
  by_cases fits : digitsValue cs ≤ 2 ^ 31 - 1
  · have small : (digitsValue cs : Int) ≤ IntWidth.i32.greatest := by
      simp only [IntWidth.greatest]
      omega
    rw [if_pos small, if_pos fits]
    rfl
  · have large : ¬ (digitsValue cs : Int) ≤ IntWidth.i32.greatest := by
      simp only [IntWidth.greatest]
      omega
    rw [if_neg large, if_neg fits]

theorem greatest_boundWidth (typeName : String) :
    (boundWidth typeName).greatest = greatestBound typeName := by
  by_cases wide : typeName = "int64" ∨ typeName = "float"
  · simp [boundWidth, greatestBound, wide, IntWidth.greatest]
  · simp [boundWidth, greatestBound, wide, IntWidth.greatest]

theorem parseBound_of_digits (digits : Digits cs) :
    parseBound (boundWidth typeName) cs =
      if digitsValue cs ≤ greatestBound typeName then .ok (digitsValue cs : Int)
      else .error (.badBound .tooLarge) := by
  rw [parseBound, Integer.read_of_digits digits, greatest_boundWidth]
  by_cases fits : digitsValue cs ≤ greatestBound typeName
  · rw [if_pos (by omega), if_pos fits]; rfl
  · rw [if_neg (by omega), if_neg fits]; rfl

theorem parseIntRange_of_digits (low : Digits least) (high : Digits greatest) :
    parseIntRange (boundWidth typeName) least greatest =
      if digitsValue least ≤ greatestBound typeName ∧
          digitsValue greatest ≤ greatestBound typeName then
        if digitsValue greatest < digitsValue least then .error .upperBelowLower
        else .ok (.intRange (digitsValue least) (digitsValue greatest))
      else .error (.badBound .tooLarge) := by
  rw [parseIntRange, parseBound_of_digits low, parseBound_of_digits high]
  by_cases leastFits : digitsValue least ≤ greatestBound typeName
  · by_cases greatestFits : digitsValue greatest ≤ greatestBound typeName
    · simp only [leastFits, greatestFits, and_self, ↓reduceIte, bind, Except.bind, Int.ofNat_lt]
    · simp only [leastFits, greatestFits, and_false, ↓reduceIte, bind, Except.bind]
  · simp only [leastFits, false_and, ↓reduceIte, bind, Except.bind]

theorem parseFloatRange_of_fractions {x y : Binary64} (low : Fraction least x)
    (high : Fraction greatest y) :
    parseFloatRange least greatest =
      if y.lt x then .error .upperBelowLower else .ok (.floatRange x y) := by
  rw [parseFloatRange, read_of_fraction low, read_of_fraction high]

theorem parseItem_eq_ok_iff {item : List Char} {n : Int} :
    parseItem item = .ok n ↔ Accepts item n := by
  have signed : IntWidth.i64.least ≠ 0 := by decide
  rw [Accepts, ← Integer.read_eq_ok_iff signed, parseItem]
  cases Integer.read .i64 item <;> simp [Except.mapError]

theorem mapM_parseItem_of_accepts {items : List (List Char)} {accepted : List Int}
    (accepts : List.Forall₂ Accepts items accepted) : items.mapM parseItem = .ok accepted := by
  induction accepts with
  | nil => rfl
  | cons first _ ih =>
    rw [List.mapM_cons, parseItem_eq_ok_iff.2 first, ih]
    rfl

theorem mapM_parseItem_of_fails {before after : List (List Char)} {item : List Char}
    {fault : IntegerFault} (good : ∀ other ∈ before, ∃ n, Accepts other n)
    (fails : Integer.read .i64 item = .error fault) :
    (before ++ item :: after).mapM parseItem = .error (.badItem fault) := by
  induction before with
  | nil => rw [List.nil_append, List.mapM_cons, parseItem, fails]; rfl
  | cons other before ih =>
    obtain ⟨n, accepts⟩ := good other List.mem_cons_self
    rw [List.cons_append, List.mapM_cons, parseItem_eq_ok_iff.2 accepts,
      ih fun later member => good later (List.mem_cons_of_mem _ member)]
    rfl

theorem accepts_or_fails (items : List (List Char)) :
    (∃ accepted, List.Forall₂ Accepts items accepted) ∨
      ∃ before item after fault, items = before ++ item :: after ∧
        (∀ other ∈ before, ∃ n, Accepts other n) ∧ Integer.read .i64 item = .error fault := by
  induction items with
  | nil => exact .inl ⟨[], .nil⟩
  | cons item items ih =>
    cases found : Integer.read .i64 item with
    | error fault => exact .inr ⟨[], item, items, fault, rfl, by simp, found⟩
    | ok n =>
      have accepts : Accepts item n := (Integer.read_eq_ok_iff (by decide)).1 found
      rcases ih with ⟨accepted, all⟩ | ⟨before, bad, after, fault, rfl, good, fails⟩
      · exact .inl ⟨n :: accepted, .cons accepts all⟩
      · refine .inr ⟨item :: before, bad, after, fault, rfl, ?_, fails⟩
        exact List.forall_mem_cons.2 ⟨⟨n, accepts⟩, good⟩

end

section

variable {typeName expr : String} {least greatest : List Char} {x y : Binary64}
  {items : List (List Char)}

def ofForm (expr : String) (result : Except LimitFault Limit) : Except FormError (Option Limit) :=
  (result.map some).mapError (.invalidLimit expr)

theorem parse_of_marked {source : List Char} (marked : expr.toList = 'r' :: 'e' :: ':' :: source) :
    parse typeName expr =
      match Pattern.read (String.ofList source) with
      | some p => .ok (some (.pattern (String.ofList source) p))
      | none => .error (.invalidLimit expr .badPattern) := by
  rw [parse, marked]
  rfl

theorem parse_of_unmarked (nonempty : expr.toList ≠ [])
    (unmarked : ∀ source, expr.toList ≠ 'r' :: 'e' :: ':' :: source) :
    parse typeName expr =
      if isLength expr.toList then
        if hasLength typeName then ofForm expr (parseLength expr.toList)
        else .error (.limitMismatch expr typeName)
      else
        match intBounds? expr.toList with
        | some (least, greatest) => ofForm expr (parseIntRange (boundWidth typeName) least greatest)
        | none =>
          match floatBounds? expr.toList with
          | some (least, greatest) =>
            if typeName = "float" then ofForm expr (parseFloatRange least greatest)
            else .error (.limitMismatch expr typeName)
          | none =>
            let items := Text.pieces ',' expr.toList
            if items.any List.isEmpty then .error (.invalidLimit expr .emptyItem)
            else if typeName = "string" then .ok (some (.texts (items.map String.ofList)))
            else if typeName = "int" ∨ typeName = "int64" then
              ofForm expr ((items.mapM parseItem).map .ints)
            else .error (.limitMismatch expr typeName) := by
  unfold parse
  split
  · next empty => exact absurd empty nonempty
  · next source marked => exact absurd marked (unmarked source)
  · rfl

theorem hasLength_iff : hasLength typeName = true ↔ typeName ∈ ["string", "int", "int64"] := by
  simp [hasLength, or_assoc]

theorem parse_of_positive (form : Positive expr.toList) :
    parse typeName expr =
      if typeName ∈ ["string", "int", "int64"] then
        if digitsValue expr.toList ≤ 2 ^ 31 - 1 then
          .ok (some (.length (digitsValue expr.toList)))
        else .error (.invalidLimit expr .lengthOutOfRange)
      else .error (.limitMismatch expr typeName) := by
  have unmarked := unmarked_of_not_mem (form.1.not_mem (c := 'r') (by decide))
  rw [parse_of_unmarked form.1.1 unmarked, if_pos (isLength_iff.2 form),
    parseLength_of_positive form]
  simp only [hasLength_iff]
  split
  · split <;> rfl
  · rfl

theorem isLength_eq_false (other : ¬ Positive expr.toList) : isLength expr.toList = false := by
  rw [Bool.eq_false_iff, ne_eq, isLength_iff]
  exact other

theorem parse_of_intRange (form : IntRange expr.toList least greatest) :
    parse typeName expr = ofForm expr (parseIntRange (boundWidth typeName) least greatest) := by
  have nonempty : expr.toList ≠ [] := by simp [form.joined]
  rw [parse_of_unmarked nonempty form.unmarked, isLength_eq_false form.not_positive,
    intBounds?_eq_some_iff.2 form]
  rfl

theorem intBounds?_eq_none (other : ∀ least greatest, ¬ IntRange expr.toList least greatest) :
    intBounds? expr.toList = none := by
  refine Option.eq_none_iff_forall_ne_some.2 fun bounds found => ?_
  exact other bounds.1 bounds.2 (intBounds?_eq_some_iff.1 found)

theorem parse_of_floatRange (form : FloatRange expr.toList x y) :
    parse typeName expr =
      if typeName = "float" then
        if y.lt x then .error (.invalidLimit expr .upperBelowLower)
        else .ok (some (.floatRange x y))
      else .error (.limitMismatch expr typeName) := by
  obtain ⟨least, greatest, bounds, low, high⟩ := form.bounds
  have nonempty : expr.toList ≠ [] := by simp [(floatBounds?_eq_some_iff.1 bounds).1]
  rw [parse_of_unmarked nonempty form.unmarked, isLength_eq_false form.not_positive,
    intBounds?_eq_none fun _ _ => form.not_intRange, bounds]
  simp only [Bool.false_eq_true, ↓reduceIte, parseFloatRange_of_fractions low high]
  split
  · split <;> rfl
  · rfl

theorem parse_of_listing (form : Listing expr.toList items) :
    parse typeName expr =
      if [] ∈ items then .error (.invalidLimit expr .emptyItem)
      else if typeName = "string" then .ok (some (.texts (items.map String.ofList)))
      else if typeName ∈ ["int", "int64"] then ofForm expr ((items.mapM parseItem).map .ints)
      else .error (.limitMismatch expr typeName) := by
  have noBounds : floatBounds? expr.toList = none := by
    refine Option.eq_none_iff_forall_ne_some.2 fun bounds found => ?_
    obtain ⟨joined, ⟨x, low⟩, y, high⟩ := floatBounds?_eq_some_iff.1 found
    exact form.notFloatRange x y (joined ▸ .intro low high)
  have empty : items.any List.isEmpty = true ↔ [] ∈ items := by simp
  rw [parse_of_unmarked form.filled form.unmarked, isLength_eq_false form.notPositive,
    intBounds?_eq_none form.notIntRange, noBounds, ← Text.separated_iff.1 form.separated]
  simp only [Bool.false_eq_true, ↓reduceIte, empty, List.mem_cons, List.not_mem_nil, or_false]

theorem parse_of_means {result : Except FormError (Option Limit)}
    (means : Means typeName expr result) : parse typeName expr = result := by
  cases means with
  | unlimited empty => rw [empty]; rfl
  | pattern marked reads => rw [parse_of_marked marked, reads]
  | badPattern marked fails => rw [parse_of_marked marked, fails]
  | length form type fits => rw [parse_of_positive form, if_pos type, if_pos fits]
  | longLength form type exceeds =>
    rw [parse_of_positive form, if_pos type, if_neg (by omega)]
  | noLength form type => rw [parse_of_positive form, if_neg type]
  | intRange form leastFits greatestFits inOrder =>
    rw [parse_of_intRange form, parseIntRange_of_digits form.least form.greatest,
      if_pos ⟨leastFits, greatestFits⟩, if_neg (by omega)]
    rfl
  | longBound form exceeds =>
    rw [parse_of_intRange form, parseIntRange_of_digits form.least form.greatest,
      if_neg (by omega)]
    rfl
  | emptyIntRange form leastFits greatestFits reversed =>
    rw [parse_of_intRange form, parseIntRange_of_digits form.least form.greatest,
      if_pos ⟨leastFits, greatestFits⟩, if_pos reversed]
    rfl
  | floatRange form type inOrder =>
    rw [parse_of_floatRange form, if_pos type, inOrder]
    rfl
  | emptyFloatRange form type reversed =>
    rw [parse_of_floatRange form, if_pos type, if_pos reversed]
  | noFloatRange form type => rw [parse_of_floatRange form, if_neg type]
  | emptyItem form empty => rw [parse_of_listing form, if_pos empty]
  | texts form full type => rw [parse_of_listing form, if_neg full, if_pos type]
  | ints form full type accepts =>
    have notText : typeName ≠ "string" := by rintro rfl; simp at type
    rw [parse_of_listing form, if_neg full, if_neg notText, if_pos type,
      mapM_parseItem_of_accepts accepts]
    rfl
  | badItem form full type good fails =>
    have notText : typeName ≠ "string" := by rintro rfl; simp at type
    rw [parse_of_listing form, if_neg full, if_neg notText, if_pos type,
      mapM_parseItem_of_fails good fails]
    rfl
  | noList form full type =>
    simp only [List.mem_cons, not_or] at type
    rw [parse_of_listing form, if_neg full, if_neg type.1, if_neg (by simpa using type.2)]

theorem exists_means_of_listing (form : Listing expr.toList items) :
    ∃ result, Means typeName expr result := by
  by_cases empty : [] ∈ items
  · exact ⟨_, .emptyItem form empty⟩
  by_cases text : typeName = "string"
  · exact ⟨_, .texts form empty text⟩
  by_cases integer : typeName ∈ ["int", "int64"]
  · rcases accepts_or_fails items with ⟨accepted, accepts⟩ | ⟨_, _, _, fault, rfl, good, fails⟩
    · exact ⟨_, .ints form empty integer accepts⟩
    · exact ⟨_, .badItem form empty integer good fails⟩
  · exact ⟨_, .noList form empty (by simp_all)⟩

theorem exists_means_of_intRange (form : IntRange expr.toList least greatest) :
    ∃ result, Means typeName expr result := by
  by_cases leastFits : digitsValue least ≤ greatestBound typeName
  · by_cases greatestFits : digitsValue greatest ≤ greatestBound typeName
    · rcases Nat.lt_or_ge (digitsValue greatest) (digitsValue least) with reversed | inOrder
      · exact ⟨_, .emptyIntRange form leastFits greatestFits reversed⟩
      · exact ⟨_, .intRange form leastFits greatestFits inOrder⟩
    · exact ⟨_, .longBound form (.inr (Nat.lt_of_not_le greatestFits))⟩
  · exact ⟨_, .longBound form (.inl (Nat.lt_of_not_le leastFits))⟩

theorem exists_means_of_floatRange (form : FloatRange expr.toList x y) :
    ∃ result, Means typeName expr result := by
  by_cases type : typeName = "float"
  · cases order : y.lt x with
    | true => exact ⟨_, .emptyFloatRange form type order⟩
    | false => exact ⟨_, .floatRange form type order⟩
  · exact ⟨_, .noFloatRange form type⟩

theorem exists_means_of_positive (form : Positive expr.toList) :
    ∃ result, Means typeName expr result := by
  by_cases type : typeName ∈ ["string", "int", "int64"]
  · rcases Nat.lt_or_ge (2 ^ 31 - 1) (digitsValue expr.toList) with exceeds | fits
    · exact ⟨_, .longLength form type exceeds⟩
    · exact ⟨_, .length form type fits⟩
  · exact ⟨_, .noLength form type⟩

theorem exists_means (typeName expr : String) : ∃ result, Means typeName expr result := by
  -- The forms are tried in the order of the parser, so that a list is known to have none of them.
  by_cases empty : expr = ""
  · exact ⟨_, .unlimited empty⟩
  by_cases marked : ∃ source, expr.toList = 'r' :: 'e' :: ':' :: source
  · obtain ⟨source, marked⟩ := marked
    cases reads : Pattern.read (String.ofList source) with
    | some p => exact ⟨_, .pattern marked reads⟩
    | none => exact ⟨_, .badPattern marked reads⟩
  by_cases positive : Positive expr.toList
  · exact exists_means_of_positive positive
  by_cases intRange : ∃ least greatest, IntRange expr.toList least greatest
  · obtain ⟨least, greatest, form⟩ := intRange
    exact exists_means_of_intRange form
  by_cases floatRange : ∃ x y, FloatRange expr.toList x y
  · obtain ⟨x, y, form⟩ := floatRange
    exact exists_means_of_floatRange form
  push Not at marked intRange floatRange
  have nonempty : expr.toList ≠ [] := by simpa using empty
  exact exists_means_of_listing
    ⟨nonempty, marked, positive, intRange, floatRange, Text.separated_iff.2 rfl⟩

/-- An expression is read as what it means, and as nothing else. -/
theorem parse_eq_iff_means {result : Except FormError (Option Limit)} :
    parse typeName expr = result ↔ Means typeName expr result := by
  constructor
  · rintro rfl
    obtain ⟨result, means⟩ := exists_means typeName expr
    rw [parse_of_means means]
    exact means
  · exact parse_of_means

end

end FormIntake.Limit
