import FormIntake.Proofs.Field.Accepted
import FormIntake.Proofs.Field.Conversion
import FormIntake.Proofs.Field.Relabelling
import FormIntake.Proofs.Field.Spec
import FormIntake.Proofs.Number.DecimalText

namespace FormIntake

open Limit Decimal

/-- A raw text stands for the integer that it writes; an empty one stands for zero. -/
inductive IntegerText (raw : String) : Int → Prop
  | empty (empty : raw = "") : IntegerText raw 0
  | written {v : Int} (writes : Integer.Writes raw.toList v) : IntegerText raw v

inductive FormValue.IsInteger : Kind → FormValue → Int → Prop
  | int {v : Int} (fits : IntWidth.i32.holds v = true) : IsInteger .int (.int ⟨v, fits⟩) v
  | int64 {v : Int} (fits : IntWidth.i64.holds v = true) : IsInteger .int64 (.int64 ⟨v, fits⟩) v

/-- What becomes of an integer that is held against the limit expression of its field. A pattern is
no hindrance. -/
inductive IntegerVerdict (f : Field) (v : Int) : Except ValidationError Unit → Prop
  | unlimited (empty : f.limitExpr = "") : IntegerVerdict f v (.ok ())
  | pattern {source : List Char} (marked : f.limitExpr.toList = 'r' :: 'e' :: ':' :: source) :
      IntegerVerdict f v (.ok ())
  | fits (form : Positive f.limitExpr.toList)
      (same : (toString v).length = digitsValue f.limitExpr.toList) : IntegerVerdict f v (.ok ())
  | wrongLength (form : Positive f.limitExpr.toList)
      (differs : (toString v).length ≠ digitsValue f.limitExpr.toList) :
      IntegerVerdict f v (.error (f.complaintWith "has the wrong length" "length"
        [("length", toString (digitsValue f.limitExpr.toList))]))
  | inRange {least greatest : List Char} (form : IntRange f.limitExpr.toList least greatest)
      (low : digitsValue least ≤ v) (high : v ≤ digitsValue greatest) :
      IntegerVerdict f v (.ok ())
  | tooLow {least greatest : List Char} (form : IntRange f.limitExpr.toList least greatest)
      (less : v < digitsValue least) :
      IntegerVerdict f v (.error (f.complaintWith "is too low" "too_low"
        [("min", toString (digitsValue least))]))
  | tooHigh {least greatest : List Char} (form : IntRange f.limitExpr.toList least greatest)
      (more : digitsValue greatest < v) :
      IntegerVerdict f v (.error (f.complaintWith "is too high" "too_high"
        [("max", toString (digitsValue greatest))]))
  | listed {items : List (List Char)} {item : List Char}
      (form : Listing f.limitExpr.toList items) (member : item ∈ items)
      (writes : Integer.Writes item v) : IntegerVerdict f v (.ok ())
  | wrongValue {items : List (List Char)} (form : Listing f.limitExpr.toList items)
      (absent : ∀ item ∈ items, ¬ Integer.Writes item v) :
      IntegerVerdict f v (.error (f.complaintWith "has the wrong value" "choice" []))

inductive IntegerRun (k : Kind) (f : Field) (raw : String) :
    Except ValidationError FormValue → Prop
  | noInteger (fails : ∀ value v, FormValue.IsInteger k value v → ¬ IntegerText raw v) :
      IntegerRun k f raw
        (.error (f.complaintWith ("could not be converted to " ++ k.name) "invalid" []))
  | accepted {value : FormValue} {v : Int} (holds : FormValue.IsInteger k value v)
      (text : IntegerText raw v) (judged : IntegerVerdict f v (.ok ())) :
      IntegerRun k f raw (.ok value)
  | refused {value : FormValue} {v : Int} {e : ValidationError}
      (holds : FormValue.IsInteger k value v) (text : IntegerText raw v)
      (judged : IntegerVerdict f v (.error e)) : IntegerRun k f raw (.error e)

section

variable {k : Kind} {raw : String} {value : FormValue} {v w : Int}

theorem Integer.Writes.unique {cs : List Char} (left : Writes cs v) (right : Writes cs w) :
    v = w := by
  have plus : '+'.isDigit = false := rfl
  have minus : '-'.isDigit = false := rfl
  cases left with
  | bare digits =>
    cases right with
    | bare => rfl
    | plus => exact absurd rfl (digits.head_ne plus)
    | minus => exact absurd rfl (digits.head_ne minus)
  | plus digits =>
    cases right with
    | bare signed => exact absurd rfl (signed.head_ne plus)
    | plus => rfl
  | minus digits =>
    cases right with
    | bare signed => exact absurd rfl (signed.head_ne minus)
    | minus => rfl

theorem IntegerText.unique (left : IntegerText raw v) (right : IntegerText raw w) : v = w := by
  cases left with
  | empty empty =>
    cases right with
    | empty => rfl
    | written writes => exact absurd (congrArg String.toList empty) writes.ne_nil
  | written writes =>
    cases right with
    | empty empty => exact absurd (congrArg String.toList empty) writes.ne_nil
    | written writes' => exact writes.unique writes'

theorem IntWidth.i64_of_i32 (fits : IntWidth.i32.holds v = true) :
    IntWidth.i64.holds v = true := by
  simp only [IntWidth.holds, Bool.and_eq_true, decide_eq_true_eq] at fits ⊢
  simp only [IntWidth.least, IntWidth.greatest] at fits ⊢
  omega

theorem IntegerText.writes (text : IntegerText raw v) (present : raw ≠ "") :
    Integer.Writes raw.toList v := by
  cases text with
  | empty empty => exact absurd empty present
  | written writes => exact writes

theorem Kind.integer_cases (integers : k ∈ [.int, .int64]) : k = .int ∨ k = .int64 := by
  simpa using integers

namespace FormValue.IsInteger

theorem asInt?_eq (held : IsInteger k value v) : value.asInt? = some v := by
  cases held <;> rfl

theorem int_iff :
    IsInteger .int value v ↔ ∃ n : IntWidth.i32.Value, .int n = value ∧ n.val = v := by
  constructor
  · intro held
    cases held with
    | int fits => exact ⟨⟨v, fits⟩, rfl, rfl⟩
  · rintro ⟨n, rfl, rfl⟩
    exact .int n.property

theorem int64_iff :
    IsInteger .int64 value v ↔ ∃ n : IntWidth.i64.Value, .int64 n = value ∧ n.val = v := by
  constructor
  · intro held
    cases held with
    | int64 fits => exact ⟨⟨v, fits⟩, rfl, rfl⟩
  · rintro ⟨n, rfl, rfl⟩
    exact .int64 n.property

theorem exists_of_holds (integers : k ∈ [.int, .int64]) (fits : IntWidth.i32.holds v = true) :
    ∃ value, IsInteger k value v := by
  obtain rfl | rfl := Kind.integer_cases integers
  · exact ⟨_, .int fits⟩
  · exact ⟨_, .int64 (IntWidth.i64_of_i32 fits)⟩

end FormValue.IsInteger

namespace Kind

theorem readInt_eq_some_iff_text {width : IntWidth} (signed : width.least ≠ 0)
    {n : width.Value} : readInt width raw = some n ↔ IntegerText raw n.val := by
  by_cases empty : raw = ""
  · have zero : readInt width raw = some width.zero := if_pos empty
    rw [zero, Option.some.injEq]
    constructor
    · rintro rfl
      exact .empty empty
    · intro text
      exact Subtype.ext (IntegerText.unique (.empty empty) text)
  · rw [readInt_eq_some_iff signed empty]
    exact ⟨.written, fun text => text.writes empty⟩

/-- One lemma for both widths: `wrap` makes the value of a field. -/
theorem map_readInt_eq_some_iff (width : IntWidth) (signed : width.least ≠ 0)
    {wrap : width.Value → FormValue}
    (wraps : ∀ v, FormValue.IsInteger k value v ↔ ∃ n, wrap n = value ∧ n.val = v) :
    (readInt width raw).map wrap = some value ↔
      ∃ v, FormValue.IsInteger k value v ∧ IntegerText raw v := by
  rw [Option.map_eq_some_iff]
  constructor
  · rintro ⟨n, found, wrapped⟩
    exact ⟨n.val, (wraps n.val).2 ⟨n, wrapped, rfl⟩, (readInt_eq_some_iff_text signed).1 found⟩
  · rintro ⟨v, held, text⟩
    obtain ⟨n, wrapped, rfl⟩ := (wraps v).1 held
    exact ⟨n, (readInt_eq_some_iff_text signed).2 text, wrapped⟩

theorem convert_eq_some_iff (integers : k ∈ [.int, .int64]) (s : Settings) :
    k.convert raw s = some value ↔ ∃ v, FormValue.IsInteger k value v ∧ IntegerText raw v := by
  obtain rfl | rfl := integer_cases integers
  · exact map_readInt_eq_some_iff .i32 (by decide) fun _ => FormValue.IsInteger.int_iff
  · exact map_readInt_eq_some_iff .i64 (by decide) fun _ => FormValue.IsInteger.int64_iff

end Kind

end

namespace Validator

variable {f : Field} {v : Int} {limit : Limit} {typeName : String}
  {verdict : Except ValidationError Unit}

def againstInteger (f : Field) (v : Int) : Except ValidationError Unit :=
  againstLimit f (checkInt f v)

theorem againstInteger_of_limit (limited : f.limit = some limit) :
    againstInteger f v = checkInt f v limit := againstLimit_of_some limited

theorem integer_of_asInt? {value : FormValue} (held : value.asInt? = some v) :
    integer f value = againstInteger f v := by
  rw [integer, held]
  rfl

theorem mem_accepted_iff {items : List (List Char)} {accepted : List Int}
    (accepts : List.Forall₂ Accepts items accepted) :
    v ∈ accepted ↔ ∃ item ∈ items, Integer.Writes item v := by
  induction accepts with
  | nil => simp
  | @cons item n items accepted first _ ih =>
    have same : v = n ↔ Integer.Writes item v :=
      ⟨fun same => same ▸ first.1, fun writes => writes.unique first.1⟩
    rw [List.mem_cons, ih, same]
    simp

theorem againstInteger_of_verdict (type : typeName ∈ ["int", "int64"])
    (parsed : parse typeName f.limitExpr = .ok f.limit)
    (judged : IntegerVerdict f v verdict) : againstInteger f v = verdict := by
  cases judged with
  | unlimited empty => exact againstLimit_of_none (of_parse_empty empty parsed)
  | pattern marked =>
    obtain ⟨p, _, limited⟩ := of_parse_marked marked parsed
    rw [againstInteger_of_limit limited]
    rfl
  | fits form same =>
    rw [againstInteger_of_limit (of_parse_positive form parsed)]
    exact if_pos (decide_eq_true same)
  | wrongLength form differs =>
    rw [againstInteger_of_limit (of_parse_positive form parsed)]
    exact if_neg (by simpa using differs)
  | inRange form low high =>
    rw [againstInteger_of_limit (of_parse_intRange form parsed).1]
    exact (if_neg (by omega)).trans (if_neg (by omega))
  | tooLow form less =>
    rw [againstInteger_of_limit (of_parse_intRange form parsed).1]
    exact if_pos (by omega)
  | tooHigh form more =>
    obtain ⟨limited, inOrder, _⟩ := of_parse_intRange form parsed
    rw [againstInteger_of_limit limited]
    exact (if_neg (by omega)).trans (if_pos (by omega))
  | listed form member writes =>
    obtain ⟨accepted, limited, accepts⟩ := of_parse_ints type form parsed
    rw [againstInteger_of_limit limited]
    have found : v ∈ accepted := (mem_accepted_iff accepts).2 ⟨_, member, writes⟩
    exact if_pos (List.contains_iff_mem.2 found)
  | wrongValue form absent =>
    obtain ⟨accepted, limited, accepts⟩ := of_parse_ints type form parsed
    rw [againstInteger_of_limit limited]
    have missing : v ∉ accepted := by
      rw [mem_accepted_iff accepts]
      rintro ⟨item, member, writes⟩
      exact absent item member writes
    exact if_neg (List.contains_iff_mem.not.2 missing)

theorem exists_integerVerdict (type : typeName ∈ ["int", "int64"])
    (parsed : parse typeName f.limitExpr = .ok f.limit) (v : Int) :
    ∃ verdict, IntegerVerdict f v verdict := by
  obtain empty | ⟨source, marked⟩ | form | ⟨least, greatest, form⟩ | float | ⟨items, form⟩ :=
    exists_form parsed
  · exact ⟨_, .unlimited empty⟩
  · exact ⟨_, .pattern marked⟩
  · by_cases same : (toString v).length = digitsValue f.limitExpr.toList
    · exact ⟨_, .fits form same⟩
    · exact ⟨_, .wrongLength form same⟩
  · rcases Int.lt_or_le v (digitsValue least) with less | low
    · exact ⟨_, .tooLow form less⟩
    · rcases Int.lt_or_le (digitsValue greatest) v with more | high
      · exact ⟨_, .tooHigh form more⟩
      · exact ⟨_, .inRange form low high⟩
  · rw [float] at type
    exact absurd type (by decide)
  · by_cases member : ∃ item ∈ items, Integer.Writes item v
    · obtain ⟨item, member, writes⟩ := member
      exact ⟨_, .listed form member writes⟩
    · exact ⟨_, .wrongValue form fun item given writes => member ⟨item, given, writes⟩⟩

theorem againstInteger_eq_iff (type : typeName ∈ ["int", "int64"])
    (parsed : parse typeName f.limitExpr = .ok f.limit) :
    againstInteger f v = verdict ↔ IntegerVerdict f v verdict := by
  constructor
  · rintro rfl
    obtain ⟨verdict, judged⟩ := exists_integerVerdict type parsed v
    rw [againstInteger_of_verdict type parsed judged]
    exact judged
  · exact againstInteger_of_verdict type parsed

end Validator

namespace Kind

theorem of_integers {k : Kind} (integers : k ∈ [.int, .int64]) :
    k.name ∈ ["int", "int64"] ∧ k.validator = some Validator.integer := by
  obtain rfl | rfl := integer_cases integers
  · exact ⟨by decide, rfl⟩
  · exact ⟨by decide, rfl⟩

end Kind

theorem Limit.eq_of_parse {typeName other expr : String} {limit limit' : Option Limit}
    (type : typeName ∈ ["int", "int64"]) (type' : other ∈ ["int", "int64"])
    (parsed : parse typeName expr = .ok limit) (parsed' : parse other expr = .ok limit') :
    limit = limit' := by
  obtain empty | ⟨source, marked⟩ | form | ⟨least, greatest, form⟩ | float | ⟨items, form⟩ :=
    exists_form parsed
  · rw [of_parse_empty empty parsed, of_parse_empty empty parsed']
  · rw [parse_of_marked marked] at parsed parsed'
    exact Except.ok.inj (parsed.symm.trans parsed')
  · rw [of_parse_positive form parsed, of_parse_positive form parsed']
  · rw [(of_parse_intRange form parsed).1, (of_parse_intRange form parsed').1]
  · rw [float] at type
    exact absurd type (by decide)
  · obtain ⟨accepted, rfl, accepts⟩ := of_parse_ints type form parsed
    obtain ⟨accepted', rfl, accepts'⟩ := of_parse_ints type' form parsed'
    have same := (mapM_parseItem_of_accepts accepts).symm.trans (mapM_parseItem_of_accepts accepts')
    rw [Except.ok.inj same]

namespace FieldSpec

variable {k k' : Kind} {spec other : FieldSpec} {raw : String} {value : FormValue} {v : Int}
  {outcome : Except ValidationError FormValue}

theorem OfKind.run_of_text (integers : k ∈ [.int, .int64]) (kind : OfKind k spec)
    (held : FormValue.IsInteger k value v) (text : IntegerText raw v) (s : Settings) :
    spec.run raw s = (Validator.againstInteger spec.toField v).map fun _ => value := by
  have validator := (Kind.of_integers integers).2
  have converts : spec.fieldType.convert raw s = some value := by
    rw [kind.fieldType]
    exact (Kind.convert_eq_some_iff integers s).2 ⟨v, held, text⟩
  rw [run_of_converted converts, validate_of_kind (kind.validator.trans validator) validator,
    Validator.integer_of_asInt? held.asInt?_eq]

theorem OfKind.run_of_verdict (integers : k ∈ [.int, .int64]) (kind : OfKind k spec)
    (s : Settings) (ran : IntegerRun k spec.toField raw outcome) : spec.run raw s = outcome := by
  have type := (Kind.of_integers integers).1
  cases ran with
  | noInteger fails =>
    have unread : spec.fieldType.convert raw s = none := by
      rw [kind.fieldType]
      refine Option.eq_none_iff_forall_ne_some.2 fun value converts => ?_
      obtain ⟨v, held, text⟩ := (Kind.convert_eq_some_iff integers s).1 converts
      exact fails value v held text
    rw [run_of_unconverted unread, kind.typeName]
  | accepted held text judged | refused held text judged =>
    rw [kind.run_of_text integers held text,
      (Validator.againstInteger_eq_iff type kind.limited).2 judged]
    rfl

theorem OfKind.exists_run (integers : k ∈ [.int, .int64]) (kind : OfKind k spec) (raw : String) :
    ∃ outcome, IntegerRun k spec.toField raw outcome := by
  have type := (Kind.of_integers integers).1
  by_cases written : ∃ value v, FormValue.IsInteger k value v ∧ IntegerText raw v
  · obtain ⟨value, v, held, text⟩ := written
    obtain ⟨verdict, judged⟩ := Validator.exists_integerVerdict type kind.limited v
    cases verdict with
    | ok => exact ⟨_, .accepted held text judged⟩
    | error e => exact ⟨_, .refused held text judged⟩
  · exact ⟨_, .noInteger fun value v held text => written ⟨value, v, held, text⟩⟩

theorem OfKind.run_eq_iff (integers : k ∈ [.int, .int64]) (kind : OfKind k spec) (s : Settings) :
    spec.run raw s = outcome ↔ IntegerRun k spec.toField raw outcome := by
  constructor
  · rintro rfl
    obtain ⟨outcome, ran⟩ := kind.exists_run integers raw
    rw [kind.run_of_verdict integers s ran]
    exact ran
  · exact kind.run_of_verdict integers s

theorem OfKind.relabelled_run (integers : k ∈ [.int, .int64]) (kind : OfKind k spec)
    (integers' : k' ∈ [.int, .int64]) (kind' : OfKind k' other)
    (same : other.limitExpr = spec.limitExpr) (text : IntegerText raw v)
    (fits : IntWidth.i32.holds v = true) (s s' : Settings) :
    Relabelled spec.toField other.toField ((spec.run raw s).map FormValue.asInt?)
      ((other.run raw s').map FormValue.asInt?) := by
  obtain ⟨value, held⟩ := FormValue.IsInteger.exists_of_holds integers fits
  obtain ⟨value', held'⟩ := FormValue.IsInteger.exists_of_holds integers' fits
  have limited : Limit.parse k'.name spec.limitExpr = .ok other.limit := same ▸ kind'.limited
  have limit : spec.limit = other.limit :=
    Limit.eq_of_parse (Kind.of_integers integers).1 (Kind.of_integers integers').1 kind.limited
      limited
  have judged : Relabelled spec.toField other.toField (Validator.againstInteger spec.toField v)
      (Validator.againstInteger other.toField v) :=
    Validator.relabelled_againstLimit limit (Validator.relabelled_checkInt v)
  -- the two values differ in their type, but not in the integer that is asked of them
  have told (outcome : Except ValidationError Unit) {value : FormValue}
      (holds : value.asInt? = some v) :
      (outcome.map fun _ => value).map FormValue.asInt? = outcome.map fun _ => some v := by
    cases outcome with
    | ok => exact congrArg Except.ok holds
    | error e => rfl
  rw [kind.run_of_text integers held text, kind'.run_of_text integers' held' text,
    told _ held.asInt?_eq, told _ held'.asInt?_eq]
  exact judged.map _

/-- A raw text for a field of integers is judged by the integer that it stands for, and by the form
of the limit expression. Fields of both widths judge what the smaller one holds alike. -/
theorem OfKind.run_integer (integers : k ∈ [.int, .int64]) (kind : OfKind k spec) :
    (∀ raw s outcome, spec.run raw s = outcome ↔ IntegerRun k spec.toField raw outcome) ∧
    (∀ (v : Int) (n : Nat), 0 < n → ((toString v).length = n ↔
      0 ≤ v ∧ (10 ^ (n - 1) ≤ v ∧ v < 10 ^ n ∨ n = 1 ∧ v = 0) ∨
      v < 0 ∧ 2 ≤ n ∧ 10 ^ (n - 2) ≤ -v ∧ -v < 10 ^ (n - 1))) ∧
    ∀ k' other, k' ∈ [.int, .int64] → OfKind k' other → other.limitExpr = spec.limitExpr →
      ∀ raw v s s', IntegerText raw v → IntWidth.i32.holds v = true →
        Relabelled spec.toField other.toField ((spec.run raw s).map FormValue.asInt?)
          ((other.run raw s').map FormValue.asInt?) := by
  refine ⟨fun raw s outcome => kind.run_eq_iff integers s,
    fun v n positive => length_toString_eq_iff v positive, ?_⟩
  intro k' other integers' kind' same raw v s s' text fits
  exact kind.relabelled_run integers integers' kind' same text fits s s'

def amount (k : Kind) : FieldSpec where
  key := "n"
  typeName := k.name
  required := true
  limitExpr := "3"
  name := "n"
  limit := some (.length 3)
  validator := k.validator
  fieldType := .builtin k

theorem build_amount :
    SpecDraft.build { SpecDraft.requiring "n" "int" with limit := "3" } .builtin =
        .ok (amount .int) ∧
      SpecDraft.build { SpecDraft.requiring "n" "int64" with limit := "3" } .builtin =
        .ok (amount .int64) := ⟨rfl, rfl⟩

/-- The zero in front does not count for the length, but the sign does. -/
theorem OfKind.run_integer_negative :
    OfKind .int (amount .int) ∧ OfKind .int64 (amount .int64) ∧
      (amount .int).run "-012" .standard = .ok (.int ⟨-12, by decide⟩) ∧
      Relabelled (amount .int).toField (amount .int64).toField
        (((amount .int).run "-012" .standard).map FormValue.asInt?)
        (((amount .int64).run "-012" .standard).map FormValue.asInt?) := by
  have int : OfKind .int (amount .int) := .intro .builtin (.built build_amount.1) rfl rfl rfl
  have int64 : OfKind .int64 (amount .int64) :=
    .intro .builtin (.built build_amount.2) rfl rfl rfl
  have digits : Digits ['0', '1', '2'] := by simp [Digits]
  have text : IntegerText "-012" (-12) := .written (.minus digits)
  have form : Positive (amount .int).limitExpr.toList := by simp [amount, Positive, Digits]
  have length : (toString (-12 : Int)).length = digitsValue (amount .int).limitExpr.toList := by
    decide +kernel
  obtain ⟨runs, _, alike⟩ := int.run_integer (by decide)
  refine ⟨int, int64, ?_, ?_⟩
  · exact (runs _ _ _).2 (.accepted (.int (by decide)) text (.fits form length))
  · exact alike .int64 _ (by decide) int64 rfl _ _ _ _ text (by decide)

end FieldSpec

end FormIntake
