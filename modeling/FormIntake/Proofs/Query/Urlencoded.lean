import FormIntake.Proofs.Query.Values
import FormIntake.Proofs.Text.Pieces
import FormIntake.Proofs.Text.Utf8
import Mathlib.Tactic.IntervalCases

namespace FormIntake

namespace Urlencoded

def HexDigit (n : Nat) (c : Char) : Prop := n < 16 ∧ (c = n.digitChar ∨ c = n.digitChar.toUpper)

inductive Escapes : List UInt8 → List Char → Prop
  | nil : Escapes [] []
  | cons {octet : UInt8} {octets : List UInt8} {high low : Char} {text : List Char}
      (upper : HexDigit (octet.toNat / 16) high) (lower : HexDigit (octet.toNat % 16) low)
      (rest : Escapes octets text) : Escapes (octet :: octets) ('%' :: high :: low :: text)

/-- The ways to write a character, where `marks` do not stand for themselves. -/
inductive WritesChar (marks : List Char) (c : Char) : List Char → Prop
  | literal (plain : c ∉ marks) : WritesChar marks c [c]
  | plus (space : c = ' ') : WritesChar marks c ['+']
  | escaped {text : List Char} (escapes : Escapes (String.utf8EncodeChar c) text) :
      WritesChar marks c text

inductive WritesText (marks : List Char) : List Char → List Char → Prop
  | nil : WritesText marks [] []
  | cons {c : Char} {cs front text : List Char} (first : WritesChar marks c front)
      (rest : WritesText marks cs text) : WritesText marks (c :: cs) (front ++ text)

def valueMarks : List Char := ['%', '+', '&']

def keyMarks : List Char := ['%', '+', '&', '=']

inductive WritesPair : String × String → List Char → Prop
  | full {key value : String} {front back : List Char}
      (keyWritten : WritesText keyMarks key.toList front)
      (valueWritten : WritesText valueMarks value.toList back) :
      WritesPair (key, value) (front ++ '=' :: back)
  | bare {key : String} {text : List Char} (keyWritten : WritesText keyMarks key.toList text)
      (filled : text ≠ []) : WritesPair (key, "") text

/-- The items between ampersands: pairs in their order, and empty ones anywhere among them. -/
inductive WritesItems : List (String × String) → List (List Char) → Prop
  | nil : WritesItems [] []
  | extra {pairs : List (String × String)} {items : List (List Char)}
      (rest : WritesItems pairs items) : WritesItems pairs ([] :: items)
  | pair {pair : String × String} {pairs : List (String × String)} {item : List Char}
      {items : List (List Char)} (first : WritesPair pair item) (rest : WritesItems pairs items) :
      WritesItems (pair :: pairs) (item :: items)

def Writes (pairs : List (String × String)) (text : List Char) : Prop :=
  ∃ items, WritesItems pairs items ∧ text = ['&'].intercalate items

def octetsOf (text : List Char) : List UInt8 :=
  Text.Utf8.encode (text.map fun c => if c = '+' then ' ' else c)

theorem octetsOf_append (front rest : List Char) :
    octetsOf (front ++ rest) = octetsOf front ++ octetsOf rest := by
  simp [octetsOf, Text.Utf8.encode]

theorem octetsOf_singleton {c : Char} (other : c ≠ '+') :
    octetsOf [c] = String.utf8EncodeChar c := by
  simp [octetsOf, Text.Utf8.encode, other]

theorem octetsOf_cons_ascii {c : Char} (ascii : c.toNat < 128) (other : c ≠ '+')
    (rest : List Char) : octetsOf (c :: rest) = UInt8.ofNat c.toNat :: octetsOf rest := by
  have small : c.val.toNat ≤ 127 := Nat.le_of_lt_succ ascii
  have single : String.utf8EncodeChar c = [UInt8.ofNat c.toNat] := if_pos small
  rw [← List.singleton_append, octetsOf_append, octetsOf_singleton other, single,
    List.singleton_append]

section

variable {n : Nat} {c mark : Char} {marks cs text : List Char} {octets : List UInt8}

theorem HexDigit.read (digit : HexDigit n c) :
    hexDigit? (UInt8.ofNat c.toNat) = some n ∧ c.toNat < 128 ∧ c ∉ ['+', '&', '='] := by
  obtain ⟨small, rfl | rfl⟩ := digit
  · interval_cases n <;> decide
  · interval_cases n <;> decide

theorem unescape_cons {b : UInt8} (plain : b ≠ 0x25) (rest : List UInt8) :
    unescape (b :: rest) = b :: unescape rest := by
  rw [unescape]
  intro high low others escape _
  exact plain escape

theorem unescape_append (plain : ∀ b ∈ octets, b ≠ 0x25) (rest : List UInt8) :
    unescape (octets ++ rest) = octets ++ unescape rest := by
  induction octets with
  | nil => rfl
  | cons b octets ih =>
    obtain ⟨first, later⟩ := List.forall_mem_cons.1 plain
    rw [List.cons_append, unescape_cons first, ih later, List.cons_append]

theorem Escapes.unescape (escapes : Escapes octets text) (rest : List UInt8) :
    Urlencoded.unescape (octetsOf text ++ rest) = octets ++ Urlencoded.unescape rest := by
  induction escapes with
  | nil => rfl
  | @cons octet octets high low text upper lower _ ih =>
    obtain ⟨readHigh, asciiHigh, plainHigh⟩ := upper.read
    obtain ⟨readLow, asciiLow, plainLow⟩ := lower.read
    have whole : UInt8.ofNat (16 * (octet.toNat / 16) + octet.toNat % 16) = octet := by
      rw [Nat.div_add_mod, UInt8.ofNat_toNat]
    rw [octetsOf_cons_ascii (by decide) (by decide),
      octetsOf_cons_ascii asciiHigh (List.ne_of_not_mem_cons plainHigh),
      octetsOf_cons_ascii asciiLow (List.ne_of_not_mem_cons plainLow)]
    change Urlencoded.unescape (0x25 :: _ :: _ :: (octetsOf text ++ rest)) = _
    rw [Urlencoded.unescape, readHigh, readLow]
    simp only [whole, ih, List.cons_append]

theorem ne_percent_of_mem (other : c ≠ '%') {b : UInt8} (member : b ∈ String.utf8EncodeChar c) :
    b ≠ 0x25 := by
  have differs : c.toNat ≠ 0x25 := fun same => other (Char.toNat_inj.1 same)
  rintro rfl
  rcases Text.Utf8.toNat_of_mem_utf8EncodeChar member with own | large
  · exact differs own.symm
  · exact absurd large (by decide)

theorem WritesChar.unescape (writes : WritesChar marks c text) (percent : '%' ∈ marks)
    (plus : '+' ∈ marks) (rest : List UInt8) :
    Urlencoded.unescape (octetsOf text ++ rest) =
      String.utf8EncodeChar c ++ Urlencoded.unescape rest := by
  cases writes with
  | literal plain =>
    have notPercent : c ≠ '%' := fun same => plain (same ▸ percent)
    have notPlus : c ≠ '+' := fun same => plain (same ▸ plus)
    rw [octetsOf_singleton notPlus, unescape_append fun b => ne_percent_of_mem notPercent]
  | plus space =>
    subst space
    exact unescape_cons (by decide) rest
  | escaped escapes => exact escapes.unescape rest

theorem WritesText.decode (writes : WritesText marks cs text) (percent : '%' ∈ marks)
    (plus : '+' ∈ marks) : Urlencoded.decode text = cs := by
  have octets : Urlencoded.unescape (octetsOf text) = Text.Utf8.encode cs := by
    induction writes with
    | nil => rfl
    | cons first _ ih =>
      rw [octetsOf_append, first.unescape percent plus, ih]
      rfl
  change Text.Utf8.decodeLossy (Urlencoded.unescape (octetsOf text)) = cs
  rw [octets, Text.Utf8.decodeLossy_encode]

theorem Escapes.not_mem (escapes : Escapes octets text) (separator : mark ∈ ['&', '=']) :
    mark ∉ text := by
  have percent : mark ≠ '%' := by
    rintro rfl
    exact absurd separator (by decide)
  induction escapes with
  | nil => exact List.not_mem_nil
  | cons upper lower _ ih =>
    have high := (upper.read).2.2
    have low := (lower.read).2.2
    simp only [List.mem_cons, not_or]
    refine ⟨percent, ?_, ?_, ih⟩
    · rintro rfl
      exact high (List.mem_cons_of_mem _ separator)
    · rintro rfl
      exact low (List.mem_cons_of_mem _ separator)

theorem WritesText.not_mem (writes : WritesText marks cs text) (separator : mark ∈ ['&', '='])
    (marked : mark ∈ marks) : mark ∉ text := by
  induction writes with
  | nil => exact List.not_mem_nil
  | cons first _ ih =>
    refine fun member => (List.mem_append.1 member).elim ?_ ih
    cases first with
    | literal plain => exact fun here => plain (List.mem_singleton.1 here ▸ marked)
    | plus =>
      intro here
      rw [List.mem_singleton.1 here] at separator
      exact absurd separator (by decide)
    | escaped escapes => exact escapes.not_mem separator

end

section

variable {pair : String × String} {pairs : List (String × String)} {text : List Char}
  {items : List (List Char)}

theorem WritesPair.decodePair (writes : WritesPair pair text) :
    Urlencoded.decodePair text = pair := by
  cases writes with
  | @full _ _ front _ keyWritten valueWritten =>
    have free : '=' ∉ front := keyWritten.not_mem (by decide) (by decide)
    rw [Urlencoded.decodePair, Text.cut_append free]
    simp only [keyWritten.decode (by decide) (by decide),
      valueWritten.decode (by decide) (by decide), String.ofList_toList]
  | bare keyWritten =>
    have free : '=' ∉ text := keyWritten.not_mem (by decide) (by decide)
    rw [Urlencoded.decodePair, Text.cut_of_not_mem free]
    simp only [keyWritten.decode (by decide) (by decide), String.ofList_toList]
    rfl

theorem WritesPair.ne_nil (writes : WritesPair pair text) : text ≠ [] := by
  cases writes with
  | full => simp
  | bare _ filled => exact filled

theorem WritesPair.not_mem (writes : WritesPair pair text) : '&' ∉ text := by
  cases writes with
  | @full _ _ front back keyWritten valueWritten =>
    have inFront : '&' ∉ front := keyWritten.not_mem (by decide) (by decide)
    have inBack : '&' ∉ back := valueWritten.not_mem (by decide) (by decide)
    simp [inFront, inBack]
  | bare keyWritten => exact keyWritten.not_mem (by decide) (by decide)

theorem WritesItems.not_mem (writes : WritesItems pairs items) : ∀ item ∈ items, '&' ∉ item := by
  induction writes with
  | nil => simp
  | extra _ ih => exact List.forall_mem_cons.2 ⟨List.not_mem_nil, ih⟩
  | pair first _ ih => exact List.forall_mem_cons.2 ⟨first.not_mem, ih⟩

theorem WritesItems.decodePairs (writes : WritesItems pairs items) :
    (items.filter (!·.isEmpty)).map Urlencoded.decodePair = pairs := by
  induction writes with
  | nil => rfl
  | extra _ ih => exact ih
  | pair first _ ih =>
    have kept := first.ne_nil
    simp [kept, first.decodePair, ih]

theorem Writes.decodePairs (writes : Writes pairs text) :
    ((Text.pieces '&' text).filter (!·.isEmpty)).map decodePair = pairs := by
  obtain ⟨items, written, rfl⟩ := writes
  cases items with
  | nil =>
    cases written
    rfl
  | cons item items =>
    have separated : Text.Separated '&' (['&'].intercalate (item :: items)) (item :: items) :=
      ⟨List.cons_ne_nil _ _, written.not_mem, rfl⟩
    rw [← Text.separated_iff.1 separated, written.decodePairs]

theorem pairs_of_writes (writes : Writes pairs text) (unmarked : text.head? ≠ some '?') :
    Urlencoded.pairs text = pairs := by
  unfold Urlencoded.pairs
  split
  · exact absurd rfl unmarked
  · exact writes.decodePairs

end

end Urlencoded

namespace Query

/-- All texts that write the same pairs are read as the query of these pairs. -/
theorem parse_of_writes {pairs : List (String × String)} {text : String}
    (writes : Urlencoded.Writes pairs text.toList) (unmarked : text.toList.head? ≠ some '?') :
    parse text = ofList pairs ∧ parse ("?" ++ text) = ofList pairs ∧
      ∀ key, (parse text).getList? key =
        if valuesOf pairs key = [] then none else some (valuesOf pairs key) := by
  have plain : parse text = ofList pairs := by
    rw [parse, Urlencoded.pairs_of_writes writes unmarked]
  have marked : parse ("?" ++ text) = ofList pairs := by
    have front : ("?" ++ text).toList = '?' :: text.toList := String.toList_append
    rw [parse, front]
    exact congrArg ofList writes.decodePairs
  refine ⟨plain, marked, fun key => ?_⟩
  rw [plain, getList?_eq_values, values_ofList]

/-- A plus sign and escapes in both letter cases, a value with an equals sign, an empty key, an
empty value, and ampersands that part nothing. -/
theorem parse_mixed_writing :
    parse "a+b=1=2&&=%c3%BC&k" = ofList [("a b", "1=2"), ("", "ü"), ("k", "")] ∧
      parse "?a+b=1=2&&=%c3%BC&k" = ofList [("a b", "1=2"), ("", "ü"), ("k", "")] := by
  have key : Urlencoded.WritesText Urlencoded.keyMarks "a b".toList ['a', '+', 'b'] :=
    .cons (.literal (by decide)) (.cons (.plus rfl) (.cons (.literal (by decide)) .nil))
  have value : Urlencoded.WritesText Urlencoded.valueMarks "1=2".toList ['1', '=', '2'] :=
    .cons (.literal (by decide)) (.cons (.literal (by decide)) (.cons (.literal (by decide)) .nil))
  have octets : Urlencoded.Escapes [0xC3, 0xBC] ['%', 'c', '3', '%', 'B', 'C'] :=
    .cons ⟨by decide, .inl rfl⟩ ⟨by decide, .inl rfl⟩
      (.cons ⟨by decide, .inr rfl⟩ ⟨by decide, .inr rfl⟩ .nil)
  have umlaut : Urlencoded.WritesChar Urlencoded.valueMarks 'ü' ['%', 'c', '3', '%', 'B', 'C'] :=
    .escaped octets
  have escaped : Urlencoded.WritesText Urlencoded.valueMarks "ü".toList
      ['%', 'c', '3', '%', 'B', 'C'] := .cons umlaut .nil
  have bare : Urlencoded.WritesPair ("k", "") "k".toList :=
    .bare (.cons (.literal (by decide)) .nil) (by decide)
  have writes : Urlencoded.Writes [("a b", "1=2"), ("", "ü"), ("k", "")]
      "a+b=1=2&&=%c3%BC&k".toList :=
    ⟨_, .pair (.full key value) (.extra (.pair (.full .nil escaped) (.pair bare .nil))), rfl⟩
  obtain ⟨plain, marked, _⟩ := parse_of_writes writes (by decide)
  exact ⟨plain, marked⟩

end Query

end FormIntake
