/-!
UTF-8. Octets that are no part of a well-formed character become the replacement character, one for
every longest run that could have begun a character.
-/

namespace FormIntake.Text.Utf8

/-- A character of which some octets have come: the value so far, how many octets it still lacks,
and the bounds of the next one. -/
structure Pending where
  value : Nat
  owed : Nat
  least : Nat
  greatest : Nat

def begin? (b : UInt8) : Option Pending :=
  let n := b.toNat
  if 0xC2 ≤ n ∧ n ≤ 0xDF then some ⟨n - 0xC0, 1, 0x80, 0xBF⟩
  else if n = 0xE0 then some ⟨0, 2, 0xA0, 0xBF⟩
  else if n = 0xED then some ⟨0xD, 2, 0x80, 0x9F⟩
  else if 0xE1 ≤ n ∧ n ≤ 0xEF then some ⟨n - 0xE0, 2, 0x80, 0xBF⟩
  else if n = 0xF0 then some ⟨0, 3, 0x90, 0xBF⟩
  else if 0xF1 ≤ n ∧ n ≤ 0xF3 then some ⟨n - 0xF0, 3, 0x80, 0xBF⟩
  else if n = 0xF4 then some ⟨4, 3, 0x80, 0x8F⟩
  else none

def replacement : Char := '\uFFFD'

mutual

def decodeLossy : List UInt8 → List Char
  | [] => []
  | b :: rest =>
    if b.toNat < 0x80 then Char.ofNat b.toNat :: decodeLossy rest
    else
      match begin? b with
      | some pending => decodePending pending rest
      | none => replacement :: decodeLossy rest

def decodePending (pending : Pending) : List UInt8 → List Char
  | [] => [replacement]
  | b :: rest =>
    if pending.least ≤ b.toNat ∧ b.toNat ≤ pending.greatest then
      let value := pending.value * 64 + (b.toNat - 0x80)
      if pending.owed ≤ 1 then Char.ofNat value :: decodeLossy rest
      else decodePending ⟨value, pending.owed - 1, 0x80, 0xBF⟩ rest
    else if b.toNat < 0x80 then replacement :: Char.ofNat b.toNat :: decodeLossy rest
    else
      match begin? b with
      | some next => replacement :: decodePending next rest
      | none => replacement :: replacement :: decodeLossy rest

end

def encode (cs : List Char) : List UInt8 := cs.flatMap String.utf8EncodeChar

/-- The characters of well-formed UTF-8: those that `octets` is the encoding of. -/
def decode? (octets : List UInt8) : Option (List Char) :=
  let cs := decodeLossy octets
  if encode cs = octets then some cs else none

end FormIntake.Text.Utf8
