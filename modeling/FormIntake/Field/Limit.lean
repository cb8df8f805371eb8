import FormIntake.Error
import FormIntake.Number.Decimal
import FormIntake.Pattern.Reader
import FormIntake.Text.Pieces

/-!
Limits: one constraint on the values of a field, written in a few characters. `6` is a length, `1-4`
and `0.5-2.5` are ranges, `a,b` is a choice, and a pattern follows `re:`.
-/

namespace FormIntake

inductive Limit
  | length (n : Nat)
  | intRange (least greatest : Int)
  | floatRange (least greatest : Binary64)
  | texts (accepted : List String)
  | ints (accepted : List Int)
  | pattern (source : String) (pattern : Pattern)
  deriving DecidableEq

namespace Limit

def isDigits (cs : List Char) : Bool := !cs.isEmpty && cs.all Char.isDigit

def isLength : List Char → Bool
  | [] => false
  | c :: cs => '1' ≤ c && c ≤ '9' && cs.all Char.isDigit

def intBounds? (cs : List Char) : Option (List Char × List Char) :=
  let (least, greatest) := Text.cut '-' cs
  if cs.contains '-' && isDigits least && isDigits greatest then some (least, greatest) else none

def isFraction (cs : List Char) : Bool :=
  let (whole, places) := Text.cut '.' cs
  cs.contains '.' && whole.all Char.isDigit && isDigits places

def floatBounds? (cs : List Char) : Option (List Char × List Char) :=
  let (least, greatest) := Text.cut '-' cs
  if cs.contains '-' && isFraction least && isFraction greatest then some (least, greatest)
  else none

def hasLength (typeName : String) : Bool :=
  typeName = "string" || typeName = "int" || typeName = "int64"

def boundWidth (typeName : String) : IntWidth :=
  if typeName = "int64" ∨ typeName = "float" then .i64 else .i32

def parseLength (cs : List Char) : Except LimitFault Limit :=
  match Integer.read .i32 cs with
  | .ok n => .ok (.length n.toNat)
  | .error _ => .error .lengthOutOfRange

def parseBound (width : IntWidth) (digits : List Char) : Except LimitFault Int :=
  (Integer.read width digits).mapError .badBound

def parseIntRange (width : IntWidth) (least greatest : List Char) : Except LimitFault Limit := do
  let least ← parseBound width least
  let greatest ← parseBound width greatest
  if greatest < least then .error .upperBelowLower else .ok (.intRange least greatest)

def parseFloatRange (least greatest : List Char) : Except LimitFault Limit :=
  match Decimal.read least, Decimal.read greatest with
  | some least, some greatest =>
    if greatest.lt least then .error .upperBelowLower else .ok (.floatRange least greatest)
  | _, _ => .error (.stated "bad float: invalid float literal")

def parseItem (item : List Char) : Except LimitFault Int :=
  (Integer.read .i64 item).mapError .badItem

/-- Reads the limit of a field. An expression counts as the first of these that it has the form of:
a pattern, a length, a range of integers, a range of doubles, a list. -/
def parse (typeName expr : String) : Except FormError (Option Limit) :=
  let invalid (result : Except LimitFault Limit) : Except FormError (Option Limit) :=
    (result.map some).mapError (.invalidLimit expr)
  let mismatch : Except FormError (Option Limit) := .error (.limitMismatch expr typeName)
  match expr.toList with
  | [] => .ok none
  | 'r' :: 'e' :: ':' :: source =>
    match Pattern.read (String.ofList source) with
    | some read => .ok (some (.pattern (String.ofList source) read))
    | none => invalid (.error .badPattern)
  | cs =>
    if isLength cs then if hasLength typeName then invalid (parseLength cs) else mismatch
    else
      match intBounds? cs with
      | some (least, greatest) => invalid (parseIntRange (boundWidth typeName) least greatest)
      | none =>
        match floatBounds? cs with
        | some (least, greatest) =>
          if typeName = "float" then invalid (parseFloatRange least greatest) else mismatch
        | none =>
          let items := Text.pieces ',' cs
          if items.any List.isEmpty then invalid (.error .emptyItem)
          else if typeName = "string" then .ok (some (.texts (items.map String.ofList)))
          else if typeName = "int" ∨ typeName = "int64" then
            invalid ((items.mapM parseItem).map .ints)
          else mismatch

end Limit

end FormIntake
