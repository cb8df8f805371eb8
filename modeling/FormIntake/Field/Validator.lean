import FormIntake.Field.Basic
import FormIntake.Text.Glyph

namespace FormIntake.Validator

def notA (f : Field) (value : FormValue) (expected : String) : ValidationError :=
  (f.complaint ("is not a " ++ expected) "invalid").withParam "kind" value.kind

def wrongLength (f : Field) (length : Nat) : ValidationError :=
  (f.complaint "has the wrong length" "length").withParam "length" (toString length)

def wrongValue (f : Field) : ValidationError := f.complaint "has the wrong value" "choice"

def tooLow (f : Field) (least : String) : ValidationError :=
  (f.complaint "is too low" "too_low").withParam "min" least

def tooHigh (f : Field) (greatest : String) : ValidationError :=
  (f.complaint "is too high" "too_high").withParam "max" greatest

def require (good : Bool) (error : ValidationError) : Except ValidationError Unit :=
  if good then .ok () else .error error

def checkText (f : Field) (s : String) : Limit → Except ValidationError Unit
  | .length n => require (Text.glyphLength s = n) (wrongLength f n)
  | .intRange least greatest =>
    let length : Int := Text.glyphLength s
    if length < least then
      .error ((f.complaint "is too short" "too_short").withParam "min" (toString least))
    else if greatest < length then
      .error ((f.complaint "is too long" "too_long").withParam "max" (toString greatest))
    else .ok ()
  | .pattern source p =>
    require (p.occursIn s.toList)
      ((f.complaint "has the wrong format" "format").withParam "pattern" source)
  | .texts accepted => require (accepted.contains s) (wrongValue f)
  | .floatRange .. | .ints _ => .ok ()

def checkInt (f : Field) (n : Int) : Limit → Except ValidationError Unit
  | .length length => require ((toString n).length = length) (wrongLength f length)
  | .intRange least greatest =>
    if n < least then .error (tooLow f (toString least))
    else if greatest < n then .error (tooHigh f (toString greatest))
    else .ok ()
  | .ints accepted => require (accepted.contains n) (wrongValue f)
  | .floatRange .. | .texts _ | .pattern .. => .ok ()

/-- Holds a double against bounds; one that is no number lies neither below nor above them. -/
def checkFloatRange (f : Field) (x least greatest : Binary64) : Except ValidationError Unit :=
  if x.lt least then .error (tooLow f least.text)
  else if greatest.lt x then .error (tooHigh f greatest.text)
  else .ok ()

/-- Holds a double against a limit; whole bounds count as the doubles nearest to them. -/
def checkFloat (f : Field) (x : Binary64) : Limit → Except ValidationError Unit
  | .intRange least greatest => checkFloatRange f x (.ofInt least) (.ofInt greatest)
  | .floatRange least greatest => checkFloatRange f x least greatest
  | .length _ | .texts _ | .ints _ | .pattern .. => .ok ()

def againstLimit (f : Field) (check : Limit → Except ValidationError Unit) :
    Except ValidationError Unit :=
  match f.limit with
  | some limit => check limit
  | none => .ok ()

def text : Validator := fun f value =>
  match value.asText? with
  | some s => againstLimit f (checkText f s)
  | none => .error (notA f value "string")

def integer : Validator := fun f value =>
  match value.asInt? with
  | some n => againstLimit f (checkInt f n)
  | none => .error (notA f value "integer")

def float : Validator := fun f value =>
  match value.asFloat? with
  | some x => againstLimit f (checkFloat f x)
  | none => .error (notA f value "float")

end FormIntake.Validator
