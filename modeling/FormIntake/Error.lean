import FormIntake.Json.Mismatch

namespace FormIntake

structure ValidationError where
  message : String
  code : String
  field : Option String := none
  params : Entries String := []
  deriving DecidableEq

namespace ValidationError

def withField (e : ValidationError) (key : String) : ValidationError := { e with field := some key }

def withParam (e : ValidationError) (name value : String) : ValidationError :=
  { e with params := e.params.insert name value }

end ValidationError

structure ValidationErrors where
  toList : List ValidationError
  deriving DecidableEq

namespace ValidationErrors

def empty : ValidationErrors := ⟨[]⟩

def push (es : ValidationErrors) (e : ValidationError) : ValidationErrors := ⟨es.toList ++ [e]⟩

def size (es : ValidationErrors) : Nat := es.toList.length

def isEmpty (es : ValidationErrors) : Bool := es.toList.isEmpty

def forField (es : ValidationErrors) (key : String) : List ValidationError :=
  es.toList.filter fun e => e.field = some key

def message (es : ValidationErrors) : String :=
  String.intercalate "\n" (es.toList.map (·.message))

end ValidationErrors

/-- Why an expression is no limit. In each of these types `stated` is a reason in other words. -/
inductive LimitFault
  | badPattern
  | lengthOutOfRange
  | badBound (fault : IntegerFault)
  | upperBelowLower
  | emptyItem
  | badItem (fault : IntegerFault)
  | stated (reason : String)
  deriving DecidableEq

def LimitFault.message : LimitFault → String
  | badPattern => "bad pattern"
  | lengthOutOfRange => "length out of range"
  | badBound fault => "bad range bound: " ++ fault.message
  | upperBelowLower => "upper < lower"
  | emptyItem => "unknown limit"
  | badItem fault => "bad integer in list: " ++ fault.message
  | stated reason => reason

inductive TransferFault
  | notARecord
  | unfillable (found : Mismatch)
  | stated (reason : String)
  deriving DecidableEq

def TransferFault.message : TransferFault → String
  | notARecord => "target is not a record"
  | unfillable found => "cannot fill target: " ++ found.message
  | stated reason => reason

inductive Format
  | json | toml
  deriving DecidableEq, Repr

def Format.name : Format → String
  | json => "JSON"
  | toml => "TOML"

inductive ConfigurationFault
  | invalidTimeZone (zone : String)
  | noDateLayouts
  | noDateTimeLayouts
  | alreadyConfigured
  | unreadable (format : Format)
  | mismatch (format : Format) (found : Mismatch)
  | stated (reason : String)
  deriving DecidableEq

def ConfigurationFault.message : ConfigurationFault → String
  | invalidTimeZone zone => "Invalid time zone: '" ++ zone ++ "'"
  | noDateLayouts => "date_formats must not be empty"
  | noDateTimeLayouts => "date_time_formats must not be empty"
  | alreadyConfigured => "Settings have already been configured"
  | unreadable format => "Failed to parse " ++ format.name
  | mismatch format found =>
    "Failed to deserialize settings from " ++ format.name ++ ": " ++ found.message
  | stated reason => reason

inductive IoFault
  | notFound
  | notText
  | stated (reason : String)
  deriving DecidableEq

def IoFault.message : IoFault → String
  | notFound => "No such file or directory (os error 2)"
  | notText => "stream did not contain valid UTF-8"
  | stated reason => reason

inductive FormError
  | validation (errors : ValidationErrors)
  | unknownType (name : String)
  | emptyKey
  | invalidLimit (limit : String) (fault : LimitFault)
  | limitMismatch (limit typeName : String)
  | transfer (fault : TransferFault)
  | configuration (fault : ConfigurationFault)
  | io (fault : IoFault)
  deriving DecidableEq

namespace FormError

def message : FormError → String
  | validation errors => errors.message
  | unknownType name => "Unsupported field type: " ++ name
  | emptyKey => "Empty field key"
  | invalidLimit limit fault => "Invalid limit '" ++ limit ++ "': " ++ fault.message
  | limitMismatch limit typeName =>
    "Limit '" ++ limit ++ "' does not apply to type " ++ typeName
  | transfer fault => "Transfer error: " ++ fault.message
  | configuration fault => "Configuration error: " ++ fault.message
  | io fault => "IO error: " ++ fault.message

/-- Whether the set-up is to blame and not what was submitted. -/
def isConfiguration : FormError → Bool
  | validation _ => false
  | _ => true

def validationErrors? : FormError → Option ValidationErrors
  | validation errors => some errors
  | _ => none

end FormError

end FormIntake
