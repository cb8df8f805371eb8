import FormIntake.Calendar.Offset
import FormIntake.Error

namespace FormIntake

structure Settings where
  trimWhitespace : Bool
  timeZone : String
  dateLayouts : List String
  dateTimeLayouts : List String
  logLevel : String
  debug : Bool
  deriving DecidableEq, Repr

namespace Settings

def defaultDateLayouts : List String :=
  ["%Y. %m. %d.", "%Y. %m. %d", "%Y.%m.%d.", "%Y.%m.%d", "%Y-%m-%d", "%Y %m %d", "%Y%m%d",
    "%d.%m.%Y", "%m/%d/%Y"]

def defaultDateTimeLayouts : List String :=
  ["%Y. %m. %d. %H:%M", "%Y. %m. %d %H:%M", "%Y.%m.%d. %H:%M", "%Y.%m.%d %H:%M",
    "%Y-%m-%d %H:%M", "%Y %m %d %H:%M", "%Y%m%d%H%M%S", "%d.%m.%Y %H:%M", "%m/%d/%Y %H:%M"]

/-- Central European standard time, and the layouts of Hungarian, German and English forms. -/
def standard : Settings where
  trimWhitespace := true
  timeZone := "+01:00"
  dateLayouts := defaultDateLayouts
  dateTimeLayouts := defaultDateTimeLayouts
  logLevel := "info"
  debug := false

instance : Inhabited Settings := ⟨standard⟩

def offset (s : Settings) : Except ConfigurationFault UtcOffset :=
  match UtcOffset.ofZone? s.timeZone with
  | some offset => .ok offset
  | none => .error (.invalidTimeZone s.timeZone)

/-- Whether dates can be read with the settings; the first fault is reported. -/
def check (s : Settings) : Except ConfigurationFault Unit := do
  let _ ← s.offset
  if s.dateLayouts.isEmpty then .error .noDateLayouts
  else if s.dateTimeLayouts.isEmpty then .error .noDateTimeLayouts
  else .ok ()

theorem check_standard : standard.check = .ok () := rfl

theorem check_eq_ok_iff {s : Settings} :
    s.check = .ok () ↔
      UtcOffset.ofZone? s.timeZone ≠ none ∧ s.dateLayouts ≠ [] ∧ s.dateTimeLayouts ≠ [] := by
  unfold check offset
  cases UtcOffset.ofZone? s.timeZone with
  | none => simp [bind, Except.bind]
  | some offset =>
    cases s.dateLayouts with
    | nil => simp [bind, Except.bind]
    | cons =>
      cases s.dateTimeLayouts with
      | nil => simp [bind, Except.bind]
      | cons => simp [bind, Except.bind]

theorem check_of_invalid_zone {s : Settings} (invalid : UtcOffset.ofZone? s.timeZone = none) :
    s.check = .error (.invalidTimeZone s.timeZone) := by
  simp only [check, offset, invalid, bind, Except.bind]

def checked (s : Settings) : Except FormError Settings :=
  match s.check with
  | .ok () => .ok s
  | .error fault => .error (.configuration fault)

end Settings

end FormIntake
