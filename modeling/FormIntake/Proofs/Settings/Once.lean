import FormIntake.Decoder
import FormIntake.Settings.Once
import Mathlib.Data.List.Basic
import Mathlib.Tactic.Push

namespace FormIntake

def FieldSpec.dated (spec : FieldSpec) (found : Option DateTime) :
    Except ValidationError FormValue := do
  match found with
  | some t =>
    spec.validate (.dateTime t)
    return .dateTime t
  | none => .error (spec.complaint ("could not be converted to " ++ spec.typeName) "invalid")

/-- Dates are read at an offset: whatever is submitted for whichever field, layouts alone decide. -/
structure Decoder.ReadsDatesAt (d : Decoder) (offset : UtcOffset) : Prop where
  zone : d.settings.offset = .ok offset
  date : ∀ {σ : Type} [FormSource σ] (source : σ) (spec : FieldSpec),
    spec.fieldType = .builtin .date → d.rawValue source spec ≠ "" → d.clean source spec =
      spec.dated (Kind.readDate d.settings.dateLayouts offset (d.rawValue source spec))
  dateTime : ∀ {σ : Type} [FormSource σ] (source : σ) (spec : FieldSpec),
    spec.fieldType = .builtin .dateTime → d.rawValue source spec ≠ "" → d.clean source spec =
      spec.dated (Kind.readDateTime d.settings.dateTimeLayouts offset (d.rawValue source spec))
  dateFlex : ∀ {σ : Type} [FormSource σ] (source : σ) (spec : FieldSpec),
    spec.fieldType = .builtin .dateFlex → d.rawValue source spec ≠ "" → d.clean source spec =
      spec.dated ((Kind.readDate d.settings.dateLayouts offset (d.rawValue source spec)).or
        (Kind.readDateTime d.settings.dateTimeLayouts offset (d.rawValue source spec)))

theorem Decoder.clean_of_inZone {d : Decoder} {offset : UtcOffset}
    (zone : d.settings.offset = .ok offset) {σ : Type} [FormSource σ] {source : σ}
    {spec : FieldSpec} (submitted : d.rawValue source spec ≠ "")
    (read : UtcOffset → Option DateTime)
    (converts : spec.fieldType.convert (d.rawValue source spec) d.settings =
      (Kind.inZone d.settings (d.rawValue source spec) read).map .dateTime) :
    d.clean source spec = spec.dated (read offset) := by
  have reads : Kind.inZone d.settings (d.rawValue source spec) read = read offset := by
    rw [Kind.inZone, if_neg submitted, zone]
    rfl
  rw [reads] at converts
  rw [Decoder.clean, if_neg (fun missing => submitted missing.1), FieldSpec.convert, converts]
  cases found : read offset <;> rfl

theorem Decoder.exists_readsDatesAt (d : Decoder) : ∃ offset, d.ReadsDatesAt offset := by
  have valid := (Settings.check_eq_ok_iff.1 d.usable).1
  obtain ⟨offset, found⟩ := Option.ne_none_iff_exists'.1 valid
  have zone : d.settings.offset = .ok offset := by rw [Settings.offset, found]
  refine ⟨offset, zone, ?date, ?dateTime, ?dateFlex⟩
  case date =>
    intro σ _ source spec type submitted
    apply clean_of_inZone zone submitted fun offset =>
      Kind.readDate d.settings.dateLayouts offset (d.rawValue source spec)
    simp only [type, FieldType.convert, Kind.convert]
  case dateTime =>
    intro σ _ source spec type submitted
    apply clean_of_inZone zone submitted fun offset =>
      Kind.readDateTime d.settings.dateTimeLayouts offset (d.rawValue source spec)
    simp only [type, FieldType.convert, Kind.convert]
  case dateFlex =>
    intro σ _ source spec type submitted
    apply clean_of_inZone zone submitted fun offset =>
      (Kind.readDate d.settings.dateLayouts offset (d.rawValue source spec)).or
        (Kind.readDateTime d.settings.dateTimeLayouts offset (d.rawValue source spec))
    simp only [type, FieldType.convert, Kind.convert]

theorem Decoder.exists_ofSettings {s : Settings} (passes : s.check = .ok ()) :
    ∃ d, ofSettings s = .ok d ∧ d.settings = s := by
  refine ⟨⟨s, passes⟩, ?_, rfl⟩
  unfold ofSettings
  split
  · rfl
  · simp_all

namespace SettingsOnce

/-- From this exchange on the settings stay: they have been read or configured. -/
def Exchange.Settles (e : Exchange) : Prop := e.action = .get ∨ e.answer = .configured (.ok ())

/-- What callers can rely on in any exchanges that begin with nothing installed. -/
structure Regular (exchanges : List Exchange) : Prop where
  configured : ∀ before s answer after, exchanges = before ++ ⟨.configure s, answer⟩ :: after →
    (answer = .configured (.ok ()) ↔ s.check = .ok () ∧ ∀ e ∈ before, ¬ e.Settles)
  once : exchanges.Pairwise fun e later =>
    e.answer = .configured (.ok ()) → later.answer ≠ .configured (.ok ())
  reads : ∃ s, (∀ answer, ⟨.get, answer⟩ ∈ exchanges → answer = .settings s) ∧
    (∀ t, ⟨.configure t, .configured (.ok ())⟩ ∈ exchanges → t = s) ∧
    ((∀ e ∈ exchanges, e.answer ≠ .configured (.ok ())) → s = .standard)
  told : ∀ before answer after, exchanges = before ++ ⟨.isConfigured, answer⟩ :: after →
    ∃ b, answer = .truth b ∧ (b = true ↔ ∃ e ∈ before, e.Settles)
  checked : ∀ s, ⟨.get, .settings s⟩ ∈ exchanges → s.check = .ok ()

/-- The settings that an exchange installs, if nothing is installed yet. -/
def Exchange.installs? : Exchange → Option Settings
  | ⟨.configure s, .configured (.ok ())⟩ => some s
  | ⟨.get, .settings s⟩ => some s
  | _ => none

def Checked (o : SettingsOnce) : Prop := ∀ s, o.installed = some s → s.check = .ok ()

def Unconfigured (o : SettingsOnce) : Prop := ∀ s, o.installed = some s → s = .standard

/-- The exchanges that there can be, and what each leaves installed. -/
inductive Makes (o : SettingsOnce) : Exchange → SettingsOnce → Prop
  | configured {s : Settings} (passes : s.check = .ok ()) (nothing : o.installed = none) :
      Makes o ⟨.configure s, .configured (.ok ())⟩ ⟨some s⟩
  | refused {s : Settings} {fault : ConfigurationFault}
      (unfit : ¬ (s.check = .ok () ∧ o.installed = none)) :
      Makes o ⟨.configure s, .configured (.error fault)⟩ o
  | read {s : Settings} (known : o.installed.getD .standard = s) :
      Makes o ⟨.get, .settings s⟩ ⟨some s⟩
  | told {b : Bool} (known : o.installed.isSome = b) : Makes o ⟨.isConfigured, .truth b⟩ o

theorem makes_configure (o : SettingsOnce) (s : Settings) :
    Makes o ⟨.configure s, (o.perform (.configure s)).1⟩ (o.perform (.configure s)).2 := by
  cases checked : s.check with
  | error fault =>
    have refused : o.perform (.configure s) = (.configured (.error fault), o) := by
      simp only [perform, configure, checked, bind, Except.bind]
    rw [refused]
    exact .refused fun fit => by simp [fit.1] at checked
  | ok =>
    cases found : o.installed with
    | none =>
      have configured : o.perform (.configure s) = (.configured (.ok ()), ⟨some s⟩) := by
        simp only [perform, configure, checked, found, bind, Except.bind]
      rw [configured]
      exact .configured checked found
    | some old =>
      have refused : o.perform (.configure s) =
          (.configured (.error .alreadyConfigured), o) := by
        simp only [perform, configure, checked, found, bind, Except.bind]
      rw [refused]
      exact .refused fun fit => by simp [fit.2] at found

theorem makes_perform (o : SettingsOnce) (action : Action) :
    Makes o ⟨action, (o.perform action).1⟩ (o.perform action).2 := by
  cases action with
  | configure s => exact makes_configure o s
  | get => exact .read rfl
  | isConfigured => exact .told rfl

section

variable {o next : SettingsOnce} {e : Exchange} {s : Settings}

theorem Makes.installed (makes : Makes o e next) :
    next.installed = o.installed.or e.installs? := by
  cases makes with
  | configured _ nothing => simp [nothing, Exchange.installs?]
  | refused => simp [Exchange.installs?]
  | read known => cases found : o.installed <;> simp_all [Exchange.installs?]
  | told => simp [Exchange.installs?]

theorem Makes.installs?_eq_none_iff (makes : Makes o e next) :
    e.installs? = none ↔ ¬ e.Settles := by
  cases makes <;> simp [Exchange.installs?, Exchange.Settles]

theorem Makes.installed_of_installs? (makes : Makes o e next) (installs : e.installs? = some s) :
    next.installed = some s := by
  cases makes with
  | configured | read => exact installs
  | refused | told => cases installs

theorem Makes.checked (makes : Makes o e next) (passed : o.Checked) : next.Checked := by
  cases makes with
  | configured passes => exact fun _ found => Option.some.inj found ▸ passes
  | refused | told => exact passed
  | read known =>
    rintro s ⟨⟩
    cases found : o.installed with
    | none =>
      rw [← known, found]
      exact Settings.check_standard
    | some old =>
      rw [← known, found]
      exact passed old found

theorem Makes.unconfigured (makes : Makes o e next) (standard : o.Unconfigured)
    (other : e.answer ≠ .configured (.ok ())) : next.Unconfigured := by
  cases makes with
  | configured => exact absurd rfl other
  | refused | told => exact standard
  | read known =>
    rintro s ⟨⟩
    cases found : o.installed with
    | none =>
      rw [← known, found]
      rfl
    | some old =>
      rw [← known, found]
      exact standard old found

end

section

variable {o : SettingsOnce} {actions : List Action} {before after : List Exchange} {e : Exchange}

theorem afterAll_cons (o : SettingsOnce) (action : Action) (rest : List Action) :
    o.afterAll (action :: rest) = (o.perform action).2.afterAll rest := rfl

theorem afterAll_append (o : SettingsOnce) (first later : List Action) :
    o.afterAll (first ++ later) = (o.afterAll first).afterAll later := List.foldl_append

/-- The first exchange that installs settings decides, unless they are installed already. -/
theorem installed_afterAll (o : SettingsOnce) (actions : List Action) :
    (o.afterAll actions).installed =
      o.installed.or ((o.trace actions).findSome? Exchange.installs?) := by
  induction actions generalizing o with
  | nil => simp [afterAll, trace]
  | cons action rest ih =>
    rw [afterAll_cons, ih, (makes_perform o action).installed, trace, List.findSome?_cons,
      Option.or_assoc]
    cases found : Exchange.installs? ⟨action, (o.perform action).1⟩ with
    | none => rw [Option.none_or]
    | some s => rw [Option.some_or]

theorem trace_append (o : SettingsOnce) (first later : List Action) :
    o.trace (first ++ later) = o.trace first ++ (o.afterAll first).trace later := by
  induction first generalizing o with
  | nil => rfl
  | cons action rest ih =>
    rw [List.cons_append, trace, trace, ih, List.cons_append]
    rfl

theorem actions_trace (o : SettingsOnce) (actions : List Action) :
    (o.trace actions).map (·.action) = actions := by
  induction actions generalizing o with
  | nil => rfl
  | cons action rest ih => rw [trace, List.map_cons, ih]

theorem of_split (split : o.trace actions = before ++ e :: after) :
    ∃ first later next, actions = first ++ e.action :: later ∧ before = o.trace first ∧
      Makes (o.afterAll first) e next ∧ next = o.afterAll (first ++ [e.action]) ∧
      after = next.trace later := by
  induction before generalizing o actions with
  | nil =>
    cases actions with
    | nil => cases split
    | cons action rest =>
      cases split
      exact ⟨[], rest, _, rfl, rfl, makes_perform o action, rfl, rfl⟩
  | cons head before ih =>
    cases actions with
    | nil => cases split
    | cons action rest =>
      obtain ⟨same, tail⟩ := List.cons.inj split
      obtain ⟨first, later, next, rfl, rfl, makes, reached, rest⟩ := ih tail
      exact ⟨action :: first, later, next, rfl, by rw [trace, same], makes, reached, rest⟩

end

theorem afterAll_of_makes {P : SettingsOnce → Prop} {allowed : Exchange → Prop}
    (step : ∀ o e next, Makes o e next → allowed e → P o → P next)
    {o : SettingsOnce} (start : P o) {actions : List Action}
    (all : ∀ e ∈ o.trace actions, allowed e) : P (o.afterAll actions) := by
  induction actions generalizing o with
  | nil => exact start
  | cons action rest ih =>
    obtain ⟨first, later⟩ := List.forall_mem_cons.1 all
    exact ih (step o _ _ (makes_perform o action) first start) later

section

variable {actions : List Action} {before after : List Exchange} {answer : Answer} {s : Settings}

theorem installed_eq_none_iff :
    (fresh.afterAll actions).installed = none ↔ ∀ e ∈ fresh.trace actions, ¬ e.Settles := by
  rw [installed_afterAll, fresh, Option.none_or, List.findSome?_eq_none_iff]
  refine forall₂_congr fun e member => ?_
  obtain ⟨before, after, split⟩ := List.append_of_mem member
  obtain ⟨_, _, _, _, _, makes, _⟩ := of_split split
  exact makes.installs?_eq_none_iff

theorem checked_afterAll (actions : List Action) : (fresh.afterAll actions).Checked := by
  have start : fresh.Checked := nofun
  exact afterAll_of_makes (fun _ _ _ makes _ => makes.checked) start fun _ _ => trivial

theorem unconfigured_afterAll
    (others : ∀ e ∈ fresh.trace actions, e.answer ≠ .configured (.ok ())) :
    (fresh.afterAll actions).Unconfigured := by
  have start : fresh.Unconfigured := nofun
  exact afterAll_of_makes (fun _ _ _ makes other standard => makes.unconfigured standard other)
    start others

theorem installed_of_mem {e : Exchange} (member : e ∈ fresh.trace actions)
    (installs : e.installs? = some s) : (fresh.afterAll actions).installed = some s := by
  obtain ⟨before, after, split⟩ := List.append_of_mem member
  obtain ⟨first, later, next, rfl, _, makes, reached, _⟩ := of_split split
  have here := makes.installed_of_installs? installs
  have whole : first ++ e.action :: later = first ++ [e.action] ++ later := by simp
  rw [whole, afterAll_append, ← reached, installed_afterAll, here, Option.some_or]

theorem configured_iff_of_split
    (split : fresh.trace actions = before ++ ⟨.configure s, answer⟩ :: after) :
    answer = .configured (.ok ()) ↔ s.check = .ok () ∧ ∀ e ∈ before, ¬ e.Settles := by
  obtain ⟨first, _, _, _, rfl, makes, _⟩ := of_split split
  rw [← installed_eq_none_iff]
  cases makes with
  | configured passes nothing => exact iff_of_true rfl ⟨passes, nothing⟩
  | refused unfit => exact iff_of_false nofun unfit

theorem told_of_split
    (split : fresh.trace actions = before ++ ⟨.isConfigured, answer⟩ :: after) :
    ∃ b, answer = .truth b ∧ (b = true ↔ ∃ e ∈ before, e.Settles) := by
  obtain ⟨first, _, _, _, rfl, makes, _⟩ := of_split split
  cases makes with
  | told known =>
    refine ⟨_, rfl, ?_⟩
    rw [← known, Option.isSome_iff_ne_none, ne_eq, installed_eq_none_iff]
    push Not
    rfl

theorem trace_pairwise (actions : List Action) : (fresh.trace actions).Pairwise fun e later =>
    e.answer = .configured (.ok ()) → later.answer ≠ .configured (.ok ()) := by
  rw [List.pairwise_iff_getElem]
  intro i j _ inside earlier first second
  have split := List.take_append_drop j (fresh.trace actions)
  rw [List.drop_eq_getElem_cons inside] at split
  obtain ⟨done, _, _, _, taken, makes, _⟩ := of_split split.symm
  generalize (fresh.trace actions)[j] = e at makes second
  have settled : ∃ e ∈ fresh.trace done, e.Settles := by
    rw [← taken]
    exact ⟨_, List.mem_take_iff_getElem.2 ⟨i, by omega, rfl⟩, .inr first⟩
  cases makes with
  | configured _ nothing =>
    obtain ⟨e, member, settles⟩ := settled
    exact installed_eq_none_iff.1 nothing e member settles
  | refused | read | told => cases second

theorem exists_read (actions : List Action) : ∃ s,
    (∀ answer, ⟨.get, answer⟩ ∈ fresh.trace actions → answer = .settings s) ∧
    (∀ t, ⟨.configure t, .configured (.ok ())⟩ ∈ fresh.trace actions → t = s) ∧
    ((∀ e ∈ fresh.trace actions, e.answer ≠ .configured (.ok ())) → s = .standard) := by
  refine ⟨(fresh.afterAll actions).installed.getD .standard, ?read, ?configured, ?standard⟩
  case read =>
    intro answer member
    obtain ⟨before, after, split⟩ := List.append_of_mem member
    obtain ⟨_, _, _, _, _, makes, _⟩ := of_split split
    cases makes with
    | read => rw [installed_of_mem member rfl, Option.getD_some]
  case configured =>
    intro t member
    rw [installed_of_mem member rfl, Option.getD_some]
  case standard =>
    intro others
    have only := unconfigured_afterAll others
    cases found : (fresh.afterAll actions).installed with
    | none => rfl
    | some s => exact only s found

theorem check_of_read (read : ⟨.get, .settings s⟩ ∈ fresh.trace actions) : s.check = .ok () :=
  checked_afterAll actions s (installed_of_mem read rfl)

theorem regular_trace (actions : List Action) : Regular (fresh.trace actions) where
  configured _ _ _ _ := configured_iff_of_split
  once := trace_pairwise actions
  reads := exists_read actions
  told _ _ _ := told_of_split
  checked _ := check_of_read

theorem trace_without_refused {fault : ConfigurationFault}
    (split : fresh.trace actions =
      before ++ ⟨.configure s, .configured (.error fault)⟩ :: after) :
    fresh.trace ((before ++ after).map (·.action)) = before ++ after := by
  obtain ⟨first, later, next, _, rfl, makes, _, rfl⟩ := of_split split
  cases makes with
  | refused => rw [← trace_append, actions_trace]

end

/-- Settings are configured once at most, before the first read, and a configuration that fails does
nothing. Whatever is read makes a decoder, and a decoder always has a time zone for dates. -/
theorem configure_once (actions : List Action) :
    Regular (fresh.trace actions) ∧
    (∀ before s fault after,
      fresh.trace actions = before ++ ⟨.configure s, .configured (.error fault)⟩ :: after →
      fresh.trace ((before ++ after).map (·.action)) = before ++ after) ∧
    (∀ s, ⟨.get, .settings s⟩ ∈ fresh.trace actions →
      ∃ d, Decoder.ofSettings s = .ok d ∧ d.settings = s) ∧
    ∀ d : Decoder, ∃ offset, d.ReadsDatesAt offset := by
  refine ⟨regular_trace actions, fun _ _ _ _ => trace_without_refused, ?_, ?_⟩
  · intro s read
    exact Decoder.exists_ofSettings (check_of_read read)
  · exact Decoder.exists_readsDatesAt

def inZone (zone : String) : Settings := { Settings.standard with timeZone := zone }

/-- Settings that fail the check do not use up the one configuration. -/
theorem configure_after_invalid :
    fresh.trace [.configure (inZone "nowhere"), .isConfigured, .configure (inZone "UTC"), .get] =
      [⟨.configure (inZone "nowhere"), .configured (.error (.invalidTimeZone "nowhere"))⟩,
        ⟨.isConfigured, .truth false⟩, ⟨.configure (inZone "UTC"), .configured (.ok ())⟩,
        ⟨.get, .settings (inZone "UTC")⟩] ∧
    ∃ d, Decoder.ofSettings (inZone "UTC") = .ok d ∧ d.settings = inZone "UTC" := by
  have told : fresh.trace [.configure (inZone "nowhere"), .isConfigured, .configure (inZone "UTC"),
      .get] = [⟨.configure (inZone "nowhere"), .configured (.error (.invalidTimeZone "nowhere"))⟩,
        ⟨.isConfigured, .truth false⟩, ⟨.configure (inZone "UTC"), .configured (.ok ())⟩,
        ⟨.get, .settings (inZone "UTC")⟩] := rfl
  obtain ⟨_, _, usable, _⟩ := configure_once
    [.configure (inZone "nowhere"), .isConfigured, .configure (inZone "UTC"), .get]
  rw [told] at usable
  exact ⟨told, usable _ (by simp)⟩

end SettingsOnce

end FormIntake
