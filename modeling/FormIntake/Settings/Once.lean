import FormIntake.Settings

namespace FormIntake

structure SettingsOnce where
  installed : Option Settings
  deriving DecidableEq

namespace SettingsOnce

def fresh : SettingsOnce := ⟨none⟩

def isConfigured (o : SettingsOnce) : Bool := o.installed.isSome

def configure (o : SettingsOnce) (s : Settings) : Except ConfigurationFault SettingsOnce := do
  s.check
  match o.installed with
  | some _ => .error .alreadyConfigured
  | none => .ok ⟨some s⟩

/-- The installed settings; reading installs the standard ones where there are none. -/
def get (o : SettingsOnce) : Settings × SettingsOnce :=
  let s := o.installed.getD .standard
  (s, ⟨some s⟩)

inductive Action
  | configure (s : Settings)
  | get
  | isConfigured

inductive Answer
  | configured (result : Except ConfigurationFault Unit)
  | settings (s : Settings)
  | truth (b : Bool)

structure Exchange where
  action : Action
  answer : Answer

def perform (o : SettingsOnce) : Action → Answer × SettingsOnce
  | .configure s =>
    match o.configure s with
    | .ok next => (.configured (.ok ()), next)
    | .error fault => (.configured (.error fault), o)
  | .get => (.settings o.get.1, o.get.2)
  | .isConfigured => (.truth o.isConfigured, o)

def afterAll (o : SettingsOnce) (actions : List Action) : SettingsOnce :=
  actions.foldl (fun o action => (o.perform action).2) o

def trace (o : SettingsOnce) : List Action → List Exchange
  | [] => []
  | action :: rest => ⟨action, (o.perform action).1⟩ :: trace (o.perform action).2 rest

end SettingsOnce

end FormIntake
