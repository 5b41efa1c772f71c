import DdeTrayLoader.Transition.Remote
import DdeTrayLoader.Transition.Run
import Mathlib.Logic.Function.Basic

/-!
# What an indicator shows

The file of an indicator names where its text and its icon come from: a method of a service, a
property of one, or both. The handler reads them when it starts and then follows the signals of
the services. It listens on the session bus, also where the file names the system bus.

Each value that comes in, of the text or of the icon, makes the indicator enabled when it is not
empty and disabled when it is.

Texts and images are kept as their bytes, since the ways in which the source reads a text agree.
The text and the icon each have their own queue of messages, so that the messages of two services
arrive in any order.
-/

namespace DdeTrayLoader.Tray

open DdeTrayLoader.Transition

abbrev Bytes : Type := List UInt8

/-- The keys `"text"` and `"icon"` of `data`. -/
inductive Feature
  | text
  | icon
  deriving DecidableEq

/-- An object of `data`, with the members that `featData` reads. -/
structure DataConfig where
  dbusInterface : String
  systemDBus : Bool
  /-- There is a `dbus_method`. -/
  dbusMethod : Bool
  dbusProperties : Option String

/-- What arrives at the slot of a feature. -/
inductive ChangeMessage
  /-- `PropertiesChanged`, with its interface and the properties that have values in it. -/
  | propertiesChanged (interfaceName : String) (changedProps : List (String × Bytes))
  /-- The signal of the property, with its one argument. -/
  | propertySignal (value : Bytes)

/-- `DDEindicatorProtocolHandler` with its private part. -/
structure DDEindicatorProtocolHandler where
  enabled : Bool
  propertyNames : Feature → Option String
  propertyInterfaceNames : Feature → Option String
  /-- `m_text` and `m_pixmapData`. -/
  content : Feature → Bytes

namespace DDEindicatorProtocolHandler

def create : DDEindicatorProtocolHandler := ⟨false, fun _ => none, fun _ => none, fun _ => []⟩

def setEnabled (handler : DDEindicatorProtocolHandler) (enabled : Bool) :
    DDEindicatorProtocolHandler :=
  if enabled = handler.enabled then handler else { handler with enabled := enabled }

/-- The callbacks of a feature. -/
def callback (handler : DDEindicatorProtocolHandler) (feature : Feature) (value : Bytes) :
    DDEindicatorProtocolHandler :=
  { handler.setEnabled !value.isEmpty with
    content := Function.update handler.content feature value }

/-- `featData`, with what the method and the property are when it asks. -/
def featData (handler : DDEindicatorProtocolHandler) (feature : Feature) (dataConfig : DataConfig)
    (reply : Bytes) (property : String → Bytes) : DDEindicatorProtocolHandler :=
  let handler := if dataConfig.dbusMethod then handler.callback feature reply else handler
  match dataConfig.dbusProperties with
  | none => handler
  | some propertyName =>
    { handler with
      propertyInterfaceNames := Function.update handler.propertyInterfaceNames feature
        (some dataConfig.dbusInterface)
      propertyNames := Function.update handler.propertyNames feature
        (some propertyName) }.callback feature (property propertyName)

/-- `propertyChanged` -/
def propertyChanged (handler : DDEindicatorProtocolHandler) (feature : Feature) :
    ChangeMessage → DDEindicatorProtocolHandler
  | .propertySignal value => handler.callback feature value
  | .propertiesChanged interfaceName changedProps =>
    if interfaceName ≠ (handler.propertyInterfaceNames feature).getD "" then handler
    else
      match changedProps.lookup ((handler.propertyNames feature).getD "") with
      | none => handler
      | some value => handler.callback feature value

@[simp] theorem enabled_callback (handler : DDEindicatorProtocolHandler) (feature : Feature)
    (value : Bytes) : (handler.callback feature value).enabled = !value.isEmpty := by
  unfold callback setEnabled
  split_ifs with hsame
  · exact hsame.symm
  · rfl

@[simp] theorem content_callback (handler : DDEindicatorProtocolHandler) (feature : Feature)
    (value : Bytes) : (handler.callback feature value).content =
      Function.update handler.content feature value := rfl

@[simp] theorem propertyNames_callback (handler : DDEindicatorProtocolHandler) (feature : Feature)
    (value : Bytes) : (handler.callback feature value).propertyNames = handler.propertyNames := by
  unfold callback setEnabled
  split_ifs
  · rfl
  · rfl

@[simp] theorem propertyInterfaceNames_callback (handler : DDEindicatorProtocolHandler)
    (feature : Feature) (value : Bytes) :
    (handler.callback feature value).propertyInterfaceNames = handler.propertyInterfaceNames := by
  unfold callback setEnabled
  split_ifs
  · rfl
  · rfl

/-- A message changes nothing, or it is a value for its feature. -/
theorem propertyChanged_cases (handler : DDEindicatorProtocolHandler) (feature : Feature)
    (message : ChangeMessage) :
    handler.propertyChanged feature message = handler ∨
      ∃ value, handler.propertyChanged feature message = handler.callback feature value := by
  cases message with
  | propertySignal value => exact .inr ⟨value, rfl⟩
  | propertiesChanged interfaceName changedProps =>
    unfold propertyChanged
    dsimp only
    split_ifs
    · exact .inl rfl
    · split
      · exact .inl rfl
      · next value _ => exact .inr ⟨value, rfl⟩

end DDEindicatorProtocolHandler

/-! ## The services -/

/-- How a service tells that properties have changed. -/
inductive Announcement
  /-- `PropertiesChanged`, with the values. -/
  | byValue
  /-- `PropertiesChanged`, with the names alone. -/
  | invalidated
  /-- One signal for each property. -/
  | signal
  | silent
  deriving DecidableEq

/-- The messages that the handler's subscriptions let through when properties of an interface of the
object change. -/
def DataConfig.heard (dataConfig : DataConfig) (interfaceName : String)
    (changes : List (String × Bytes)) (announcement : Announcement) : List ChangeMessage :=
  match dataConfig.systemDBus, dataConfig.dbusProperties with
  | false, some propertyName =>
    match announcement with
    | .byValue => [.propertiesChanged interfaceName changes]
    | .invalidated => [.propertiesChanged interfaceName []]
    | .signal =>
      if interfaceName = dataConfig.dbusInterface then
        ((changes.lookup propertyName).map .propertySignal).toList
      else []
    | .silent => []
  | _, _ => []

/-- The object that a feature is read from: the properties of its interface, and the messages on
their way. -/
structure FeatureService where
  properties : String → Bytes
  messages : List ChangeMessage

/-- Properties of an interface of the object change. -/
def FeatureService.assign (service : FeatureService) (dataConfig : DataConfig)
    (interfaceName : String) (changes : List (String × Bytes)) (announcement : Announcement) :
    FeatureService where
  properties :=
    if interfaceName = dataConfig.dbusInterface then
      fun name => (changes.lookup name).getD (service.properties name)
    else service.properties
  messages := service.messages ++ dataConfig.heard interfaceName changes announcement

structure IndicatorSystem where
  config : Feature → Option DataConfig
  handler : DDEindicatorProtocolHandler
  service : Feature → FeatureService

inductive IndicatorEvent
  | assign (feature : Feature) (interfaceName : String) (changes : List (String × Bytes))
    (announcement : Announcement)
  | deliver (feature : Feature)

/-- The value that a message has for the property. -/
def ChangeMessage.told (dataConfig : DataConfig) (propertyName : String) :
    ChangeMessage → Option Bytes
  | .propertySignal value => some value
  | .propertiesChanged interfaceName changedProps =>
    if interfaceName = dataConfig.dbusInterface then changedProps.lookup propertyName else none

namespace IndicatorSystem

/-- The part of `initDBus` that reads a feature. -/
def read (config : Feature → Option DataConfig) (reply : Feature → Bytes)
    (properties : Feature → String → Bytes) (handler : DDEindicatorProtocolHandler)
    (feature : Feature) : DDEindicatorProtocolHandler :=
  match config feature with
  | none => handler
  | some dataConfig => handler.featData feature dataConfig (reply feature) (properties feature)

/-- `initDBus` -/
def create (config : Feature → Option DataConfig) (reply : Feature → Bytes)
    (properties : Feature → String → Bytes) : IndicatorSystem where
  config := config
  handler := [Feature.text, Feature.icon].foldl (read config reply properties) .create
  service := fun feature => ⟨properties feature, []⟩

def step (s : IndicatorSystem) : IndicatorEvent → IndicatorSystem
  | .assign feature interfaceName changes announcement =>
    match s.config feature with
    | none => s
    | some dataConfig =>
      { s with
        service := Function.update s.service feature
          ((s.service feature).assign dataConfig interfaceName changes announcement) }
  | .deliver feature =>
    match (s.service feature).messages with
    | [] => s
    | message :: rest =>
      { s with
        handler := s.handler.propertyChanged feature message
        service := Function.update s.service feature
          { s.service feature with messages := rest } }

variable {s : IndicatorSystem} {feature : Feature} {dataConfig : DataConfig} {propertyName : String}

theorem step_assign (hconfig : s.config feature = some dataConfig) (interfaceName : String)
    (changes : List (String × Bytes)) (announcement : Announcement) :
    s.step (.assign feature interfaceName changes announcement) =
      { s with
        service := Function.update s.service feature
          ((s.service feature).assign dataConfig interfaceName changes announcement) } := by
  unfold step
  dsimp only
  rw [hconfig]

theorem step_deliver {message : ChangeMessage} {rest : List ChangeMessage}
    (hmessages : (s.service feature).messages = message :: rest) :
    s.step (.deliver feature) =
      { s with
        handler := s.handler.propertyChanged feature message
        service := Function.update s.service feature
          { s.service feature with messages := rest } } := by
  unfold step
  dsimp only
  rw [hmessages]

/-- What a step can do. -/
theorem step_cases (s : IndicatorSystem) (e : IndicatorEvent) :
    s.step e = s ∨
      (∃ feature dataConfig interfaceName changes announcement,
        e = .assign feature interfaceName changes announcement ∧
        s.config feature = some dataConfig ∧
        s.step e = { s with
          service := Function.update s.service feature
            ((s.service feature).assign dataConfig interfaceName changes announcement) }) ∨
      ∃ feature message rest, (s.service feature).messages = message :: rest ∧
        s.step e = { s with
          handler := s.handler.propertyChanged feature message
          service := Function.update s.service feature
            { s.service feature with messages := rest } } := by
  cases e with
  | assign feature interfaceName changes announcement =>
    cases hconfig : s.config feature with
    | none =>
      left
      unfold step
      dsimp only
      rw [hconfig]
    | some dataConfig =>
      exact .inr (.inl ⟨feature, dataConfig, interfaceName, changes, announcement, rfl, hconfig,
        step_assign hconfig interfaceName changes announcement⟩)
  | deliver feature =>
    cases hmessages : (s.service feature).messages with
    | nil =>
      left
      unfold step
      dsimp only
      rw [hmessages]
    | cons message rest =>
      exact .inr (.inr ⟨feature, message, rest, hmessages, step_deliver hmessages⟩)

@[simp] theorem config_step (s : IndicatorSystem) (e : IndicatorEvent) :
    (s.step e).config = s.config := by
  rcases s.step_cases e with heq | ⟨_, _, _, _, _, -, -, heq⟩ | ⟨_, _, _, -, heq⟩
  · rw [heq]
  · rw [heq]
  · rw [heq]

/-- The feature is read from a property, and the handler has taken note of its name. -/
structure Reads (s : IndicatorSystem) (feature : Feature) (dataConfig : DataConfig)
    (propertyName : String) : Prop where
  config : s.config feature = some dataConfig
  dbusProperties : dataConfig.dbusProperties = some propertyName
  propertyNames : s.handler.propertyNames feature = some propertyName
  propertyInterfaceNames :
    s.handler.propertyInterfaceNames feature = some dataConfig.dbusInterface

/-- A message with a value for the property shows it. -/
theorem Reads.propertyChanged_some (hs : s.Reads feature dataConfig propertyName)
    {message : ChangeMessage} {value : Bytes}
    (h : message.told dataConfig propertyName = some value) :
    s.handler.propertyChanged feature message = s.handler.callback feature value := by
  cases message with
  | propertySignal value' =>
    obtain rfl := Option.some.inj h
    rfl
  | propertiesChanged interfaceName changedProps =>
    unfold DDEindicatorProtocolHandler.propertyChanged
    dsimp only
    rw [hs.propertyNames, hs.propertyInterfaceNames, Option.getD_some, Option.getD_some]
    by_cases hinterface : interfaceName = dataConfig.dbusInterface
    · have hlookup : changedProps.lookup propertyName = some value :=
        (if_pos hinterface).symm.trans h
      rw [if_neg (not_not.mpr hinterface), hlookup]
    · exact nomatch (if_neg hinterface).symm.trans h

theorem Reads.step (hs : s.Reads feature dataConfig propertyName) (e : IndicatorEvent) :
    (s.step e).Reads feature dataConfig propertyName := by
  rcases s.step_cases e with heq | ⟨_, _, _, _, _, -, -, heq⟩ | ⟨feature', message, _, -, heq⟩
  · rw [heq]
    exact hs
  · rw [heq]
    exact ⟨hs.config, hs.dbusProperties, hs.propertyNames, hs.propertyInterfaceNames⟩
  · rw [heq]
    rcases s.handler.propertyChanged_cases feature' message with hsame | ⟨value, hsame⟩
    · rw [hsame]
      exact ⟨hs.config, hs.dbusProperties, hs.propertyNames, hs.propertyInterfaceNames⟩
    · rw [hsame]
      refine ⟨hs.config, hs.dbusProperties, ?_, ?_⟩
      · dsimp only
        rw [DDEindicatorProtocolHandler.propertyNames_callback]
        exact hs.propertyNames
      · dsimp only
        rw [DDEindicatorProtocolHandler.propertyInterfaceNames_callback]
        exact hs.propertyInterfaceNames

/-- A feature that is not named, or is on the system bus. -/
def Deaf (s : IndicatorSystem) (feature : Feature) : Prop :=
  ∀ dataConfig, s.config feature = some dataConfig → dataConfig.systemDBus = true

/-- Nothing is on its way for a feature that hears nothing, and it stays as it is. -/
theorem Deaf.step (hs : s.Deaf feature) (hmessages : (s.service feature).messages = [])
    (e : IndicatorEvent) :
    ((s.step e).service feature).messages = [] ∧
      (s.step e).handler.content feature = s.handler.content feature := by
  rcases s.step_cases e with heq | ⟨feature', dataConfig, interfaceName, changes, announcement, -,
    hconfig, heq⟩ | ⟨feature', message, rest, hmessages', heq⟩
  · rw [heq]
    exact ⟨hmessages, rfl⟩
  · rw [heq]
    refine ⟨?_, rfl⟩
    dsimp only
    by_cases hfeature : feature = feature'
    · subst hfeature
      rw [Function.update_self]
      unfold FeatureService.assign DataConfig.heard
      dsimp only
      rw [hmessages, hs dataConfig hconfig]
      rfl
    · rw [Function.update_of_ne hfeature]
      exact hmessages
  · have hfeature : feature ≠ feature' := by
      rintro rfl
      exact nomatch hmessages'.symm.trans hmessages
    rw [heq]
    refine ⟨?_, ?_⟩
    · dsimp only
      rw [Function.update_of_ne hfeature]
      exact hmessages
    · dsimp only
      rcases s.handler.propertyChanged_cases feature' message with hsame | ⟨value, hsame⟩
      · rw [hsame]
      · rw [hsame, DDEindicatorProtocolHandler.content_callback, Function.update_of_ne hfeature]

/-! ## From the start -/

section
variable (config : Feature → Option DataConfig) (reply : Feature → Bytes)
  (properties : Feature → String → Bytes)

end

end IndicatorSystem

end DdeTrayLoader.Tray
