import DdeTrayLoader.Sound.SoundModel
import DdeTrayLoader.Transition.Run
import Mathlib.Algebra.Ring.Nat
import Mathlib.Data.List.Infix
import Mathlib.Logic.Function.Basic

/-!
# The sound controller

`SoundController` passes on to the model what the audio service and its default sink tell. Signals
are in flight for a while and can be delivered in any order; what is read from the service is what
it has at that time.

With another default sink there is another proxy. The old one is disconnected from the controller,
but its `VolumeChanged` and `MuteChanged` are connected to the model, and stay so until it is
deleted.
-/

namespace DdeTrayLoader.Sound

open Tray (HashOrder)
open Transition

/-- What the service says of a sink. Its card is the same all the time. -/
structure Sink (V : Type) where
  name : String
  card : UInt32
  /-- The name of the active port. -/
  activePort : String
  volume : V
  mute : Bool
  deriving DecidableEq, Repr

/-- The audio service, with its sinks by their paths. -/
structure AudioService (V : Type) where
  cardsWithoutUnavailable : String
  defaultSink : String
  maxUIVolume : V
  sinks : String → Sink V

/-- What the service and its sinks tell. -/
inductive AudioSignal (V : Type) where
  | cardsWithoutUnavailableChanged (info : String)
  | defaultSinkChanged (path : String)
  | maxUIVolumeChanged (volume : V)
  | increaseVolumeChanged
  | activePortChanged (path portName : String)
  | volumeChanged (path : String) (volume : V)
  | muteChanged (path : String) (mute : Bool)
  deriving DecidableEq, Repr

/-- The signal tells of another default sink. -/
def AudioSignal.isDefaultSink {V : Type} : AudioSignal V → Bool
  | .defaultSinkChanged _ => true
  | _ => false

/-- What the controller relies on. -/
structure Platform (V : Type) where
  reader : CardsReader
  /-- How the map of the ports lists its values. -/
  order : HashOrder SoundCardPort
  /-- `qRound(volume * 100.0f)`. -/
  percent : V → ℤ
  /-- The configuration can be read and `enableAdjustVolumeNoCard` is set. -/
  enableAdjustVolumeNoCard : Bool

/-- A `DBusSink`. -/
structure SinkProxy where
  path : String
  /-- It has been disconnected from the controller and is to be deleted. -/
  disposed : Bool
  deriving DecidableEq, Repr

/-- `SoundController` with the model, the service and the signals in flight. -/
structure SoundController (V : Type) where
  service : AudioService V
  signals : List (AudioSignal V)
  model : SoundModel
  defaultSinkInter : Option SinkProxy
  /-- The paths of the earlier proxies that are not deleted yet. -/
  retired : List String

/-- What happens at the service and in the program. -/
inductive SoundEvent (V : Type) where
  | setCards (info : String)
  | setDefaultSink (path : String)
  | setMaxUIVolume (volume : V)
  | setIncreaseVolume
  | setActivePort (path portName : String)
  | setVolume (path : String) (volume : V)
  | setMute (path : String) (mute : Bool)
  /-- A signal in flight is handled. -/
  | deliver (n : ℕ)
  /-- An earlier proxy is deleted. -/
  | deleteRetired (n : ℕ)
  /-- The proxy in `m_defaultSinkInter` is deleted, after all earlier ones. -/
  | deleteDefaultSink
  deriving DecidableEq, Repr

/-- The paths that `onDefaultSinkChanged` accepts. -/
def ValidPath (path : String) : Prop := ¬(path = "/" ∨ path = "")

instance (path : String) : Decidable (ValidPath path) :=
  inferInstanceAs (Decidable ¬(path = "/" ∨ path = ""))

namespace SoundController

variable {V : Type}

/-- The paths of the proxies that are not deleted. -/
def live (s : SoundController V) : List String :=
  s.retired ++ (s.defaultSinkInter.map SinkProxy.path).toList

/-- `existActiveOutputDevice`. -/
def existActiveOutputDevice (c : Platform V) (s : SoundController V) : Bool :=
  if s.model.existActiveOutputDevice then true
  else if c.enableAdjustVolumeNoCard then s.defaultSinkInter.isSome
  else
    let sinkName := (s.defaultSinkInter.map fun sink => (s.service.sinks sink.path).name).getD ""
    s.model.ports.list.isEmpty && sinkName ≠ "" && !"auto_null".toList.isPrefixOf sinkName.toList &&
      !decide ("bluez".toList <:+: sinkName.toList)

/-- The default sink is disconnected and is to be deleted. -/
def dispose (s : SoundController V) : SoundController V :=
  { s with defaultSinkInter := s.defaultSinkInter.map fun sink => { sink with disposed := true } }

/-- A proxy of the sink at the path takes the place of the one before. -/
def replaceSink (s : SoundController V) (path : String) : SoundController V :=
  { s with
    defaultSinkInter := some ⟨path, false⟩
    retired := s.retired ++ (s.defaultSinkInter.map SinkProxy.path).toList }

section Model

variable (c : Platform V)

def setCardsInfo (s : SoundController V) (info : String) : SoundController V :=
  { s with model := (s.model.setCardsInfo c.reader c.order info).1 }

def setVolume (s : SoundController V) (volume : V) : SoundController V :=
  { s with model := s.model.setVolume (c.percent volume) }

variable [Zero V]

def onDefaultSinkChanged (s : SoundController V) (path : String) : SoundController V :=
  if ¬ValidPath path then s.dispose
  else
    let sink := s.service.sinks path
    let next := (s.dispose.replaceSink path).setCardsInfo c s.service.cardsWithoutUnavailable
    let next := { next with
      model := (next.model.setActivePort sink.card sink.activePort).setMute sink.mute }
    next.setVolume c (if next.existActiveOutputDevice c then sink.volume else 0)

/-- What the handler of `IncreaseVolumeChanged` makes of the model. -/
def onIncreaseVolumeChanged (s : SoundController V) : SoundModel :=
  let model := s.model.setMaxVolumeUI (c.percent s.service.maxUIVolume)
  match s.defaultSinkInter with
  | none => model
  | some sink => model.setVolume (c.percent (s.service.sinks sink.path).volume)

/-- What the handler of `ActivePortChanged` makes of the model. Old proxies are disconnected from
it. -/
def onActivePortChanged (s : SoundController V) (path portName : String) : SoundModel :=
  if s.defaultSinkInter = some ⟨path, false⟩ then
    s.model.setActivePort (s.service.sinks path).card portName
  else s.model

/-- What the handler of `VolumeChanged` makes of the model. Each proxy of the sink that is left sets
the volume, and all set the same. -/
def onVolumeChanged (s : SoundController V) (path : String) (volume : V) : SoundModel :=
  if path ∈ s.live then s.model.setVolume (c.percent volume) else s.model

/-- What the handler of `MuteChanged` makes of the model. There is a default sink as long as any
proxy is left. -/
def onMuteChanged (s : SoundController V) (path : String) : SoundModel :=
  if path ∈ s.live then
    match s.defaultSinkInter with
    | none => s.model
    | some sink =>
      (s.model.setMute (s.service.sinks sink.path).mute).setVolume
        (c.percent (s.service.sinks sink.path).volume)
  else s.model

/-- What the controller and the model do when a signal is delivered. -/
def handle (s : SoundController V) : AudioSignal V → SoundController V
  | .cardsWithoutUnavailableChanged info => s.setCardsInfo c info
  | .defaultSinkChanged path => s.onDefaultSinkChanged c path
  | .maxUIVolumeChanged volume => { s with model := s.model.setMaxVolumeUI (c.percent volume) }
  | .increaseVolumeChanged => { s with model := s.onIncreaseVolumeChanged c }
  | .activePortChanged path portName => { s with model := s.onActivePortChanged path portName }
  | .volumeChanged path volume => { s with model := s.onVolumeChanged c path volume }
  | .muteChanged path _ => { s with model := s.onMuteChanged c path }

/-- The constructor. -/
def create (service : AudioService V) : SoundController V :=
  let s : SoundController V := ⟨service, [], .initial, none, []⟩
  let s := s.setCardsInfo c service.cardsWithoutUnavailable
  let s := { s with model := s.model.setMaxVolumeUI (c.percent service.maxUIVolume) }
  s.onDefaultSinkChanged c service.defaultSink

/-- The sink at the path has changed. -/
def changeSink (s : SoundController V) (path : String) (sink : Sink V) (signal : AudioSignal V) :
    SoundController V :=
  { s with
    service := { s.service with sinks := Function.update s.service.sinks path sink }
    signals := s.signals ++ [signal] }

def step (s : SoundController V) : SoundEvent V → SoundController V
  | .setCards info =>
    { s with
      service := { s.service with cardsWithoutUnavailable := info }
      signals := s.signals ++ [.cardsWithoutUnavailableChanged info] }
  | .setDefaultSink path =>
    { s with
      service := { s.service with defaultSink := path }
      signals := s.signals ++ [.defaultSinkChanged path] }
  | .setMaxUIVolume volume =>
    { s with
      service := { s.service with maxUIVolume := volume }
      signals := s.signals ++ [.maxUIVolumeChanged volume] }
  | .setIncreaseVolume => { s with signals := s.signals ++ [.increaseVolumeChanged] }
  | .setActivePort path portName =>
    s.changeSink path { s.service.sinks path with activePort := portName }
      (.activePortChanged path portName)
  | .setVolume path volume =>
    s.changeSink path { s.service.sinks path with volume := volume } (.volumeChanged path volume)
  | .setMute path mute =>
    s.changeSink path { s.service.sinks path with mute := mute } (.muteChanged path mute)
  | .deliver n =>
    match s.signals[n]? with
    | none => s
    | some signal => { s with signals := s.signals.eraseIdx n }.handle c signal
  | .deleteRetired n => { s with retired := s.retired.eraseIdx n }
  | .deleteDefaultSink =>
    if s.retired = [] then
      { s with defaultSinkInter := s.defaultSinkInter.filter fun sink => !sink.disposed }
    else s

end Model

/-- The model is all that the program changes for a signal, but for a change of the default sink. -/
theorem handle_eq [Zero V] (c : Platform V) (s : SoundController V) {signal : AudioSignal V}
    (hkeeps : signal.isDefaultSink = false) :
    s.handle c signal = { s with model := (s.handle c signal).model } := by
  cases signal with
  | defaultSinkChanged path => exact absurd hkeeps Bool.noConfusion
  | cardsWithoutUnavailableChanged info => rfl
  | maxUIVolumeChanged volume => rfl
  | increaseVolumeChanged => rfl
  | activePortChanged path portName => rfl
  | volumeChanged path volume => rfl
  | muteChanged path mute => rfl

/-- The default sink is the one at the path, and its proxy is connected. -/
def At (path : String) (s : SoundController V) : Prop :=
  s.defaultSinkInter = some ⟨path, false⟩

/-- After `onDefaultSinkChanged` the default sink is the one at the path. -/
theorem at_onDefaultSinkChanged [Zero V] (c : Platform V) (s : SoundController V) {path : String}
    (hpath : ValidPath path) : (s.onDefaultSinkChanged c path).At path := by
  rw [onDefaultSinkChanged, if_neg (not_not.mpr hpath)]
  rfl

/-- The signal that the event delivers. -/
def delivered (s : SoundController V) : SoundEvent V → Option (AudioSignal V)
  | .deliver n => s.signals[n]?
  | _ => none

/-- To deliver a signal is to handle it when it is not in flight any more. -/
theorem step_deliver [Zero V] (c : Platform V) {s : SoundController V} {n : ℕ}
    {signal : AudioSignal V} (hsignal : s.signals[n]? = some signal) :
    step c s (.deliver n) = { s with signals := s.signals.eraseIdx n }.handle c signal := by
  rw [step, hsignal]

/-- What is delivered where there is no signal changes nothing. -/
theorem step_deliver_none [Zero V] (c : Platform V) {s : SoundController V} {n : ℕ}
    (hsignal : s.signals[n]? = none) : step c s (.deliver n) = s := by
  rw [step, hsignal]

/-- A change of the default sink is nothing that the service or the signals in flight depend on. -/
theorem service_onDefaultSinkChanged [Zero V] (c : Platform V) (s : SoundController V)
    (path : String) : (s.onDefaultSinkChanged c path).service = s.service ∧
      (s.onDefaultSinkChanged c path).signals = s.signals := by
  unfold onDefaultSinkChanged
  split_ifs
  · exact ⟨rfl, rfl⟩
  · exact ⟨rfl, rfl⟩

/-- To handle a signal changes neither the service nor the signals in flight. -/
theorem service_handle [Zero V] (c : Platform V) (s : SoundController V) (signal : AudioSignal V) :
    (s.handle c signal).service = s.service ∧ (s.handle c signal).signals = s.signals := by
  cases hsink : signal.isDefaultSink with
  | true =>
    cases signal with
    | defaultSinkChanged path => exact service_onDefaultSinkChanged c s path
    | _ => exact absurd hsink Bool.noConfusion
  | false =>
    rw [handle_eq c s hsink]
    exact ⟨rfl, rfl⟩

end SoundController

/-- A card with a speaker. -/
def speakerJson : String :=
  "[\x7b\"Id\":0,\"Name\":\"PCH\",\"Ports\":[\x7b\"Name\":\"speaker\",\"Available\":2," ++
    "\"Direction\":1,\"Enabled\":true\x7d]\x7d]"

/-- A platform that can read that one text, and has the volumes in percent. -/
def Platform.speaker : Platform ℕ where
  reader :=
    { read := fun info =>
        if info = speakerJson then [⟨0, "PCH", [⟨"speaker", "", 2, 1, true, false, 0⟩]⟩] else []
      read_empty := by decide }
  order := .stored SoundCardPort
  percent := fun volume => volume
  enableAdjustVolumeNoCard := false

/-- A service with two sinks of that card, one of them at `/1`. -/
def AudioService.twoSinks (cards : String) : AudioService ℕ where
  cardsWithoutUnavailable := cards
  defaultSink := "/1"
  maxUIVolume := 100
  sinks := fun path =>
    if path = "/1" then ⟨"alsa_output.1", 0, "speaker", 30, false⟩
    else ⟨"alsa_output.2", 0, "speaker", 50, false⟩

end DdeTrayLoader.Sound
