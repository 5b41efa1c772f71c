import DdeTrayLoader.Sound.SoundController

/-!
# The active port

Which port is active is kept in the ports, and is set when the default sink or its active port
changes. A port that is not there at that time is not active when it is added later, unless one of
the two changes is still to be told: `onDefaultSinkChanged` reads the cards before it activates a
port, but the handler of `ActivePortChanged` does not.
-/

namespace DdeTrayLoader.Sound

open Tray (HashOrder)
open Transition

/-- The signal can change which port is to be active while the default sink is at the path. -/
def AudioSignal.concerns {V : Type} (path : String) : AudioSignal V → Bool
  | .defaultSinkChanged _ => true
  | .activePortChanged sink _ => sink == path
  | _ => false

namespace SoundController

variable {V : Type}

/-- The key of the active port of the default sink. -/
def sinkKey (s : SoundController V) : String :=
  let sink := s.service.sinks s.service.defaultSink
  compositeKey sink.card sink.activePort

/-- No signal in flight can change which port is to be active. -/
def Quiet (s : SoundController V) : Prop :=
  ∀ signal ∈ s.signals, signal.concerns s.service.defaultSink = false

/-- The signal is in time, when `rest` is still in flight: the last one of its kind is not out of
date, and a list of cards that has the default sink's active port anew is not the last one. -/
def InTime (c : Platform V) (s : SoundController V) (rest : List (AudioSignal V)) :
    AudioSignal V → Prop
  | .defaultSinkChanged path =>
    ValidPath s.service.defaultSink → (∀ other ∈ rest, other.isDefaultSink = false) →
      path = s.service.defaultSink
  | .activePortChanged path portName =>
    path = s.service.defaultSink →
      (∀ other ∈ rest, other.concerns s.service.defaultSink = false) →
        portName = (s.service.sinks path).activePort
  | .cardsWithoutUnavailableChanged info =>
    ValidPath s.service.defaultSink →
      (∀ other ∈ rest, other.concerns s.service.defaultSink = false) →
        s.sinkKey ∈ (c.reader.read info).flatMap JsonCard.keys →
          (s.model.ports.value s.sinkKey).isSome
  | _ => True

instance (c : Platform V) (s : SoundController V) (rest : List (AudioSignal V)) :
    (signal : AudioSignal V) → Decidable (s.InTime c rest signal)
  | .defaultSinkChanged path =>
    inferInstanceAs (Decidable (ValidPath _ → (∀ other ∈ rest, _ = false) → path = _))
  | .activePortChanged path portName =>
    inferInstanceAs (Decidable (path = _ → (∀ other ∈ rest, _ = false) → portName = _))
  | .cardsWithoutUnavailableChanged _ =>
    inferInstanceAs (Decidable (ValidPath _ → (∀ other ∈ rest, _ = false) → _ → _))
  | .maxUIVolumeChanged _ => isTrue trivial
  | .increaseVolumeChanged => isTrue trivial
  | .volumeChanged _ _ => isTrue trivial
  | .muteChanged _ _ => isTrue trivial

/-- What is delivered is in time. -/
def Timely (c : Platform V) (s : SoundController V) : SoundEvent V → Prop
  | .deliver n => ∀ signal ∈ s.signals[n]?, s.InTime c (s.signals.eraseIdx n) signal
  | _ => True

instance (c : Platform V) (s : SoundController V) : (e : SoundEvent V) → Decidable (s.Timely c e)
  | .deliver n =>
    inferInstanceAs (Decidable (∀ signal ∈ s.signals[n]?, s.InTime c (s.signals.eraseIdx n) signal))
  | .setCards _ => isTrue trivial
  | .setDefaultSink _ => isTrue trivial
  | .setMaxUIVolume _ => isTrue trivial
  | .setIncreaseVolume => isTrue trivial
  | .setActivePort _ _ => isTrue trivial
  | .setVolume _ _ => isTrue trivial
  | .setMute _ _ => isTrue trivial
  | .deleteRetired _ => isTrue trivial
  | .deleteDefaultSink => isTrue trivial

/-- When all signals have been handled, the active port is the default sink's, if it is there. -/
def ActivePortRight (c : Platform V) (s : SoundController V) : Prop :=
  s.signals = [] → ValidPath s.service.defaultSink →
    ∀ port, s.model.ports.value s.sinkKey = some port → s.model.activePort c.order = some port

/-- All signals have been handled in both states, and what they told last is the same: the cards,
the default sink, its card and its active port. -/
structure SameOutcome (s s' : SoundController V) : Prop where
  handled : s.signals = []
  handled' : s'.signals = []
  valid : ValidPath s.service.defaultSink
  defaultSink : s.service.defaultSink = s'.service.defaultSink
  card : (s.service.sinks s.service.defaultSink).card =
    (s'.service.sinks s'.service.defaultSink).card
  activePort : (s.service.sinks s.service.defaultSink).activePort =
    (s'.service.sinks s'.service.defaultSink).activePort
  cardsInfo : s.model.cardsInfo = s'.model.cardsInfo

/-- The ports follow the cards. Unless a signal is in flight that tells of another one, the proxy is
that of the default sink, and the active port is its active port. -/
structure Settling (c : Platform V) (s : SoundController V) : Prop where
  follows : s.model.Follows c.reader
  sink : ValidPath s.service.defaultSink → (∀ signal ∈ s.signals, signal.isDefaultSink = false) →
    s.At s.service.defaultSink
  active : ValidPath s.service.defaultSink → s.Quiet → s.model.ports.ActiveOnly s.sinkKey

/-- A signal that does not concern the default sink does not tell of another one. -/
theorem isDefaultSink_of_concerns {path : String} {signal : AudioSignal V}
    (hconcerns : signal.concerns path = false) : signal.isDefaultSink = false := by
  cases signal with
  | defaultSinkChanged sink => exact hconcerns
  | _ => rfl

/-- The service changes, and tells so. -/
theorem Settling.send {c : Platform V} {s : SoundController V} (hs : s.Settling c)
    (service : AudioService V) (signal : AudioSignal V)
    (hdefault : signal.isDefaultSink = false → service.defaultSink = s.service.defaultSink)
    (hkey : signal.concerns service.defaultSink = false →
      sinkKey { s with service := service, signals := s.signals ++ [signal] } = s.sinkKey) :
    Settling c { s with service := service, signals := s.signals ++ [signal] } := by
  constructor
  · exact hs.follows
  · intro hvalid hnone
    have hsame : service.defaultSink = s.service.defaultSink :=
      hdefault (hnone signal (List.mem_append_right _ (List.mem_singleton_self signal)))
    have hat := hs.sink (hsame ▸ hvalid) fun other hother =>
      hnone other (List.mem_append_left _ hother)
    rw [At] at hat ⊢
    exact hat.trans (by rw [hsame])
  · intro hvalid hquiet
    have hconcerns : signal.concerns service.defaultSink = false :=
      hquiet signal (List.mem_append_right _ (List.mem_singleton_self signal))
    have hsame : service.defaultSink = s.service.defaultSink :=
      hdefault (isDefaultSink_of_concerns hconcerns)
    rw [hkey hconcerns]
    refine hs.active (hsame ▸ hvalid) fun other hother => ?_
    rw [← hsame]
    exact hquiet other (List.mem_append_left _ hother)

/-- A sink changes, and tells so. -/
theorem Settling.changeSink {c : Platform V} {s : SoundController V} (hs : s.Settling c)
    {path : String} {sink : Sink V} {signal : AudioSignal V}
    (hcard : sink.card = (s.service.sinks path).card)
    (hport : signal.concerns path = false →
      sink.activePort = (s.service.sinks path).activePort) :
    (s.changeSink path sink signal).Settling c := by
  refine hs.send _ signal (fun _ => rfl) fun hconcerns => ?_
  unfold sinkKey
  dsimp only at hconcerns ⊢
  by_cases hpath : s.service.defaultSink = path
  · subst hpath
    rw [Function.update_self, hcard, hport hconcerns]
  · rw [Function.update_of_ne hpath]

/-- The handlers of the levels leave the ports and the cards as they are. -/
theorem ports_handlers (c : Platform V) (s : SoundController V) (path : String) (volume : V) :
    ((s.onIncreaseVolumeChanged c).ports = s.model.ports ∧
      (s.onIncreaseVolumeChanged c).cardsInfo = s.model.cardsInfo) ∧
    ((s.onVolumeChanged c path volume).ports = s.model.ports ∧
      (s.onVolumeChanged c path volume).cardsInfo = s.model.cardsInfo) ∧
    (s.onMuteChanged c path).ports = s.model.ports ∧
      (s.onMuteChanged c path).cardsInfo = s.model.cardsInfo := by
  refine ⟨?_, ?_, ?_⟩
  · unfold onIncreaseVolumeChanged
    cases s.defaultSinkInter with
    | none => exact ⟨rfl, rfl⟩
    | some sink => exact ⟨rfl, rfl⟩
  · unfold onVolumeChanged
    split_ifs
    · exact ⟨rfl, rfl⟩
    · exact ⟨rfl, rfl⟩
  · unfold onMuteChanged
    split_ifs
    · cases s.defaultSinkInter with
      | none => exact ⟨rfl, rfl⟩
      | some sink => exact ⟨rfl, rfl⟩
    · exact ⟨rfl, rfl⟩

/-- What follows the cards depends on the ports and the cards only. -/
theorem follows_congr {reader : CardsReader} {model model' : SoundModel}
    (hsame : model'.ports = model.ports ∧ model'.cardsInfo = model.cardsInfo)
    (hmodel : model.Follows reader) : model'.Follows reader := by
  intro key
  rw [hsame.1, hsame.2]
  exact hmodel key

variable [Zero V]

/-- After a change of the default sink its active port is the only active one. -/
theorem activeOnly_onDefaultSinkChanged (c : Platform V) (s : SoundController V) {path : String}
    (hpath : ValidPath path) :
    (s.onDefaultSinkChanged c path).model.ports.ActiveOnly
      (compositeKey (s.service.sinks path).card (s.service.sinks path).activePort) := by
  rw [onDefaultSinkChanged, if_neg (not_not.mpr hpath)]
  exact Ports.activeOnly_activate _ _

/-- After a change of the default sink the ports follow the cards. -/
theorem follows_onDefaultSinkChanged (c : Platform V) {s : SoundController V}
    (hs : s.model.Follows c.reader) (path : String) :
    (s.onDefaultSinkChanged c path).model.Follows c.reader := by
  unfold onDefaultSinkChanged
  split_ifs
  · exact (hs.setCardsInfo c.order s.service.cardsWithoutUnavailable).setActivePort
      (s.service.sinks path).card (s.service.sinks path).activePort
  · exact hs

/-- Whatever is told, the ports follow the cards. -/
theorem follows_handle (c : Platform V) {s : SoundController V} (hs : s.model.Follows c.reader)
    (signal : AudioSignal V) : (s.handle c signal).model.Follows c.reader := by
  cases signal with
  | cardsWithoutUnavailableChanged info => exact hs.setCardsInfo c.order info
  | defaultSinkChanged path => exact follows_onDefaultSinkChanged c hs path
  | maxUIVolumeChanged volume => exact hs
  | increaseVolumeChanged => exact follows_congr (ports_handlers c s "" 0).1 hs
  | activePortChanged path portName =>
    change (s.onActivePortChanged path portName).Follows c.reader
    unfold onActivePortChanged
    split_ifs
    · exact hs.setActivePort (s.service.sinks path).card portName
    · exact hs
  | volumeChanged path volume => exact follows_congr (ports_handlers c s path volume).2.1 hs
  | muteChanged path mute => exact follows_congr (ports_handlers c s path 0).2.2 hs

omit [Zero V] in
/-- A change of a port that is in time keeps the default sink's active port the only active one. -/
theorem Settling.active_onActivePortChanged {c : Platform V} {s : SoundController V}
    (hs : s.Settling c) {rest : List (AudioSignal V)} {path portName : String}
    (hintime : s.InTime c rest (.activePortChanged path portName))
    (hsignals : ∀ other ∈ s.signals, other = .activePortChanged path portName ∨ other ∈ rest)
    (hvalid : ValidPath s.service.defaultSink)
    (hquiet : ∀ other ∈ rest, other.concerns s.service.defaultSink = false) :
    (s.onActivePortChanged path portName).ports.ActiveOnly s.sinkKey := by
  have hat : s.At s.service.defaultSink := by
    refine hs.sink hvalid fun other hother => ?_
    cases hsignals other hother with
    | inl hsame => rw [hsame]; rfl
    | inr hmem => exact isDefaultSink_of_concerns (hquiet other hmem)
  unfold onActivePortChanged
  by_cases hpath : path = s.service.defaultSink
  · have hname := hintime hpath hquiet
    subst hpath
    rw [At] at hat
    rw [if_pos hat, hname]
    exact Ports.activeOnly_activate _ _
  · -- the proxy is that of the default sink, so the handler does not see another sink's port
    have hother : s.defaultSinkInter ≠ some ⟨path, false⟩ := fun hsame =>
      hpath (congrArg SinkProxy.path (Option.some.inj (hsame.symm.trans hat)))
    rw [if_neg hother]
    refine hs.active hvalid fun other hmem => ?_
    cases hsignals other hmem with
    | inl hsame => rw [hsame]; exact beq_eq_false_iff_ne.mpr hpath
    | inr hmem => exact hquiet other hmem

/-- A signal that is in time keeps the default sink's active port the only active one. -/
theorem Settling.active_handle {c : Platform V} {s : SoundController V} (hs : s.Settling c)
    {rest : List (AudioSignal V)} {signal : AudioSignal V} (hintime : s.InTime c rest signal)
    (hsignals : ∀ other ∈ s.signals, other = signal ∨ other ∈ rest)
    (hvalid : ValidPath s.service.defaultSink)
    (hquiet : ∀ other ∈ rest, other.concerns s.service.defaultSink = false) :
    ({ s with signals := rest }.handle c signal).model.ports.ActiveOnly s.sinkKey := by
  have hrest : signal.concerns s.service.defaultSink = false →
      s.model.ports.ActiveOnly s.sinkKey := by
    refine fun hconcerns => hs.active hvalid fun other hother => ?_
    cases hsignals other hother with
    | inl hsame => rwa [hsame]
    | inr hmem => exact hquiet other hmem
  cases signal with
  | cardsWithoutUnavailableChanged info =>
    exact SoundModel.activeOnly_setCardsInfo c.order (hrest rfl) (hintime hvalid hquiet)
  | defaultSinkChanged path =>
    have hpath : path = s.service.defaultSink :=
      hintime hvalid fun other hother => isDefaultSink_of_concerns (hquiet other hother)
    subst hpath
    exact activeOnly_onDefaultSinkChanged c { s with signals := rest } hvalid
  | activePortChanged path portName =>
    exact hs.active_onActivePortChanged hintime hsignals hvalid hquiet
  | maxUIVolumeChanged volume => exact hrest rfl
  | increaseVolumeChanged =>
    change (onIncreaseVolumeChanged c { s with signals := rest }).ports.ActiveOnly s.sinkKey
    rw [(ports_handlers c { s with signals := rest } "" 0).1.1]
    exact hrest rfl
  | volumeChanged path volume =>
    change (onVolumeChanged c { s with signals := rest } path volume).ports.ActiveOnly s.sinkKey
    rw [(ports_handlers c { s with signals := rest } path volume).2.1.1]
    exact hrest rfl
  | muteChanged path mute =>
    change (onMuteChanged c { s with signals := rest } path).ports.ActiveOnly s.sinkKey
    rw [(ports_handlers c { s with signals := rest } path 0).2.2.1]
    exact hrest rfl

/-- A signal that is in time keeps the proxy that of the default sink. -/
theorem Settling.at_handle {c : Platform V} {s : SoundController V} (hs : s.Settling c)
    {rest : List (AudioSignal V)} {signal : AudioSignal V} (hintime : s.InTime c rest signal)
    (hsignals : ∀ other ∈ s.signals, other = signal ∨ other ∈ rest)
    (hvalid : ValidPath s.service.defaultSink)
    (hnone : ∀ other ∈ rest, other.isDefaultSink = false) :
    ({ s with signals := rest }.handle c signal).At s.service.defaultSink := by
  cases hsink : signal.isDefaultSink with
  | true =>
    cases signal with
    | defaultSinkChanged path =>
      have hpath := hintime hvalid hnone
      subst hpath
      exact at_onDefaultSinkChanged c { s with signals := rest } hvalid
    | _ => exact absurd hsink Bool.noConfusion
  | false =>
    rw [handle_eq c _ hsink]
    refine hs.sink hvalid fun other hother => ?_
    cases hsignals other hother with
    | inl hsame => rwa [hsame]
    | inr hmem => exact hnone other hmem

/-- A signal that is in time is handled. -/
theorem Settling.deliver {c : Platform V} {s : SoundController V} (hs : s.Settling c) {n : ℕ}
    {signal : AudioSignal V} (hsignal : s.signals[n]? = some signal)
    (hintime : s.InTime c (s.signals.eraseIdx n) signal) :
    ({ s with signals := s.signals.eraseIdx n }.handle c signal).Settling c := by
  obtain ⟨hservice, hrest⟩ := service_handle c { s with signals := s.signals.eraseIdx n } signal
  have hsignals : ∀ other ∈ s.signals, other = signal ∨ other ∈ s.signals.eraseIdx n := by
    intro other hother
    obtain ⟨m, hm⟩ := List.mem_iff_getElem?.mp hother
    by_cases hmn : m = n
    · rw [hmn, hsignal] at hm
      exact .inl (Option.some.inj hm).symm
    · exact .inr (List.mem_eraseIdx_iff_getElem?.mpr ⟨m, hmn, hm⟩)
  constructor
  · exact follows_handle c (s := { s with signals := s.signals.eraseIdx n }) hs.follows signal
  · rw [hservice, hrest]
    exact hs.at_handle hintime hsignals
  · unfold Quiet sinkKey
    rw [hservice, hrest]
    exact hs.active_handle hintime hsignals

/-- What one event preserves. -/
theorem Settling.step {c : Platform V} {s : SoundController V} (hs : s.Settling c)
    {e : SoundEvent V} (htimely : s.Timely c e) : (SoundController.step c s e).Settling c := by
  cases e with
  | setCards info => exact hs.send _ _ (fun _ => rfl) fun _ => rfl
  | setDefaultSink path =>
    exact hs.send _ _ (fun hother => absurd hother Bool.noConfusion)
      fun hother => absurd hother Bool.noConfusion
  | setMaxUIVolume volume => exact hs.send _ _ (fun _ => rfl) fun _ => rfl
  | setIncreaseVolume => exact hs.send s.service _ (fun _ => rfl) fun _ => rfl
  | setActivePort path portName =>
    exact hs.changeSink rfl fun hother =>
      absurd (beq_self_eq_true path) (ne_true_of_eq_false hother)
  | setVolume path volume => exact hs.changeSink rfl fun _ => rfl
  | setMute path mute => exact hs.changeSink rfl fun _ => rfl
  | deliver n =>
    cases hsignal : s.signals[n]? with
    | none =>
      rw [step_deliver_none c hsignal]
      exact hs
    | some signal =>
      rw [step_deliver c hsignal]
      exact hs.deliver hsignal (htimely signal hsignal)
  | deleteRetired n => exact ⟨hs.follows, hs.sink, hs.active⟩
  | deleteDefaultSink =>
    unfold SoundController.step
    split_ifs
    · refine ⟨hs.follows, fun hvalid hnone => ?_, hs.active⟩
      have hat := hs.sink hvalid hnone
      rw [At] at hat ⊢
      change s.defaultSinkInter.filter _ = _
      rw [hat]
      rfl
    · exact hs

/-- The constructor reads what there is. -/
theorem settling_create (c : Platform V) (service : AudioService V) :
    (create c service).Settling c := by
  have hservice : (create c service).service = service :=
    (service_onDefaultSinkChanged c _ service.defaultSink).1
  constructor
  · refine follows_onDefaultSinkChanged c ?_ service.defaultSink
    exact (SoundModel.follows_initial c.reader).setCardsInfo c.order
      service.cardsWithoutUnavailable
  · intro hvalid _
    rw [hservice] at hvalid ⊢
    exact at_onDefaultSinkChanged c _ hvalid
  · intro hvalid _
    unfold sinkKey
    rw [hservice] at hvalid ⊢
    exact activeOnly_onDefaultSinkChanged c _ hvalid

omit [Zero V] in
/-- A state that is settling has the right active port when all signals have been handled. -/
theorem Settling.activePort_eq {c : Platform V} {s : SoundController V} (hs : s.Settling c)
    (hhandled : s.signals = []) (hvalid : ValidPath s.service.defaultSink) :
    s.model.activePort c.order = s.model.ports.value s.sinkKey := by
  refine SoundModel.activePort_eq c.order (hs.active hvalid fun signal hsignal => ?_)
  rw [hhandled] at hsignal
  exact absurd hsignal List.not_mem_nil

omit [Zero V] in
/-- Which port is active when all signals have been handled depends on what they told last. -/
theorem Settling.activePort_congr {c : Platform V} {s s' : SoundController V}
    (hs : s.Settling c) (hs' : s'.Settling c) (hsame : s.SameOutcome s') :
    (s.model.activePort c.order).map SoundCardPort.uniqueKey =
      (s'.model.activePort c.order).map SoundCardPort.uniqueKey := by
  have hkey : s.sinkKey = s'.sinkKey := congrArg₂ compositeKey hsame.card hsame.activePort
  have hvalue : ∀ (t : SoundController V) (key : String),
      (t.model.ports.value key).map SoundCardPort.uniqueKey =
        if (t.model.ports.value key).isSome then some key else none := by
    intro t key
    cases hport : t.model.ports.value key with
    | none => rfl
    | some port => exact congrArg some (Ports.value_eq_some.mp hport).2
  rw [hs.activePort_eq hsame.handled hsame.valid,
    hs'.activePort_eq hsame.handled' (hsame.defaultSink ▸ hsame.valid), hvalue, hvalue, hkey]
  have hiff : (s.model.ports.value s'.sinkKey).isSome = true ↔
      (s'.model.ports.value s'.sinkKey).isSome = true := by
    rw [hs.follows, hs'.follows, hsame.cardsInfo]
  exact if_congr hiff rfl rfl

/-- As long as signals are handled in time, the active port is right whenever all have been handled,
and it is the same after two runs with the same outcome. -/
theorem activePort_of_timely (c : Platform V) (service : AudioService V) (es : List (SoundEvent V))
    (hes : Obeys (step c) (Timely c) (create c service) es) :
    Always (step c) (ActivePortRight c) (create c service) es ∧
      ∀ service' es', Obeys (step c) (Timely c) (create c service') es' →
        SameOutcome (run (step c) (create c service) es) (run (step c) (create c service') es') →
          ((run (step c) (create c service) es).model.activePort c.order).map
              SoundCardPort.uniqueKey =
            ((run (step c) (create c service') es').model.activePort c.order).map
              SoundCardPort.uniqueKey := by
  have hstep : ∀ s e, Settling c s → Timely c s e → Settling c (step c s e) :=
    fun s e hs htimely => hs.step htimely
  constructor
  · refine always_of_obeys (I := Settling c) hstep ?_ (settling_create c service) hes
    intro s hs hhandled hvalid port hport
    rw [hs.activePort_eq hhandled hvalid, hport]
  · intro service' es' hes' hsame
    have hs := run_invariant_of_obeys hstep (settling_create c service) hes
    have hs' := run_invariant_of_obeys hstep (settling_create c service') hes'
    exact hs.activePort_congr hs' hsame

/-- The card comes before or after the active port of another sink, which is the default sink from
then on. -/
theorem activePort_otherSink :
    Always (step .speaker) (ActivePortRight .speaker) (create .speaker (.twoSinks ""))
        [.setCards speakerJson, .setActivePort "/2" "speaker", .setDefaultSink "/2", .deliver 0,
          .deliver 0, .deliver 0] ∧
      ((run (step .speaker) (create .speaker (.twoSinks ""))
          [.setCards speakerJson, .setActivePort "/2" "speaker", .setDefaultSink "/2", .deliver 0,
            .deliver 0, .deliver 0]).model.activePort (.stored SoundCardPort)).map
          SoundCardPort.uniqueKey =
        ((run (step .speaker) (create .speaker (.twoSinks ""))
          [.setDefaultSink "/2", .setActivePort "/2" "speaker", .setCards speakerJson, .deliver 1,
            .deliver 1, .deliver 0]).model.activePort (.stored SoundCardPort)).map
          SoundCardPort.uniqueKey := by
  obtain ⟨halways, hsame⟩ := activePort_of_timely .speaker (.twoSinks "")
    [.setCards speakerJson, .setActivePort "/2" "speaker", .setDefaultSink "/2", .deliver 0,
      .deliver 0, .deliver 0] (by simp only [Obeys]; decide)
  refine ⟨halways, hsame (.twoSinks "") _ (by simp only [Obeys]; decide) ?_⟩
  exact ⟨rfl, rfl, by decide, by decide, by decide, by decide, by decide⟩

/-- The active port is told before the card that has it, and both are sent the other way round. -/
theorem not_activePort_beforeCard :
    ¬Always (step .speaker) (ActivePortRight .speaker) (create .speaker (.twoSinks ""))
      [.setCards speakerJson, .setActivePort "/1" "speaker", .deliver 1, .deliver 0] := by
  intro hright
  have hlast := hright.2.2.2.2 rfl (by decide) _ rfl
  revert hlast
  decide

end SoundController

end DdeTrayLoader.Sound
