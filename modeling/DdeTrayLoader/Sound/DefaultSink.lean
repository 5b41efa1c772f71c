import DdeTrayLoader.Sound.SoundController

/-!
# Volume and mute

The volume and the mute state of the model are to be those of the default sink. Between two changes
of the default sink they are, but for the proxies of the sinks before: until such a proxy is
deleted, the model still takes a volume from it.
-/

namespace DdeTrayLoader.Sound

open Tray (HashOrder)
open Transition

namespace SoundController

variable {V : Type}

/-- The volume and the mute state of the model. -/
def levels (s : SoundController V) : ℤ × Bool := (s.model.volume, s.model.mute)

/-- The signal is one of the sink at the path, or tells of another maximum, and the levels have the
values of that sink. -/
def Drives (c : Platform V) (path : String) (s : SoundController V) (levels : ℤ × Bool) :
    AudioSignal V → Prop
  | .volumeChanged sink volume => sink = path ∧ levels = (c.percent volume, s.model.mute)
  | .muteChanged sink _ =>
    sink = path ∧
      levels = (c.percent (s.service.sinks path).volume, (s.service.sinks path).mute)
  | .increaseVolumeChanged =>
    levels = (c.percent (s.service.sinks path).volume, s.model.mute)
  | _ => False

/-- A signal of another sink, whose proxy is not deleted yet, tells nothing new. -/
def Idle (c : Platform V) (path : String) (s : SoundController V) : AudioSignal V → Prop
  | .volumeChanged sink volume =>
    sink ≠ path → sink ∈ s.retired → c.percent volume = s.model.volume
  | .muteChanged sink _ =>
    sink ≠ path → sink ∈ s.retired →
      s.levels = (c.percent (s.service.sinks path).volume, (s.service.sinks path).mute)
  | _ => True

/-- No signal of an earlier sink brings anything new. -/
def NoForeign (c : Platform V) (path : String) (s : SoundController V) (e : SoundEvent V) : Prop :=
  ∀ signal ∈ s.delivered e, s.Idle c path signal

instance (c : Platform V) (path : String) (s : SoundController V) :
    (signal : AudioSignal V) → Decidable (s.Idle c path signal)
  | .volumeChanged sink volume =>
    inferInstanceAs (Decidable
      (sink ≠ path → sink ∈ s.retired → c.percent volume = s.model.volume))
  | .muteChanged sink _ => inferInstanceAs (Decidable (sink ≠ path → sink ∈ s.retired → _ = _))
  | .cardsWithoutUnavailableChanged _ => isTrue trivial
  | .defaultSinkChanged _ => isTrue trivial
  | .maxUIVolumeChanged _ => isTrue trivial
  | .increaseVolumeChanged => isTrue trivial
  | .activePortChanged _ _ => isTrue trivial

/-- The event does not tell of another default sink. -/
def KeepsSink (s : SoundController V) (e : SoundEvent V) : Prop :=
  ∀ signal ∈ s.delivered e, signal.isDefaultSink = false

/-- Another list of cards leaves the levels as they are. -/
theorem levels_setCardsInfo (c : Platform V) (s : SoundController V) (info : String) :
    (s.setCardsInfo c info).levels = s.levels := by
  unfold setCardsInfo SoundModel.setCardsInfo levels
  split_ifs
  · rfl
  · rfl

/-- Another active port leaves the levels as they are. -/
theorem levels_onActivePortChanged (s : SoundController V) (path portName : String) :
    levels { s with model := s.onActivePortChanged path portName } = s.levels := by
  unfold onActivePortChanged levels
  split_ifs
  · rfl
  · rfl

/-- The proxies that are left are the default sink's and the earlier ones. -/
theorem At.mem_live {path sink : String} {s : SoundController V} (hs : s.At path) :
    sink ∈ s.live ↔ sink = path ∨ sink ∈ s.retired := by
  rw [live, hs, List.mem_append, or_comm]
  simp

/-- A volume comes from the default sink, or is not taken, or is nothing new. -/
theorem At.volumeChanged_iff {c : Platform V} {path : String} {s : SoundController V}
    (hs : s.At path) (sink : String) (volume : V) :
    let next := levels { s with model := s.onVolumeChanged c sink volume }
    next = s.levels ∨ Drives c path s next (.volumeChanged sink volume) ↔
      s.Idle c path (.volumeChanged sink volume) := by
  intro next
  by_cases hsink : sink = path
  · have hnext : next = (c.percent volume, s.model.mute) := by
      unfold next onVolumeChanged
      rw [if_pos (hs.mem_live.mpr (.inl hsink))]
      rfl
    exact iff_of_true (.inr ⟨hsink, hnext⟩) fun hother => absurd hsink hother
  · by_cases hretired : sink ∈ s.retired
    · have hnext : next = (c.percent volume, s.model.mute) := by
        unfold next onVolumeChanged
        rw [if_pos (hs.mem_live.mpr (.inr hretired))]
        rfl
      rw [hnext]
      constructor
      · intro hdriven _ _
        cases hdriven with
        | inl hsame => exact congrArg Prod.fst hsame
        | inr hdrives => exact absurd hdrives.1 hsink
      · intro hidle
        rw [hidle hsink hretired]
        exact .inl rfl
    · have hnext : next = s.levels := by
        unfold next onVolumeChanged
        rw [if_neg fun hlive => (hs.mem_live.mp hlive).elim hsink hretired]
      exact iff_of_true (.inl hnext) fun _ hmem => absurd hmem hretired

/-- A mute state comes from the default sink, or is not taken, or is nothing new. -/
theorem At.muteChanged_iff {c : Platform V} {path : String} {s : SoundController V}
    (hs : s.At path) (sink : String) (mute : Bool) :
    let next := levels { s with model := s.onMuteChanged c sink }
    next = s.levels ∨ Drives c path s next (.muteChanged sink mute) ↔
      s.Idle c path (.muteChanged sink mute) := by
  intro next
  have hread : sink ∈ s.live →
      next = (c.percent (s.service.sinks path).volume, (s.service.sinks path).mute) := by
    intro hlive
    unfold next onMuteChanged
    rw [if_pos hlive, hs]
    rfl
  by_cases hsink : sink = path
  · exact iff_of_true (.inr ⟨hsink, hread (hs.mem_live.mpr (.inl hsink))⟩)
      fun hother => absurd hsink hother
  · by_cases hretired : sink ∈ s.retired
    · rw [hread (hs.mem_live.mpr (.inr hretired))]
      constructor
      · intro hdriven _ _
        cases hdriven with
        | inl hsame => exact hsame.symm
        | inr hdrives => exact absurd hdrives.1 hsink
      · intro hidle
        exact .inl (hidle hsink hretired).symm
    · have hnext : next = s.levels := by
        unfold next onMuteChanged
        rw [if_neg fun hlive => (hs.mem_live.mp hlive).elim hsink hretired]
      exact iff_of_true (.inl hnext) fun _ hmem => absurd hmem hretired

variable [Zero V]

/-- The levels change only by what comes from the sink at the path, to values of that sink. -/
def DrivenBy (c : Platform V) (path : String) (s : SoundController V) (e : SoundEvent V) : Prop :=
  (step c s e).levels = s.levels ∨
    ∃ signal ∈ s.delivered e, Drives c path s (step c s e).levels signal

/-- The default sink stays what it is until the next `DefaultSinkChanged`. -/
theorem At.step {c : Platform V} {path : String} {s : SoundController V} (hs : s.At path)
    {e : SoundEvent V} (hkeeps : s.KeepsSink e) : (SoundController.step c s e).At path := by
  cases e with
  | deliver n =>
    cases hsignal : s.signals[n]? with
    | none =>
      rw [step_deliver_none c hsignal]
      exact hs
    | some signal =>
      rw [step_deliver c hsignal, handle_eq c _ (hkeeps signal hsignal)]
      exact hs
  | deleteDefaultSink =>
    unfold SoundController.step
    split_ifs
    · rw [At]
      change s.defaultSinkInter.filter _ = _
      rw [hs]
      rfl
    · exact hs
  | setCards info => exact hs
  | setDefaultSink path => exact hs
  | setMaxUIVolume volume => exact hs
  | setIncreaseVolume => exact hs
  | setActivePort path portName => exact hs
  | setVolume path volume => exact hs
  | setMute path mute => exact hs
  | deleteRetired n => exact hs

/-- What a signal may do to the levels is what it does unless it is an earlier sink's. -/
theorem At.handle_iff {c : Platform V} {path : String} {s : SoundController V} (hs : s.At path)
    {signal : AudioSignal V} (hkeeps : signal.isDefaultSink = false) :
    (s.handle c signal).levels = s.levels ∨ Drives c path s (s.handle c signal).levels signal ↔
      s.Idle c path signal := by
  cases signal with
  | defaultSinkChanged other => exact absurd hkeeps Bool.noConfusion
  | cardsWithoutUnavailableChanged info =>
    exact iff_of_true (.inl (levels_setCardsInfo c s info)) trivial
  | maxUIVolumeChanged volume => exact iff_of_true (.inl rfl) trivial
  | increaseVolumeChanged =>
    refine iff_of_true (.inr ?_) trivial
    unfold handle onIncreaseVolumeChanged
    rw [hs]
    rfl
  | activePortChanged sink portName =>
    exact iff_of_true (.inl (levels_onActivePortChanged s sink portName)) trivial
  | volumeChanged sink volume => exact hs.volumeChanged_iff sink volume
  | muteChanged sink mute => exact hs.muteChanged_iff sink mute

/-- What does not deliver a signal leaves the levels as they are. -/
theorem levels_step (c : Platform V) {s : SoundController V} {e : SoundEvent V}
    (hnone : s.delivered e = none) : (step c s e).levels = s.levels := by
  cases e with
  | deliver n => rw [step_deliver_none c hnone]
  | deleteDefaultSink =>
    unfold step
    split_ifs
    · rfl
    · rfl
  | setCards info => rfl
  | setDefaultSink path => rfl
  | setMaxUIVolume volume => rfl
  | setIncreaseVolume => rfl
  | setActivePort path portName => rfl
  | setVolume path volume => rfl
  | setMute path mute => rfl
  | deleteRetired n => rfl

/-- A step changes the levels by what comes from the default sink exactly if it delivers nothing
new from an earlier one. -/
theorem At.drivenBy_iff {c : Platform V} {path : String} {s : SoundController V} (hs : s.At path)
    {e : SoundEvent V} (hkeeps : s.KeepsSink e) : DrivenBy c path s e ↔ NoForeign c path s e := by
  unfold DrivenBy NoForeign
  cases hsignal : s.delivered e with
  | none =>
    refine iff_of_true (.inl (levels_step c hsignal)) fun signal hmem => ?_
    exact absurd hmem (Option.not_mem_none signal)
  | some signal =>
    cases e with
    | deliver n =>
      have hiff := At.handle_iff (c := c) (s := { s with signals := s.signals.eraseIdx n }) hs
        (hkeeps signal hsignal)
      rw [step_deliver c (show s.signals[n]? = some signal from hsignal)]
      simp only [Option.mem_some_iff, exists_eq_left', forall_eq']
      exact hiff
    | _ => exact absurd hsignal.symm (Option.some_ne_none signal)

/-- From one change of the default sink to the next, the levels change only by what comes from that
sink, exactly if no earlier sink, whose proxy is not deleted yet, brings anything new. -/
theorem drivenBy_iff_noForeign (c : Platform V) (s : SoundController V) {path : String}
    (hpath : ValidPath path) (es : List (SoundEvent V))
    (hes : Obeys (step c) KeepsSink (s.onDefaultSinkChanged c path) es) :
    Obeys (step c) (DrivenBy c path) (s.onDefaultSinkChanged c path) es ↔
      Obeys (step c) (NoForeign c path) (s.onDefaultSinkChanged c path) es := by
  have hat := at_onDefaultSinkChanged c s hpath
  generalize s.onDefaultSinkChanged c path = start at hat hes ⊢
  induction es generalizing start with
  | nil => exact Iff.rfl
  | cons e es ih => exact and_congr (hat.drivenBy_iff hes.1) (ih _ (hat.step hes.1) hes.2)

/-- The proxy of the earlier sink is deleted before this sink's volume is told. -/
theorem drivenBy_deleted :
    Obeys (step .speaker) (DrivenBy .speaker "/2")
      ((create .speaker (.twoSinks speakerJson)).onDefaultSinkChanged .speaker "/2")
      [.deleteRetired 0, .setVolume "/1" 80, .deliver 0, .setMute "/2" true, .deliver 0] := by
  refine (drivenBy_iff_noForeign .speaker _ (by decide) _ ?_).mpr ?_
  · simp only [Obeys, KeepsSink]
    decide
  · simp only [Obeys, NoForeign]
    decide

/-- The volume of the earlier sink is told between the change and the deletion of its proxy. -/
theorem not_drivenBy_earlierSink :
    ¬Obeys (step .speaker) (DrivenBy .speaker "/2")
      (run (step .speaker) (create .speaker (.twoSinks speakerJson))
        [.setDefaultSink "/2", .setVolume "/1" 80, .deliver 0]) [.deliver 0] := by
  intro hdriven
  cases hdriven.1 with
  | inl hsame => exact absurd hsame (by decide)
  | inr hdrives =>
    obtain ⟨signal, hsignal, hdrives⟩ := hdrives
    obtain rfl : .volumeChanged "/1" 80 = signal := Option.some.inj hsignal
    exact absurd hdrives.1 (by decide)

end SoundController

end DdeTrayLoader.Sound
