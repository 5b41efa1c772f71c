import DdeTrayLoader.Sound.SoundModel
import DdeTrayLoader.Transition.Run

/-!
# The list of sound ports

`SoundApplet` has an item for each enabled port. It learns of ports that appear or become enabled
from the model, of removed ones likewise, and of disabled ones from the port itself, to which it is
connected as long as it shows it.

The model tells of differences only, so the list is right because it was right before.
-/

namespace DdeTrayLoader.Sound

open Tray (HashOrder)
open Transition

/-- `SoundApplet`, with the keys of its items and those of the ports it is connected to. -/
structure SoundApplet where
  rows : List String
  connections : List String
  deriving DecidableEq, Repr

namespace SoundApplet

def addPort (applet : SoundApplet) (port : SoundCardPort) : SoundApplet :=
  if !port.enabled then applet
  else
    { rows := applet.rows ++ [port.uniqueKey]
      connections := port.uniqueKey :: applet.connections }

/-- `removePort`. The port is still in the model then, and is disconnected. -/
def removePort (applet : SoundApplet) (key : String) : SoundApplet where
  rows := applet.rows.erase key
  connections := applet.connections.filter (· ≠ key)

/-- What the applet does when it is told something. -/
def handle (applet : SoundApplet) : ModelSignal → SoundApplet
  | .enabledChanged port =>
    if port.uniqueKey ∈ applet.connections ∧ port.enabled = false then
      applet.removePort port.uniqueKey
    else applet
  | .enabledPortAdded port => applet.addPort port
  | .portRemoved key => applet.removePort key

/-- A new applet, with the items of the ports that there are. -/
def create (ports : List SoundCardPort) : SoundApplet := ports.foldl addPort ⟨[], []⟩

/-- The applet has one item for each enabled port, and is connected to these ports. -/
structure Shows (applet : SoundApplet) (ports : Ports) : Prop where
  count : ∀ key, applet.rows.count key = if ports.enabledAt key then 1 else 0
  connected : ∀ key, key ∈ applet.connections ↔ ports.enabledAt key = true

/-- What is shown depends on what is enabled only. -/
theorem Shows.congr {applet : SoundApplet} {ports ports' : Ports} (h : applet.Shows ports)
    (hsame : ∀ key, ports'.enabledAt key = ports.enabledAt key) : applet.Shows ports' := by
  constructor
  · intro key
    rw [hsame, h.count]
  · intro key
    rw [hsame, h.connected]

/-- A port that was not shown is put in, and shown if it is enabled. -/
theorem Shows.addPort {applet : SoundApplet} {ports : Ports} (h : applet.Shows ports)
    {port : SoundCardPort} (hnone : ports.enabledAt port.uniqueKey = false) :
    (applet.addPort port).Shows (ports.insert port) := by
  unfold SoundApplet.addPort
  cases henabled : port.enabled with
  | false =>
    refine h.congr fun key => ?_
    rw [Ports.enabledAt_insert]
    split_ifs with hkey
    · rw [hkey, hnone, henabled]
    · rfl
  | true =>
    constructor
    · intro key
      rw [Ports.enabledAt_insert]
      change (applet.rows ++ [port.uniqueKey]).count key = _
      rw [List.count_append, h.count]
      by_cases hkey : key = port.uniqueKey
      · simp [hkey, hnone, henabled]
      · simp [hkey, Ne.symm hkey]
    · intro key
      rw [Ports.enabledAt_insert]
      change key ∈ port.uniqueKey :: applet.connections ↔ _
      rw [List.mem_cons, h.connected]
      by_cases hkey : key = port.uniqueKey
      · simp [hkey, henabled]
      · simp [hkey]

/-- A port that is not enabled any more is not shown any more. -/
theorem Shows.removePort {applet : SoundApplet} {ports ports' : Ports} (h : applet.Shows ports)
    {removed : String}
    (hgone : ∀ key, ports'.enabledAt key = if key = removed then false else ports.enabledAt key) :
    (applet.removePort removed).Shows ports' := by
  constructor
  · intro key
    rw [hgone]
    change (applet.rows.erase removed).count key = _
    rw [List.count_erase, h.count]
    by_cases hkey : key = removed
    · cases henabled : ports.enabledAt removed with
      | true => simp [hkey, henabled]
      | false => simp [hkey, henabled]
    · simp [hkey, Ne.symm hkey]
  · intro key
    rw [hgone]
    change key ∈ applet.connections.filter (· ≠ removed) ↔ _
    rw [List.mem_filter, h.connected]
    by_cases hkey : key = removed
    · simp [hkey]
    · simp [hkey]

/-- A new port is shown if it is enabled. -/
theorem Shows.appeared {applet : SoundApplet} {ports : Ports} (h : applet.Shows ports)
    {port : SoundCardPort} (hnone : ports.enabledAt port.uniqueKey = false) :
    ((if port.enabled then [ModelSignal.enabledPortAdded port] else []).foldl handle
      applet).Shows (ports.insert port) := by
  have hadd := h.addPort hnone
  cases henabled : port.enabled with
  | true => exact hadd
  | false =>
    unfold SoundApplet.addPort at hadd
    rwa [henabled] at hadd

/-- A port that was there is shown if it is enabled now. -/
theorem Shows.changed {applet : SoundApplet} {ports : Ports} (h : applet.Shows ports)
    {port : SoundCardPort} {enabled : Bool} (hold : ports.enabledAt port.uniqueKey = enabled) :
    (((if port.enabled ≠ enabled then [ModelSignal.enabledChanged port] else []) ++
      if !enabled && port.enabled then [ModelSignal.enabledPortAdded port] else []).foldl handle
      applet).Shows (ports.insert port) := by
  cases enabled with
  | true =>
    cases henabled : port.enabled with
    | true =>
      refine h.congr fun key => ?_
      rw [Ports.enabledAt_insert]
      split_ifs with hkey
      · rw [hkey, hold, henabled]
      · rfl
    | false =>
      -- It was shown, so the applet is connected to it.
      have hremoved : applet.handle (.enabledChanged port) = applet.removePort port.uniqueKey :=
        if_pos ⟨(h.connected _).mpr hold, henabled⟩
      change (applet.handle (.enabledChanged port)).Shows _
      rw [hremoved]
      refine h.removePort fun key => ?_
      rw [Ports.enabledAt_insert, henabled]
  | false =>
    have hignored : port.enabled = true → applet.handle (.enabledChanged port) = applet :=
      fun henabled => if_neg fun hboth => Bool.noConfusion (henabled.symm.trans hboth.2)
    have happeared := h.appeared hold
    cases henabled : port.enabled with
    | true =>
      rw [henabled] at happeared
      change ([ModelSignal.enabledPortAdded port].foldl handle
        (applet.handle (.enabledChanged port))).Shows _
      rwa [hignored henabled]
    | false => rwa [henabled] at happeared

/-- The applet follows the model over a port of the JSON. -/
theorem Shows.analysisAddPort {applet : SoundApplet} {s : Analysis}
    (h : (s.emitted.foldl handle applet).Shows s.ports) (jCard : JsonCard) (jPort : JsonPort) :
    ((Analysis.addPort jCard s jPort).emitted.foldl handle applet).Shows
      (Analysis.addPort jCard s jPort).ports := by
  by_cases husable : jPort.usable = true
  · unfold Analysis.addPort
    rw [if_pos husable]
    have hkey : ∀ port : SoundCardPort,
        s.ports.enabledAt (port.update jCard jPort).uniqueKey =
          (s.ports.value (compositeKey jCard.id jPort.name)).any SoundCardPort.enabled :=
      fun port => rfl
    split
    · next hvalue =>
      dsimp only
      rw [List.foldl_append]
      exact h.appeared (by rw [hkey, hvalue]; rfl)
    · next old hvalue =>
      dsimp only
      rw [List.append_assoc, List.foldl_append]
      exact h.changed (by rw [hkey, hvalue]; rfl)
  · rwa [Analysis.addPort_of_not_usable husable]

/-- The applet follows the model over a port that is looked at in the end. -/
theorem Shows.analysisRemovePort {applet : SoundApplet} {s : Analysis}
    (h : (s.emitted.foldl handle applet).Shows s.ports) (port : SoundCardPort) :
    ((s.removePort port).emitted.foldl handle applet).Shows (s.removePort port).ports := by
  unfold Analysis.removePort
  split_ifs with hnoted
  · exact h
  · rw [List.foldl_append]
    exact h.removePort (Ports.enabledAt_remove s.ports port.uniqueKey)

/-- The applet follows an update of the cards. -/
theorem Shows.analysis {applet : SoundApplet} {ports : Ports} (h : applet.Shows ports)
    (order : HashOrder SoundCardPort) (cards : List JsonCard) :
    ((SoundModel.analysis order ports cards).emitted.foldl handle applet).Shows
      (SoundModel.analysis order ports cards).ports := by
  have hadded := Analysis.foldl_addCard_invariant
    (I := fun s => (s.emitted.foldl handle applet).Shows s.ports)
    (fun jCard s jPort hs => hs.analysisAddPort jCard jPort) (s := ⟨ports, [], []⟩) h cards
  unfold SoundModel.analysis
  dsimp only
  generalize order.list _ = listed
  generalize cards.foldl Analysis.addCard ⟨ports, [], []⟩ = added at hadded
  induction listed generalizing added with
  | nil => exact hadded
  | cons port listed ih => exact ih _ (hadded.analysisRemovePort port)

theorem Shows.setCardsInfo {applet : SoundApplet} {s : SoundModel} (h : applet.Shows s.ports)
    (reader : CardsReader) (order : HashOrder SoundCardPort) (info : String) :
    ((s.setCardsInfo reader order info).2.foldl handle applet).Shows
      (s.setCardsInfo reader order info).1.ports := by
  unfold SoundModel.setCardsInfo
  split_ifs
  · exact h.analysis order (reader.read info)
  · exact h

/-- The items of the enabled ports are put in one after another. -/
theorem foldl_addPort (ports : List SoundCardPort) (applet : SoundApplet) :
    (ports.foldl addPort applet).rows =
        applet.rows ++ (ports.filter SoundCardPort.enabled).map SoundCardPort.uniqueKey ∧
      ∀ key, key ∈ (ports.foldl addPort applet).connections ↔
        key ∈ (ports.filter SoundCardPort.enabled).map SoundCardPort.uniqueKey ∨
          key ∈ applet.connections := by
  induction ports generalizing applet with
  | nil => simp
  | cons port ports ih =>
    obtain ⟨hrows, hconnections⟩ := ih (applet.addPort port)
    rw [List.foldl_cons, hrows]
    simp only [hconnections]
    cases henabled : port.enabled with
    | true => simp [addPort, henabled, or_left_comm, or_assoc]
    | false => simp [addPort, henabled]

/-- An enabled port is under the key. -/
theorem enabledAt_iff (ports : Ports) (key : String) : ports.enabledAt key = true ↔
    key ∈ (ports.list.filter SoundCardPort.enabled).map SoundCardPort.uniqueKey := by
  rw [Ports.enabledAt, Option.any_eq_true, List.mem_map]
  constructor
  · intro hport
    obtain ⟨port, hvalue, henabled⟩ := hport
    obtain ⟨hmem, hkey⟩ := Ports.value_eq_some.mp hvalue
    exact ⟨port, List.mem_filter.mpr ⟨hmem, henabled⟩, hkey⟩
  · intro hport
    obtain ⟨port, hmem, hkey⟩ := hport
    obtain ⟨hmem, henabled⟩ := List.mem_filter.mp hmem
    exact ⟨port, Ports.value_eq_some.mpr ⟨hmem, hkey⟩, henabled⟩

/-- A new applet shows the ports that there are. -/
theorem shows_create (order : HashOrder SoundCardPort) (ports : Ports) :
    (create (order.list ports.list)).Shows ports := by
  obtain ⟨hrows, hconnections⟩ := foldl_addPort (order.list ports.list) ⟨[], []⟩
  have hperm := ((order.perm ports.list).filter SoundCardPort.enabled).map SoundCardPort.uniqueKey
  constructor
  · intro key
    unfold create
    rw [hrows, List.nil_append, hperm.count_eq, List.Nodup.count]
    · rw [if_congr (enabledAt_iff ports key).symm rfl rfl]
    · exact ports.nodup.sublist (List.filter_sublist.map _)
  · intro key
    unfold create
    rw [hconnections, hperm.mem_iff, ← enabledAt_iff]
    simp

end SoundApplet

/-- The model and, once it has been created, the applet. -/
structure SoundView where
  model : SoundModel
  applet : Option SoundApplet

/-- What happens to the ports. -/
inductive ViewEvent where
  /-- The applet is created. -/
  | created
  | cardsInfo (info : String)
  | activePort (cardId : UInt32) (portName : String)
  deriving DecidableEq, Repr

namespace SoundView

def initial : SoundView := ⟨.initial, none⟩

/-- A new state of the model, with what the applet is told. -/
def notify (s : SoundView) (result : SoundModel × List ModelSignal) : SoundView :=
  ⟨result.1, s.applet.map fun applet => result.2.foldl SoundApplet.handle applet⟩

variable (reader : CardsReader) (order : HashOrder SoundCardPort)

def step (s : SoundView) : ViewEvent → SoundView
  | .created =>
    { s with applet := s.applet <|> some (.create (order.list s.model.ports.list)) }
  | .cardsInfo info => s.notify (s.model.setCardsInfo reader order info)
  | .activePort cardId portName => s.notify (s.model.setActivePort cardId portName, [])

/-- The ports are the output ports of the JSON that can be used, each with the data of the last
entry of its key, and the applet has one item for each of them that is enabled. -/
structure Agrees (s : SoundView) (info : String) : Prop where
  ports : ∀ cardId portName,
    (∃ port ∈ s.model.ports.list, port.cardId = cardId ∧ port.portName = portName) ↔
      ∃ jCard ∈ reader.read info, jCard.id = cardId ∧
        ∃ jPort ∈ jCard.ports, jPort.usable = true ∧ jPort.name = portName
  told : ∀ port ∈ s.model.ports.list, ∃ jCard jPort,
    lastEntry (entries (reader.read info)) port.uniqueKey = some (jCard, jPort) ∧
      port = port.update jCard jPort
  rows : ∀ applet ∈ s.applet, ∀ key,
    applet.rows.count key = if s.model.ports.enabledAt key then 1 else 0

/-- The ports follow the cards, and the applet shows the ports. -/
structure Consistent (s : SoundView) : Prop where
  follows : s.model.Follows reader
  told : s.model.Told reader
  shows : ∀ applet ∈ s.applet, applet.Shows s.model.ports

variable {reader}

/-- What one event preserves. -/
theorem Consistent.step {s : SoundView} (hs : s.Consistent reader) (e : ViewEvent) :
    (SoundView.step reader order s e).Consistent reader := by
  cases e with
  | created =>
    constructor
    · exact hs.follows
    · exact hs.told
    · intro applet happlet
      unfold SoundView.step at happlet
      cases hbefore : s.applet with
      | none =>
        rw [hbefore] at happlet
        obtain rfl := Option.mem_some.mp happlet
        exact SoundApplet.shows_create order s.model.ports
      | some old =>
        rw [hbefore] at happlet
        obtain rfl := Option.mem_some.mp happlet
        exact hs.shows old hbefore
  | cardsInfo info =>
    constructor
    · exact hs.follows.setCardsInfo order info
    · exact hs.told.setCardsInfo order info
    · intro applet happlet
      obtain ⟨old, hold, rfl⟩ := Option.map_eq_some_iff.mp happlet
      exact (hs.shows old hold).setCardsInfo reader order info
  | activePort cardId portName =>
    constructor
    · exact hs.follows.setActivePort cardId portName
    · exact hs.told.setActivePort cardId portName
    · intro applet happlet
      obtain ⟨old, hold, rfl⟩ := Option.map_eq_some_iff.mp happlet
      exact (hs.shows old hold).congr (Ports.enabledAt_activate s.model.ports _)

/-- Ports that follow the cards are the output ports of the JSON. -/
theorem Consistent.agrees {s : SoundView} (hs : s.Consistent reader) :
    s.Agrees reader s.model.cardsInfo := by
  constructor
  · intro cardId portName
    have hkey := hs.follows (compositeKey cardId portName)
    simp only [List.mem_flatMap, JsonCard.keys, List.mem_map, List.mem_filter,
      compositeKey_inj] at hkey
    constructor
    · intro hport
      obtain ⟨port, hmem, rfl, rfl⟩ := hport
      have hvalue : s.model.ports.value (compositeKey port.cardId port.portName) = some port :=
        Ports.value_eq_some.mpr ⟨hmem, rfl⟩
      obtain ⟨jCard, hjCard, jPort, ⟨hjPort, husable⟩, hid, hname⟩ := hkey.mp (by rw [hvalue]; rfl)
      exact ⟨jCard, hjCard, hid, jPort, hjPort, husable, hname⟩
    · intro hjson
      obtain ⟨jCard, hjCard, hid, jPort, hjPort, husable, hname⟩ := hjson
      obtain ⟨port, hvalue⟩ := Option.isSome_iff_exists.mp
        (hkey.mpr ⟨jCard, hjCard, jPort, ⟨hjPort, husable⟩, hid, hname⟩)
      obtain ⟨hmem, hsame⟩ := Ports.value_eq_some.mp hvalue
      exact ⟨port, hmem, compositeKey_inj.mp hsame⟩
  · intro port hmem
    obtain ⟨entry, hlast, hupdate⟩ := hs.told port.uniqueKey port
      (Ports.value_eq_some.mpr ⟨hmem, rfl⟩)
    exact ⟨entry.1, entry.2, hlast, hupdate⟩
  · intro applet happlet
    exact (hs.shows applet happlet).count

/-- After every update the ports are those of the JSON, and the applet shows the enabled ones. -/
theorem agrees_cardsInfo (es : List ViewEvent) (info : String) :
    (run (step reader order) initial (es ++ [.cardsInfo info])).Agrees reader info := by
  have hinitial : initial.Consistent reader := by
    constructor
    · exact SoundModel.follows_initial reader
    · exact SoundModel.told_initial reader
    · intro applet happlet
      exact absurd happlet (Option.not_mem_none applet)
  have hrun : (run (step reader order) initial (es ++ [.cardsInfo info])).Consistent reader :=
    run_invariant (fun s e hs => hs.step order e) _ hinitial
  have hinfo :
      (run (step reader order) initial (es ++ [.cardsInfo info])).model.cardsInfo = info := by
    rw [run_concat]
    exact SoundModel.cardsInfo_setCardsInfo reader order _ info
  have hagrees := hrun.agrees
  rwa [hinfo] at hagrees

end SoundView

end DdeTrayLoader.Sound
