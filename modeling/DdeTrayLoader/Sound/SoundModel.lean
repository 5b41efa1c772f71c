import DdeTrayLoader.Tray.Registered
import Mathlib.Data.List.Induction
import Mathlib.Data.List.Nodup
import Mathlib.Data.Rat.Init

/-!
# Ports of the sound cards

`SoundModel` has a `SoundCardPort` for each output port in the JSON of the audio service that can
be used, under a key made of the card's id and the port's name. An update is worked in as a
difference: ports that are there already are changed in place, and keep their `active` flag.
-/

namespace DdeTrayLoader.Sound

open Tray (HashOrder)

/-- `SoundCardPort::compositeKey`. -/
def compositeKey (cardId : UInt32) (portName : String) : String :=
  toString cardId.toNat ++ "_dock-separate-key_" ++ portName

/-- The characters of a key. -/
theorem toList_compositeKey (cardId : UInt32) (portName : String) :
    (compositeKey cardId portName).toList =
      Nat.toDigits 10 cardId.toNat ++ "_dock-separate-key_".toList ++ portName.toList := by
  simp [compositeKey, Nat.toList_repr]

/-- A key starts with the digits of the card's id. -/
theorem takeWhile_compositeKey (cardId : UInt32) (portName : String) :
    (compositeKey cardId portName).toList.takeWhile Char.isDigit =
      Nat.toDigits 10 cardId.toNat := by
  rw [toList_compositeKey, List.append_assoc, List.takeWhile_append_of_pos]
  · exact List.append_nil _
  · intro c hc
    exact Nat.isDigit_of_mem_toDigits (by decide) (by decide) hc

/-- Different cards or ports have different keys. -/
theorem compositeKey_inj {cardId cardId' : UInt32} {portName portName' : String} :
    compositeKey cardId portName = compositeKey cardId' portName' ↔
      cardId = cardId' ∧ portName = portName' := by
  constructor
  · intro hkey
    have hdigits : Nat.toDigits 10 cardId.toNat = Nat.toDigits 10 cardId'.toNat := by
      rw [← takeWhile_compositeKey cardId portName, hkey, takeWhile_compositeKey]
    have hid : cardId.toNat = cardId'.toNat := by
      rw [← Nat.ofDigitChars_ten_toDigits (n := cardId.toNat), hdigits,
        Nat.ofDigitChars_ten_toDigits]
    have hchars := congrArg String.toList hkey
    rw [toList_compositeKey, toList_compositeKey, hdigits, List.append_cancel_left_eq] at hchars
    exact ⟨UInt32.toNat_inj.mp hid, String.toList_inj.mp hchars⟩
  · intro hsame
    rw [hsame.1, hsame.2]

/-- A `SoundCardPort`. -/
structure SoundCardPort where
  portName : String
  description : String
  cardId : UInt32
  cardName : String
  active : Bool
  enabled : Bool
  bluetooth : Bool
  direction : ℤ
  portType : ℤ
  deriving DecidableEq, Repr

/-- `SoundCardPort::Out`. -/
def directionOut : ℤ := 1

namespace SoundCardPort

def uniqueKey (port : SoundCardPort) : String := compositeKey port.cardId port.portName

/-- A port as its constructor leaves it; its type is `Other`. -/
def create : SoundCardPort := ⟨"", "", 0, "", false, true, false, directionOut, 7⟩

end SoundCardPort

/-- A port in the JSON, with the values that `analysisCardsInfo` reads. -/
structure JsonPort where
  name : String
  description : String
  available : ℚ
  direction : ℤ
  enabled : Bool
  bluetooth : Bool
  portType : ℤ
  deriving DecidableEq, Repr

/-- A card in the JSON. -/
structure JsonCard where
  id : UInt32
  name : String
  ports : List JsonPort
  deriving DecidableEq, Repr

/-- How JSON is read. A value that is missing or of another type is read as zero, as false or as
empty, and a text that is no array has no cards. -/
structure CardsReader where
  read : String → List JsonCard
  read_empty : read "" = []

/-- The port can be used for output: it is known to be available, or this is not known. -/
def JsonPort.usable (jPort : JsonPort) : Bool :=
  (jPort.available == 2 || jPort.available == 0) && jPort.direction == directionOut

/-- What the setters in `analysisCardsInfo` make of a port. -/
def SoundCardPort.update (port : SoundCardPort) (jCard : JsonCard) (jPort : JsonPort) :
    SoundCardPort :=
  { port with
    portName := jPort.name
    description := jPort.description
    direction := jPort.direction
    cardId := jCard.id
    cardName := jCard.name
    enabled := jPort.enabled
    bluetooth := jPort.bluetooth
    portType := jPort.portType }

/-- `m_ports`, by its values, each of which is under its own key. -/
structure Ports where
  list : List SoundCardPort
  nodup : (list.map SoundCardPort.uniqueKey).Nodup

namespace Ports

def empty : Ports := ⟨[], List.nodup_nil⟩

/-- `m_ports.value(key)`. -/
def value (ports : Ports) (key : String) : Option SoundCardPort :=
  ports.list.find? (·.uniqueKey = key)

def remove (ports : Ports) (key : String) : Ports where
  list := ports.list.filter (·.uniqueKey ≠ key)
  nodup := ports.nodup.sublist (List.filter_sublist.map _)

/-- The port under its key, in place of the one that was there. -/
def insert (ports : Ports) (port : SoundCardPort) : Ports where
  list := (ports.remove port.uniqueKey).list ++ [port]
  nodup := by
    rw [List.map_append, List.nodup_append]
    refine ⟨(ports.remove port.uniqueKey).nodup, List.nodup_singleton _, ?_⟩
    intro key hkey other hother
    obtain ⟨before, hbefore, rfl⟩ := List.mem_map.mp hkey
    obtain rfl := List.mem_singleton.mp hother
    simpa using (List.mem_filter.mp hbefore).2

/-- The loop of `setActivePort`. -/
def activate (ports : Ports) (key : String) : Ports where
  list := ports.list.map fun port => { port with active := port.uniqueKey == key }
  nodup := by
    rw [List.map_map]
    exact ports.nodup

/-- A value is what is stored under its key. -/
theorem value_eq_some {ports : Ports} {key : String} {port : SoundCardPort} :
    ports.value key = some port ↔ port ∈ ports.list ∧ port.uniqueKey = key := by
  constructor
  · intro hvalue
    exact ⟨List.mem_of_find?_eq_some hvalue, by simpa using List.find?_some hvalue⟩
  · intro hport
    obtain ⟨hmem, rfl⟩ := hport
    cases hfind : ports.list.find? (·.uniqueKey = port.uniqueKey) with
    | none =>
      have hnone := List.find?_eq_none.mp hfind port hmem
      exact absurd (decide_eq_true rfl) hnone
    | some other =>
      have hkey : other.uniqueKey = port.uniqueKey := by simpa using List.find?_some hfind
      have hsame : other = port :=
        List.inj_on_of_nodup_map ports.nodup (List.mem_of_find?_eq_some hfind) hmem hkey
      rw [value, hfind, hsame]

@[simp] theorem value_empty (key : String) : empty.value key = none := rfl

@[simp] theorem value_remove (ports : Ports) (removed key : String) :
    (ports.remove removed).value key = if key = removed then none else ports.value key := by
  ext port
  rw [value_eq_some]
  split_ifs with hkey
  · simp only [remove, List.mem_filter, iff_false]
    intro hport
    exact absurd (hport.2.trans hkey) (by simpa using hport.1.2)
  · rw [value_eq_some, remove, List.mem_filter]
    constructor
    · intro hport
      exact ⟨hport.1.1, hport.2⟩
    · intro hport
      exact ⟨⟨hport.1, by simpa [hport.2] using hkey⟩, hport.2⟩

@[simp] theorem value_insert (ports : Ports) (port : SoundCardPort) (key : String) :
    (ports.insert port).value key =
      if key = port.uniqueKey then some port else ports.value key := by
  have hremoved := value_remove ports port.uniqueKey key
  unfold value at hremoved
  rw [value, insert, List.find?_append, hremoved]
  split_ifs with hkey
  · simp [hkey]
  · simp [Ne.symm hkey, value]

@[simp] theorem value_activate (ports : Ports) (active key : String) :
    (ports.activate active).value key =
      (ports.value key).map fun port => { port with active := key == active } := by
  ext port
  rw [value_eq_some, activate, List.mem_map, Option.map_eq_some_iff]
  constructor
  · intro hport
    obtain ⟨⟨before, hbefore, rfl⟩, hkey⟩ := hport
    obtain rfl : before.uniqueKey = key := hkey
    exact ⟨before, value_eq_some.mpr ⟨hbefore, rfl⟩, rfl⟩
  · intro hport
    obtain ⟨before, hbefore, rfl⟩ := hport
    obtain ⟨hmem, rfl⟩ := value_eq_some.mp hbefore
    exact ⟨⟨before, hmem, rfl⟩, rfl⟩

end Ports

namespace Ports

/-- An enabled port is stored under the key. -/
def enabledAt (ports : Ports) (key : String) : Bool :=
  (ports.value key).any SoundCardPort.enabled

@[simp] theorem enabledAt_insert (ports : Ports) (port : SoundCardPort) (key : String) :
    (ports.insert port).enabledAt key =
      if key = port.uniqueKey then port.enabled else ports.enabledAt key := by
  rw [enabledAt, value_insert]
  split_ifs
  · rfl
  · rfl

@[simp] theorem enabledAt_remove (ports : Ports) (removed key : String) :
    (ports.remove removed).enabledAt key =
      if key = removed then false else ports.enabledAt key := by
  rw [enabledAt, value_remove]
  split_ifs
  · rfl
  · rfl

@[simp] theorem enabledAt_activate (ports : Ports) (active key : String) :
    (ports.activate active).enabledAt key = ports.enabledAt key := by
  rw [enabledAt, value_activate, Option.any_map]
  rfl

/-- An active port is stored under the key. -/
def activeAt (ports : Ports) (key : String) : Bool := (ports.value key).any SoundCardPort.active

/-- Of the ports that there are, the one under the key is active and no other. -/
def ActiveOnly (ports : Ports) (active : String) : Prop :=
  ∀ key port, ports.value key = some port → port.active = (key == active)

theorem activeOnly_activate (ports : Ports) (active : String) :
    (ports.activate active).ActiveOnly active := by
  intro key port hport
  rw [value_activate] at hport
  obtain ⟨before, -, rfl⟩ := Option.map_eq_some_iff.mp hport
  rfl

end Ports

/-- What the model and its ports tell those who listen. -/
inductive ModelSignal where
  /-- A port tells that it has been enabled or disabled. -/
  | enabledChanged (port : SoundCardPort)
  | enabledPortAdded (port : SoundCardPort)
  | portRemoved (key : String)
  deriving DecidableEq, Repr

/-- `SoundModel`. -/
structure SoundModel where
  volume : ℤ
  mute : Bool
  maxVolumeUI : ℤ
  cardsInfo : String
  ports : Ports

/-- The variables of `analysisCardsInfo`, with what has been emitted. -/
structure Analysis where
  ports : Ports
  tmpPorts : List String
  emitted : List ModelSignal

namespace Analysis

/-- The loop of `analysisCardsInfo` over the ports of a card, for one of them. -/
def addPort (jCard : JsonCard) (s : Analysis) (jPort : JsonPort) : Analysis :=
  if jPort.usable then
    match s.ports.value (compositeKey jCard.id jPort.name) with
    | none =>
      let port := SoundCardPort.create.update jCard jPort
      { ports := s.ports.insert port
        tmpPorts := s.tmpPorts ++ [port.uniqueKey]
        -- Nothing is connected to the new port when it is told its own state.
        emitted := s.emitted ++ if port.enabled then [.enabledPortAdded port] else [] }
    | some old =>
      let port := old.update jCard jPort
      { ports := s.ports.insert port
        tmpPorts := s.tmpPorts ++ [port.uniqueKey]
        emitted := s.emitted ++
          (if port.enabled ≠ old.enabled then [.enabledChanged port] else []) ++
          if !old.enabled && port.enabled then [.enabledPortAdded port] else [] }
  else s

def addCard (s : Analysis) (jCard : JsonCard) : Analysis := jCard.ports.foldl (addPort jCard) s

/-- The last loop of `analysisCardsInfo`, for one port. -/
def removePort (s : Analysis) (port : SoundCardPort) : Analysis :=
  if port.uniqueKey ∈ s.tmpPorts then s
  else
    { s with
      emitted := s.emitted ++ [.portRemoved port.uniqueKey]
      ports := s.ports.remove port.uniqueKey }

end Analysis

namespace SoundModel

def initial : SoundModel := ⟨0, false, 100, "", .empty⟩

/-- The loops of `analysisCardsInfo`; `order` is how the map lists its values. -/
def analysis (order : HashOrder SoundCardPort) (ports : Ports) (cards : List JsonCard) : Analysis :=
  let added := cards.foldl Analysis.addCard ⟨ports, [], []⟩
  (order.list added.ports.list).foldl Analysis.removePort added

/-- `setCardsInfo`, with what is emitted. -/
def setCardsInfo (reader : CardsReader) (order : HashOrder SoundCardPort) (s : SoundModel)
    (info : String) : SoundModel × List ModelSignal :=
  if s.cardsInfo ≠ info then
    let result := analysis order s.ports (reader.read info)
    ({ s with cardsInfo := info, ports := result.ports }, result.emitted)
  else (s, [])

def setActivePort (s : SoundModel) (cardId : UInt32) (portName : String) : SoundModel :=
  { s with ports := s.ports.activate (compositeKey cardId portName) }

def activePort (order : HashOrder SoundCardPort) (s : SoundModel) : Option SoundCardPort :=
  (order.list s.ports.list).find? SoundCardPort.active

/-- `setVolume`, for the value in percent. -/
def setVolume (s : SoundModel) (tmp : ℤ) : SoundModel := { s with volume := tmp }

def setMute (s : SoundModel) (mute : Bool) : SoundModel := { s with mute := mute }

/-- `setMaxVolumeUI`, for the value in percent. -/
def setMaxVolumeUI (s : SoundModel) (tmp : ℤ) : SoundModel := { s with maxVolumeUI := tmp }

def existActiveOutputDevice (s : SoundModel) : Bool :=
  s.ports.list.any fun port => port.direction == directionOut && port.enabled

end SoundModel

/-- The keys of the card's ports that can be used. -/
def JsonCard.keys (jCard : JsonCard) : List String :=
  (jCard.ports.filter JsonPort.usable).map fun jPort => compositeKey jCard.id jPort.name

/-- The ports of the JSON that can be used, each with its card. -/
def entries (cards : List JsonCard) : List (JsonCard × JsonPort) :=
  cards.flatMap fun jCard => (jCard.ports.filter JsonPort.usable).map fun jPort => (jCard, jPort)

/-- The last of the entries with a key. -/
def lastEntry (entries : List (JsonCard × JsonPort)) (key : String) :
    Option (JsonCard × JsonPort) :=
  entries.reverse.find? fun entry => compositeKey entry.1.id entry.2.name = key

theorem lastEntry_concat (entries : List (JsonCard × JsonPort)) (entry : JsonCard × JsonPort)
    (key : String) : lastEntry (entries ++ [entry]) key =
      if compositeKey entry.1.id entry.2.name = key then some entry else lastEntry entries key := by
  unfold lastEntry
  rw [List.reverse_concat, List.find?_cons]
  split_ifs with hkey
  · rw [decide_eq_true hkey]
  · rw [decide_eq_false hkey]

theorem mem_keys_iff {cards : List JsonCard} {key : String} :
    key ∈ cards.flatMap JsonCard.keys ↔ (lastEntry (entries cards) key).isSome := by
  unfold lastEntry entries JsonCard.keys
  rw [List.find?_isSome, List.mem_flatMap]
  constructor
  · rintro ⟨jCard, hjCard, hkey⟩
    obtain ⟨jPort, hjPort, rfl⟩ := List.mem_map.mp hkey
    have hentry : (jCard, jPort) ∈ (jCard.ports.filter JsonPort.usable).map fun jPort =>
        (jCard, jPort) := List.mem_map_of_mem hjPort
    exact ⟨(jCard, jPort), List.mem_reverse.mpr (List.mem_flatMap.mpr ⟨jCard, hjCard, hentry⟩),
      decide_eq_true rfl⟩
  · rintro ⟨entry, hentry, hkey⟩
    obtain ⟨jCard, hjCard, hmem⟩ := List.mem_flatMap.mp (List.mem_reverse.mp hentry)
    obtain ⟨jPort, hjPort, rfl⟩ := List.mem_map.mp hmem
    exact ⟨jCard, hjCard, List.mem_map.mpr ⟨jPort, hjPort, of_decide_eq_true hkey⟩⟩

namespace Analysis

/-- A port that can be used is put under its key with its data, and its key is noted. -/
theorem addPort_of_usable (jCard : JsonCard) (s : Analysis) {jPort : JsonPort}
    (husable : jPort.usable = true) :
    ∃ port : SoundCardPort, port.uniqueKey = compositeKey jCard.id jPort.name ∧
      (addPort jCard s jPort).ports = s.ports.insert port ∧
      (addPort jCard s jPort).tmpPorts = s.tmpPorts ++ [port.uniqueKey] ∧
      port = port.update jCard jPort := by
  unfold addPort
  rw [if_pos husable]
  split
  · exact ⟨SoundCardPort.create.update jCard jPort, rfl, rfl, rfl, rfl⟩
  · next old _ => exact ⟨old.update jCard jPort, rfl, rfl, rfl, rfl⟩

/-- A port that cannot be used is passed over. -/
theorem addPort_of_not_usable {jCard : JsonCard} {s : Analysis} {jPort : JsonPort}
    (husable : ¬jPort.usable = true) : addPort jCard s jPort = s := by
  rw [addPort, if_neg husable]

/-- The keys that are noted for a card. -/
theorem tmpPorts_addCard (s : Analysis) (jCard : JsonCard) :
    (s.addCard jCard).tmpPorts = s.tmpPorts ++ jCard.keys := by
  unfold addCard JsonCard.keys
  induction jCard.ports generalizing s with
  | nil => exact (List.append_nil _).symm
  | cons jPort jPorts ih =>
    rw [List.foldl_cons, ih]
    by_cases husable : jPort.usable = true
    · obtain ⟨port, hkey, -, htmp, -⟩ := addPort_of_usable jCard s husable
      rw [htmp, hkey, List.filter_cons_of_pos husable, List.map_cons, List.append_assoc,
        List.singleton_append]
    · rw [addPort_of_not_usable husable, List.filter_cons_of_neg husable]

/-- The keys that are noted for all cards. -/
theorem tmpPorts_foldl_addCard (s : Analysis) (cards : List JsonCard) :
    (cards.foldl addCard s).tmpPorts = s.tmpPorts ++ cards.flatMap JsonCard.keys := by
  induction cards generalizing s with
  | nil => exact (List.append_nil _).symm
  | cons jCard cards ih =>
    rw [List.foldl_cons, ih, tmpPorts_addCard, List.flatMap_cons, List.append_assoc]

/-- The two inner loops are one over the entries. -/
theorem foldl_addCard (s : Analysis) (cards : List JsonCard) :
    cards.foldl addCard s =
      (entries cards).foldl (fun s entry => addPort entry.1 s entry.2) s := by
  have hcard (jCard : JsonCard) (s : Analysis) : s.addCard jCard =
      (jCard.ports.filter JsonPort.usable).foldl (addPort jCard) s := by
    unfold addCard
    induction jCard.ports generalizing s with
    | nil => rfl
    | cons jPort jPorts ih =>
      rw [List.foldl_cons, ih]
      by_cases husable : jPort.usable = true
      · rw [List.filter_cons_of_pos husable, List.foldl_cons]
      · rw [List.filter_cons_of_neg husable, addPort_of_not_usable husable]
  induction cards generalizing s with
  | nil => rfl
  | cons jCard cards ih =>
    unfold entries
    rw [List.foldl_cons, ih, List.flatMap_cons, List.foldl_append, List.foldl_map, hcard]
    rfl

/-- Under a key is the port with the data of its last entry. -/
theorem value_foldl_addPort (s : Analysis) {entries : List (JsonCard × JsonPort)}
    (husable : ∀ entry ∈ entries, entry.2.usable = true) {key : String}
    {entry : JsonCard × JsonPort} (hlast : lastEntry entries key = some entry) :
    ∃ port, (entries.foldl (fun s entry => addPort entry.1 s entry.2) s).ports.value key =
        some port ∧ port = port.update entry.1 entry.2 := by
  induction entries using List.reverseRecOn with
  | nil => exact nomatch hlast
  | append_singleton entries last ih =>
    obtain ⟨port, hkey, hports, -, hupdate⟩ := addPort_of_usable last.1
      (entries.foldl (fun s entry => addPort entry.1 s entry.2) s)
      (husable last (List.mem_append_right _ (List.mem_singleton_self last)))
    rw [lastEntry_concat] at hlast
    rw [List.foldl_concat, hports, Ports.value_insert, hkey]
    split_ifs at hlast with hsame
    · obtain rfl := Option.some.inj hlast
      exact ⟨port, if_pos hsame.symm, hupdate⟩
    · rw [if_neg (Ne.symm hsame)]
      exact ih (fun entry hmem => husable entry (List.mem_append_left _ hmem)) hlast

/-- What every step of the two inner loops preserves is preserved by both. -/
theorem foldl_addCard_invariant {I : Analysis → Prop}
    (hI : ∀ (jCard : JsonCard) (s : Analysis) (jPort : JsonPort), I s → I (addPort jCard s jPort))
    {s : Analysis} (hs : I s) (cards : List JsonCard) : I (cards.foldl addCard s) := by
  have hcard : ∀ (jCard : JsonCard) (jPorts : List JsonPort) (s : Analysis), I s →
      I (jPorts.foldl (addPort jCard) s) := by
    intro jCard jPorts
    induction jPorts with
    | nil => exact fun s hs => hs
    | cons jPort jPorts ih => exact fun s hs => ih _ (hI jCard s jPort hs)
  induction cards generalizing s with
  | nil => exact hs
  | cons jCard cards ih => exact ih (hcard jCard jCard.ports s hs)

/-- A key that has been noted has a port. -/
def Noted (s : Analysis) : Prop := ∀ key ∈ s.tmpPorts, (s.ports.value key).isSome

theorem Noted.addPort {s : Analysis} (hs : s.Noted) (jCard : JsonCard) (jPort : JsonPort) :
    (addPort jCard s jPort).Noted := by
  by_cases husable : jPort.usable = true
  · obtain ⟨port, -, hports, htmp, -⟩ := addPort_of_usable jCard s husable
    intro key hkey
    rw [htmp, List.mem_append, List.mem_singleton] at hkey
    rw [hports, Ports.value_insert]
    split_ifs with hsame
    · rfl
    · exact hs key (hkey.resolve_right hsame)
  · rwa [addPort_of_not_usable husable]

/-- A port of the JSON leaves the ports as active as they were, and a new one is not active. -/
theorem activeAt_addPort (jCard : JsonCard) (s : Analysis) (jPort : JsonPort) (key : String) :
    (addPort jCard s jPort).ports.activeAt key = s.ports.activeAt key := by
  unfold addPort
  split_ifs
  · unfold Ports.activeAt
    split
    · next hvalue =>
      dsimp only
      rw [Ports.value_insert]
      split_ifs with hkey
      · rw [hkey]
        change false = (s.ports.value (compositeKey jCard.id jPort.name)).any _
        rw [hvalue]
        rfl
      · rfl
    · next old hvalue =>
      dsimp only
      rw [Ports.value_insert]
      split_ifs with hkey
      · rw [hkey]
        change old.active = (s.ports.value (compositeKey jCard.id jPort.name)).any _
        rw [hvalue]
        rfl
      · rfl
  · rfl

/-- The last loop removes the ports whose keys are not noted. -/
theorem foldl_removePort (s : Analysis) (listed : List SoundCardPort) (key : String) :
    (listed.foldl removePort s).ports.value key =
        (if key ∈ listed.map SoundCardPort.uniqueKey ∧ key ∉ s.tmpPorts then none
        else s.ports.value key) ∧
      (listed.foldl removePort s).tmpPorts = s.tmpPorts := by
  induction listed generalizing s with
  | nil => simp
  | cons port listed ih =>
    rw [List.foldl_cons]
    unfold removePort
    by_cases hnoted : port.uniqueKey ∈ s.tmpPorts
    · rw [if_pos hnoted]
      obtain ⟨hvalue, htmp⟩ := ih s
      refine ⟨hvalue.trans ?_, htmp⟩
      have hiff : key ∈ listed.map SoundCardPort.uniqueKey ∧ key ∉ s.tmpPorts ↔
          key ∈ (port :: listed).map SoundCardPort.uniqueKey ∧ key ∉ s.tmpPorts := by
        rw [List.map_cons, List.mem_cons]
        constructor
        · exact fun h => ⟨.inr h.1, h.2⟩
        · exact fun h => ⟨h.1.resolve_left fun heq => h.2 (heq ▸ hnoted), h.2⟩
      rw [if_congr hiff rfl rfl]
    · rw [if_neg hnoted]
      obtain ⟨hvalue, htmp⟩ := ih { s with
        emitted := s.emitted ++ [.portRemoved port.uniqueKey]
        ports := s.ports.remove port.uniqueKey }
      refine ⟨hvalue.trans ?_, htmp⟩
      simp only [Ports.value_remove, List.map_cons, List.mem_cons]
      by_cases hsame : key = port.uniqueKey
      · simp [hsame, hnoted]
      · simp [hsame]

end Analysis

namespace SoundModel

/-- After an update the ports are those that the cards have keys for. -/
theorem isSome_value_analysis (order : HashOrder SoundCardPort) (ports : Ports)
    (cards : List JsonCard) (key : String) :
    ((analysis order ports cards).ports.value key).isSome ↔ key ∈ cards.flatMap JsonCard.keys := by
  have hnoted : (cards.foldl Analysis.addCard ⟨ports, [], []⟩).Noted :=
    Analysis.foldl_addCard_invariant (fun jCard s jPort hs => hs.addPort jCard jPort)
      (fun key hkey => absurd hkey List.not_mem_nil) cards
  have htmp := Analysis.tmpPorts_foldl_addCard ⟨ports, [], []⟩ cards
  rw [List.nil_append] at htmp
  unfold analysis
  dsimp only
  rw [(Analysis.foldl_removePort _ _ key).1, ← htmp]
  split_ifs with hgone
  · simp [hgone.2]
  · constructor
    · intro hsome
      obtain ⟨port, hport⟩ := Option.isSome_iff_exists.mp hsome
      obtain ⟨hmem, rfl⟩ := Ports.value_eq_some.mp hport
      rw [not_and_not_right] at hgone
      exact hgone (List.mem_map_of_mem (order.mem_list.mpr hmem))
    · exact hnoted key

/-- After an update each port has the data of the last entry of its key. -/
theorem told_analysis (order : HashOrder SoundCardPort) (ports : Ports) (cards : List JsonCard)
    {key : String} {port : SoundCardPort}
    (hport : (analysis order ports cards).ports.value key = some port) :
    ∃ entry, lastEntry (entries cards) key = some entry ∧ port = port.update entry.1 entry.2 := by
  have hsome := (isSome_value_analysis order ports cards key).mp (by rw [hport]; rfl)
  obtain ⟨entry, hlast⟩ := Option.isSome_iff_exists.mp (mem_keys_iff.mp hsome)
  have husable : ∀ entry ∈ entries cards, entry.2.usable = true := by
    intro entry hmem
    obtain ⟨jCard, -, hentry⟩ := List.mem_flatMap.mp hmem
    obtain ⟨jPort, hjPort, rfl⟩ := List.mem_map.mp hentry
    exact (List.mem_filter.mp hjPort).2
  obtain ⟨added, hadded, hupdate⟩ := Analysis.value_foldl_addPort ⟨ports, [], []⟩ husable hlast
  rw [← Analysis.foldl_addCard] at hadded
  unfold analysis at hport
  dsimp only at hport
  rw [(Analysis.foldl_removePort _ _ key).1] at hport
  split_ifs at hport
  obtain rfl := Option.some.inj (hadded.symm.trans hport)
  exact ⟨entry, hlast, hupdate⟩

/-- An update leaves each port as active as it was, and a new port is not active. -/
theorem active_analysis (order : HashOrder SoundCardPort) (ports : Ports) (cards : List JsonCard)
    {key : String} {port : SoundCardPort}
    (hport : (analysis order ports cards).ports.value key = some port) :
    port.active = ports.activeAt key := by
  have hadded : ∀ key, (cards.foldl Analysis.addCard ⟨ports, [], []⟩).ports.activeAt key =
      ports.activeAt key :=
    Analysis.foldl_addCard_invariant
      (I := fun s => ∀ key, s.ports.activeAt key = ports.activeAt key)
      (fun jCard s jPort hs key => (Analysis.activeAt_addPort jCard s jPort key).trans (hs key))
      (fun key => rfl) cards
  unfold analysis at hport
  dsimp only at hport
  rw [(Analysis.foldl_removePort _ _ key).1] at hport
  split_ifs at hport
  rw [← hadded key, Ports.activeAt, hport]
  rfl

/-- The active port stays active, unless it is added only now. -/
theorem activeOnly_analysis (order : HashOrder SoundCardPort) {ports : Ports}
    {cards : List JsonCard} {active : String} (hports : ports.ActiveOnly active)
    (hthere : active ∈ cards.flatMap JsonCard.keys → (ports.value active).isSome) :
    (analysis order ports cards).ports.ActiveOnly active := by
  intro key port hport
  rw [active_analysis order ports cards hport, Ports.activeAt]
  cases hbefore : ports.value key with
  | some before => exact hports key before hbefore
  | none =>
    have hkey : key ≠ active := by
      rintro rfl
      have hsome := hthere ((isSome_value_analysis order ports cards key).mp (by rw [hport]; rfl))
      rw [hbefore] at hsome
      exact Bool.noConfusion hsome
    exact (beq_eq_false_iff_ne.mpr hkey).symm

/-- The active port stays active, unless the list of cards adds it only now. -/
theorem activeOnly_setCardsInfo {reader : CardsReader} (order : HashOrder SoundCardPort)
    {s : SoundModel} {info active : String} (hports : s.ports.ActiveOnly active)
    (hthere : active ∈ (reader.read info).flatMap JsonCard.keys →
      (s.ports.value active).isSome) :
    (s.setCardsInfo reader order info).1.ports.ActiveOnly active := by
  unfold setCardsInfo
  split_ifs
  · exact activeOnly_analysis order hports hthere
  · exact hports

/-- The active port is the one under the key, if there is one. -/
theorem activePort_eq (order : HashOrder SoundCardPort) {s : SoundModel} {active : String}
    (hports : s.ports.ActiveOnly active) : s.activePort order = s.ports.value active := by
  have honly : ∀ port ∈ s.ports.list, port.active = (port.uniqueKey == active) :=
    fun port hport => hports port.uniqueKey port (Ports.value_eq_some.mpr ⟨hport, rfl⟩)
  unfold activePort
  cases hfind : (order.list s.ports.list).find? SoundCardPort.active with
  | some port =>
    have hmem : port ∈ s.ports.list := order.mem_list.mp (List.mem_of_find?_eq_some hfind)
    have hactive := List.find?_some hfind
    rw [honly port hmem, beq_iff_eq] at hactive
    exact (Ports.value_eq_some.mpr ⟨hmem, hactive⟩).symm
  | none =>
    cases hvalue : s.ports.value active with
    | none => rfl
    | some port =>
      obtain ⟨hmem, hkey⟩ := Ports.value_eq_some.mp hvalue
      have hactive := honly port hmem
      rw [hkey, beq_self_eq_true] at hactive
      exact absurd hactive (List.find?_eq_none.mp hfind port (order.mem_list.mpr hmem))

/-- Each port has the data of the last entry of its key. -/
def Told (reader : CardsReader) (s : SoundModel) : Prop :=
  ∀ key port, s.ports.value key = some port →
    ∃ entry, lastEntry (entries (reader.read s.cardsInfo)) key = some entry ∧
      port = port.update entry.1 entry.2

theorem told_initial (reader : CardsReader) : initial.Told reader := by
  intro key port hport
  exact nomatch hport

theorem Told.setCardsInfo {reader : CardsReader} {s : SoundModel} (hs : s.Told reader)
    (order : HashOrder SoundCardPort) (info : String) :
    (s.setCardsInfo reader order info).1.Told reader := by
  unfold SoundModel.setCardsInfo
  split_ifs
  · exact fun key port => told_analysis order s.ports (reader.read info)
  · exact hs

/-- A port that is activated keeps its data. -/
theorem Told.setActivePort {reader : CardsReader} {s : SoundModel} (hs : s.Told reader)
    (cardId : UInt32) (portName : String) : (s.setActivePort cardId portName).Told reader := by
  intro key port hport
  change (s.ports.activate _).value key = some port at hport
  rw [Ports.value_activate] at hport
  obtain ⟨before, hbefore, rfl⟩ := Option.map_eq_some_iff.mp hport
  obtain ⟨entry, hlast, hupdate⟩ := hs key before hbefore
  let activate (port : SoundCardPort) : SoundCardPort :=
    { port with active := key == compositeKey cardId portName }
  exact ⟨entry, hlast, congrArg activate hupdate⟩

/-- The ports are those that the cards have keys for. -/
def Follows (reader : CardsReader) (s : SoundModel) : Prop :=
  ∀ key, (s.ports.value key).isSome ↔ key ∈ (reader.read s.cardsInfo).flatMap JsonCard.keys

theorem follows_initial (reader : CardsReader) : initial.Follows reader := by
  intro key
  change (Ports.empty.value key).isSome ↔ key ∈ (reader.read "").flatMap JsonCard.keys
  rw [reader.read_empty, Ports.value_empty]
  simp

/-- Every update makes the ports follow the cards. -/
theorem Follows.setCardsInfo {reader : CardsReader} {s : SoundModel} (hs : s.Follows reader)
    (order : HashOrder SoundCardPort) (info : String) :
    (s.setCardsInfo reader order info).1.Follows reader := by
  unfold SoundModel.setCardsInfo
  split_ifs
  · exact isSome_value_analysis order s.ports (reader.read info)
  · exact hs

theorem cardsInfo_setCardsInfo (reader : CardsReader) (order : HashOrder SoundCardPort)
    (s : SoundModel) (info : String) : (s.setCardsInfo reader order info).1.cardsInfo = info := by
  unfold setCardsInfo
  split_ifs with hnew
  · rfl
  · exact not_not.mp hnew

/-- To activate a port adds none and removes none. -/
theorem Follows.setActivePort {reader : CardsReader} {s : SoundModel} (hs : s.Follows reader)
    (cardId : UInt32) (portName : String) : (s.setActivePort cardId portName).Follows reader := by
  intro key
  change ((s.ports.activate _).value key).isSome ↔ _
  rw [Ports.value_activate, Option.isSome_map]
  exact hs key

end SoundModel

end DdeTrayLoader.Sound
