import DdeTrayLoader.Tray.TrayManager

/-!
# Docking

`FdoSelectionManager` owns the system tray selection. For every window that asks to be docked
it keeps a damage object of the X server, which reports when the window has drawn, next to
the icon that TrayManager1 keeps of it. The two stay in step through docking, repeated
docking, undocking, destruction and every failure on the way, and every damage object that
is ever created is destroyed once or still watches its window.

The replies of the X server are part of the event. The ids of damage objects come from
`xcb_generate_id`, which never returns one twice nor `XCB_NONE`.
-/

namespace DdeTrayLoader.Tray

open Transition

/-- The ids an X11 connection generates for damage objects. -/
structure XConnection where
  generateId : ℕ → ℕ
  fresh : Function.Injective generateId
  ne_none : ∀ n, generateId n ≠ 0

/-- The requests about damage objects. -/
inductive DamageRequest where
  | create (damage : ℕ) (drawable : Window)
  | subtract (damage : ℕ)
  | destroy (damage : ℕ)
  deriving DecidableEq, Repr

/-- The error code of `BadWindow`. -/
def XCB_WINDOW : ℕ := 3

/-- What the X server answers during a dock request: which windows are valid, the errors of
`xcb_get_window_attributes` and `xcb_change_window_attributes`, and the image of the icon. -/
structure DockReplies where
  isValidX11Window : Window → Bool
  getAttrError : Option ℕ
  changeAttrError : Option ℕ
  captured : Option Image

/-- The members of `FdoSelectionManager` after `initTrayManager`, with the calls its manager
has had. `generated` and `requests` are bookkeeping: how many ids were generated, and the
requests about damage objects, oldest first. -/
structure FdoSelectionManager where
  trayManager : TrayManager1.Log
  damageWatches : QHash Window ℕ
  generated : ℕ
  requests : List DamageRequest

/-- What the selection manager is told, by the X server, by the selection owner and by
clients of TrayManager1 on the bus. -/
inductive DockEvent where
  | requestDock (winId : Window) (order : HashOrder Window) (replies : DockReplies)
  | undock (winId : Window)
  | destroyNotify (window : Window)
  | damageNotify (drawable : Window) (captured : Option Image)
  | enableNotification (win : Window) (enabled : Bool)
  | claimedOwnership
  | failedToClaimOwnership
  | lostOwnership

namespace FdoSelectionManager

variable (connection : XConnection)

/-- A manager that has just been created. -/
def initial : FdoSelectionManager := ⟨.initial, ∅, 0, []⟩

/-- Call the tray manager. -/
def call (m : FdoSelectionManager) (call : ManagerCall) : FdoSelectionManager :=
  { m with trayManager := m.trayManager.step call }

/-- Send a request. -/
def send (m : FdoSelectionManager) (request : DamageRequest) : FdoSelectionManager :=
  { m with requests := m.requests ++ [request] }

/-- `m_damageWatches.value(window)`. -/
def damageWatch (m : FdoSelectionManager) (window : Window) : ℕ :=
  (m.damageWatches.lookup window).getD 0

/-- `undock`. -/
def undock (m : FdoSelectionManager) (winId : Window) : FdoSelectionManager :=
  if !m.trayManager.manager.haveIcon winId then m
  else
    let m := m.call (.unregisterIcon winId)
    let damageId := m.damageWatch winId
    let m := { m with damageWatches := m.damageWatches.erase winId }
    if damageId ≠ 0 then m.send (.destroy damageId) else m

/-- Undock a window that is gone. -/
def undockInvalid (isValidX11Window : Window → Bool) (m : FdoSelectionManager) (window : Window) :
    FdoSelectionManager :=
  if !isValidX11Window window then m.undock window else m

/-- `checkValid`, which lists the icons in this order. -/
def checkValid (m : FdoSelectionManager) (order : HashOrder Window)
    (isValidX11Window : Window → Bool) : FdoSelectionManager :=
  run (undockInvalid isValidX11Window) m (order.list m.trayManager.manager.trayIcons)

/-- `addDamageWatch`, with its result. -/
def addDamageWatch (m : FdoSelectionManager) (client : Window) (replies : DockReplies) :
    FdoSelectionManager × Bool :=
  let damageId := connection.generateId m.generated
  let m := { m with generated := m.generated + 1 }.send (.create damageId client)
  -- the window is already gone
  if replies.getAttrError = some XCB_WINDOW then (m.send (.destroy damageId), false)
  else if replies.changeAttrError = some XCB_WINDOW then (m.send (.destroy damageId), false)
  else ({ m with damageWatches := m.damageWatches.insert client damageId }, true)

/-- `dock`. -/
def dock (m : FdoSelectionManager) (winId : Window) (order : HashOrder Window)
    (replies : DockReplies) : FdoSelectionManager :=
  let m := m.checkValid order replies.isValidX11Window
  if m.trayManager.manager.haveIcon winId then m
  else
    match m.addDamageWatch connection winId replies with
    | (m, true) => m.call (.registerIcon winId replies.captured)
    | (m, false) => m

/-- `nativeEventFilter` on `XCB_DAMAGE_NOTIFY`. -/
def damageNotify (m : FdoSelectionManager) (drawable : Window) (captured : Option Image) :
    FdoSelectionManager :=
  let damageId := m.damageWatch drawable
  let m := if damageId ≠ 0 then m.send (.subtract damageId) else m
  m.call (.notifyIconChanged drawable captured)

/-- `onClaimedOwnership`, once the tray manager exists. -/
def onClaimedOwnership (m : FdoSelectionManager) : FdoSelectionManager := m.call .notifyInited

def step (m : FdoSelectionManager) : DockEvent → FdoSelectionManager
  | .requestDock winId order replies => m.dock connection winId order replies
  | .undock winId => m.undock winId
  | .destroyNotify window =>
    if m.trayManager.manager.haveIcon window then m.undock window else m
  | .damageNotify drawable captured => m.damageNotify drawable captured
  | .enableNotification win enabled => m.call (.enableNotification win enabled)
  | .claimedOwnership => m.onClaimedOwnership
  -- both only write to the log
  | .failedToClaimOwnership => m
  | .lostOwnership => m

/-- The damage object was created at some time. -/
def Created (m : FdoSelectionManager) (damage : ℕ) : Prop :=
  ∃ drawable, .create damage drawable ∈ m.requests

/-- The damage object is the watch of the window. -/
def Watches (m : FdoSelectionManager) (damage : ℕ) (window : Window) : Prop :=
  m.damageWatches.lookup window = some damage

/-- How often the damage object was destroyed. -/
def destructions (m : FdoSelectionManager) (damage : ℕ) : ℕ := m.requests.count (.destroy damage)

/-- An object is created by a request that creates it. -/
theorem created_send {m : FdoSelectionManager} {request : DamageRequest} {damage : ℕ} :
    (m.send request).Created damage ↔
      m.Created damage ∨ ∃ drawable, request = .create damage drawable := by
  simp [Created, send, exists_or, eq_comm]

/-- An object is destroyed by a request that destroys it. -/
theorem destructions_send {m : FdoSelectionManager} {request : DamageRequest} {damage : ℕ} :
    (m.send request).destructions damage =
      m.destructions damage + if request = .destroy damage then 1 else 0 := by
  simp [destructions, send, List.count_cons]

/-- The icons of the tray manager, the watches and the damage objects are in step. -/
structure Ledger (m : FdoSelectionManager) : Prop where
  docked : ∀ win, win ∈ m.damageWatches ↔ win ∈ m.trayManager.manager.icons
  generated : ∀ damage, m.Created damage ↔
    ∃ n < m.generated, connection.generateId n = damage
  created : ∀ {damage win}, m.Watches damage win → m.Created damage
  injective : ∀ {damage win win'}, m.Watches damage win → m.Watches damage win' → win = win'
  watching : ∀ {damage win}, m.Watches damage win → m.destructions damage = 0
  spent : ∀ damage, m.Created damage → (∀ win, ¬m.Watches damage win) →
    m.destructions damage = 1
  untouched : ∀ damage, ¬m.Created damage → m.destructions damage = 0

variable {connection}

/-- A docked window has a watch, which is not `XCB_NONE`. -/
theorem Ledger.exists_watch {m : FdoSelectionManager} (h : m.Ledger connection) {win : Window}
    (hdocked : win ∈ m.trayManager.manager.icons) :
    ∃ damage, m.Watches damage win ∧ m.damageWatch win = damage ∧ damage ≠ 0 := by
  obtain ⟨damage, hwatch⟩ := Option.isSome_iff_exists.mp
    (AList.lookup_isSome.mpr ((h.docked win).mpr hdocked))
  obtain ⟨n, -, hn⟩ := (h.generated damage).mp (h.created hwatch)
  refine ⟨damage, hwatch, ?_, ?_⟩
  · rw [damageWatch, hwatch]
    rfl
  · rw [← hn]
    exact connection.ne_none n

/-- The next id is not that of an object created before. -/
theorem Ledger.not_created_next {m : FdoSelectionManager} (h : m.Ledger connection) :
    ¬m.Created (connection.generateId m.generated) := by
  intro hcreated
  obtain ⟨n, hlt, hn⟩ := (h.generated _).mp hcreated
  exact absurd (connection.fresh hn) (Nat.ne_of_lt hlt)

/-- A step that changes no watch, and neither creates nor destroys a damage object. -/
theorem Ledger.keep {m m' : FdoSelectionManager} (h : m.Ledger connection)
    (hicons : ∀ win, win ∈ m'.trayManager.manager.icons ↔ win ∈ m.trayManager.manager.icons)
    (hwatches : m'.damageWatches = m.damageWatches) (hgenerated : m'.generated = m.generated)
    (hcreated : ∀ damage, m'.Created damage ↔ m.Created damage)
    (hdestructions : ∀ damage, m'.destructions damage = m.destructions damage) :
    m'.Ledger connection where
  docked win := by rw [hwatches, hicons, h.docked]
  generated damage := by rw [hcreated, hgenerated, h.generated]
  created hwatch := (hcreated _).mpr (h.created (by rwa [Watches, hwatches] at hwatch))
  injective hwatch hwatch' := by
    rw [Watches, hwatches] at hwatch hwatch'
    exact h.injective hwatch hwatch'
  watching hwatch := by
    rw [Watches, hwatches] at hwatch
    rw [hdestructions]
    exact h.watching hwatch
  spent damage hcreated' hfree := by
    rw [hdestructions]
    apply h.spent damage ((hcreated damage).mp hcreated')
    intro win hwatch
    exact hfree win (by rwa [Watches, hwatches])
  untouched damage hnot := by
    rw [hdestructions]
    exact h.untouched damage fun hcreated' => hnot ((hcreated damage).mpr hcreated')

/-- A call of the tray manager that registers and unregisters nothing. -/
theorem Ledger.call {m : FdoSelectionManager} (h : m.Ledger connection) {call : ManagerCall}
    (hicons : ∀ win, win ∈ (m.trayManager.manager.handle call).1.icons ↔
      win ∈ m.trayManager.manager.icons) : (m.call call).Ledger connection :=
  h.keep hicons rfl rfl (fun _ => Iff.rfl) fun _ => rfl

/-- A request that subtracts damage. -/
theorem Ledger.subtract {m : FdoSelectionManager} (h : m.Ledger connection) (damage : ℕ) :
    (m.send (.subtract damage)).Ledger connection := by
  refine h.keep (fun _ => Iff.rfl) rfl rfl ?_ ?_
  · intro damage'
    simp [created_send]
  · intro damage'
    simp [destructions_send]

/-- A step that unregisters a docked window and destroys its damage object. -/
theorem Ledger.release {m m' : FdoSelectionManager} (h : m.Ledger connection) {winId : Window}
    {damage : ℕ} (hwatch : m.Watches damage winId)
    (hicons : ∀ win, win ∈ m'.trayManager.manager.icons ↔
      win ≠ winId ∧ win ∈ m.trayManager.manager.icons)
    (hdocked : ∀ win, win ∈ m'.damageWatches ↔ win ≠ winId ∧ win ∈ m.damageWatches)
    (hwatches : ∀ damage' win, m'.Watches damage' win ↔ win ≠ winId ∧ m.Watches damage' win)
    (hgenerated : m'.generated = m.generated)
    (hcreated : ∀ damage', m'.Created damage' ↔ m.Created damage')
    (hdestructions : ∀ damage', m'.destructions damage' =
      m.destructions damage' + if damage' = damage then 1 else 0) : m'.Ledger connection where
  docked win := by rw [hdocked, hicons, h.docked]
  generated damage' := by rw [hcreated, hgenerated, h.generated]
  created hold := (hcreated _).mpr (h.created ((hwatches _ _).mp hold).2)
  injective hold hold' := h.injective ((hwatches _ _).mp hold).2 ((hwatches _ _).mp hold').2
  watching {damage' win} hold := by
    obtain ⟨hne, hold⟩ := (hwatches damage' win).mp hold
    have hother : damage' ≠ damage := by
      intro hsame
      subst hsame
      exact hne (h.injective hold hwatch)
    rw [hdestructions, if_neg hother, h.watching hold]
  spent damage' hcreated' hfree := by
    rw [hdestructions]
    by_cases hsame : damage' = damage
    · rw [if_pos hsame, hsame, h.watching hwatch]
    · rw [if_neg hsame]
      apply h.spent damage' ((hcreated damage').mp hcreated')
      intro win hold
      have hne : win ≠ winId := by
        intro hwin
        subst hwin
        exact hsame (Option.some.inj (hold.symm.trans hwatch))
      exact hfree win ((hwatches damage' win).mpr ⟨hne, hold⟩)
  untouched damage' hnot := by
    have hnot' : ¬m.Created damage' := fun hold => hnot ((hcreated damage').mpr hold)
    have hother : damage' ≠ damage := by
      intro hsame
      subst hsame
      exact hnot' (h.created hwatch)
    rw [hdestructions, if_neg hother, h.untouched damage' hnot']

/-- Undocking a docked window unregisters it and destroys its watch. -/
theorem Ledger.undock_eq {m : FdoSelectionManager} (h : m.Ledger connection) {winId : Window}
    {damage : ℕ} (hdocked : winId ∈ m.trayManager.manager.icons)
    (hwatch : m.Watches damage winId) :
    m.undock winId = { m with
      trayManager := m.trayManager.step (.unregisterIcon winId)
      damageWatches := m.damageWatches.erase winId }.send (.destroy damage) := by
  obtain ⟨damage', hwatch', hvalue, hne⟩ := h.exists_watch hdocked
  obtain rfl : damage' = damage := Option.some.inj (hwatch'.symm.trans hwatch)
  have hvalue' : (m.call (.unregisterIcon winId)).damageWatch winId = damage' := hvalue
  simp only [undock, hvalue', TrayManager1.haveIcon_iff.mpr hdocked]
  rw [if_neg (by simp), if_pos hne]
  rfl

/-- `undock` keeps the books. -/
theorem Ledger.undock {m : FdoSelectionManager} (h : m.Ledger connection) (winId : Window) :
    (m.undock winId).Ledger connection := by
  by_cases hdocked : winId ∈ m.trayManager.manager.icons
  · obtain ⟨damage, hwatch, -⟩ := h.exists_watch hdocked
    rw [h.undock_eq hdocked hwatch]
    refine h.release hwatch ?_ ?_ ?_ rfl ?_ ?_
    · intro win
      simp [send, TrayManager1.Log.step, TrayManager1.handle, TrayManager1.unregisterIcon, hdocked]
    · intro win
      simp [send]
    · intro damage' win
      by_cases hwin : win = winId
      · subst hwin
        simp [Watches, send]
      · simp [Watches, send, hwin, AList.lookup_erase_ne hwin]
    · intro damage'
      rw [created_send]
      change m.Created damage' ∨ _ ↔ _
      simp
    · intro damage'
      rw [destructions_send]
      change m.destructions damage' + _ = _
      simp [eq_comm]
  · have hnot : m.trayManager.manager.haveIcon winId = false := decide_eq_false hdocked
    unfold FdoSelectionManager.undock
    rw [if_pos (by rw [hnot]; rfl)]
    exact h

/-- `checkValid` keeps the books. -/
theorem Ledger.checkValid {m : FdoSelectionManager} (h : m.Ledger connection)
    (order : HashOrder Window) (isValidX11Window : Window → Bool) :
    (m.checkValid order isValidX11Window).Ledger connection := by
  refine run_invariant (I := Ledger connection) ?_ _ h
  intro m window h
  unfold undockInvalid
  split
  · exact h.undock window
  · exact h

/-- The objects created after one more id was used. -/
theorem Ledger.generated_succ {m : FdoSelectionManager} (h : m.Ledger connection) (damage : ℕ) :
    (damage = connection.generateId m.generated ∨ m.Created damage) ↔
      ∃ n < m.generated + 1, connection.generateId n = damage := by
  rw [h.generated]
  constructor
  · intro hcase
    obtain hnew | ⟨n, hlt, hn⟩ := hcase
    · exact ⟨m.generated, Nat.lt_succ_self _, hnew.symm⟩
    · exact ⟨n, Nat.lt_succ_of_lt hlt, hn⟩
  · intro hcase
    obtain ⟨n, hlt, hn⟩ := hcase
    obtain hlt | rfl := Nat.lt_succ_iff_lt_or_eq.mp hlt
    · exact .inr ⟨n, hlt, hn⟩
    · exact .inl hn.symm

/-- A damage object that is created for a window that is gone is destroyed at once. -/
theorem Ledger.discard {m m' : FdoSelectionManager} (h : m.Ledger connection)
    (hicons : ∀ win, win ∈ m'.trayManager.manager.icons ↔ win ∈ m.trayManager.manager.icons)
    (hwatches : m'.damageWatches = m.damageWatches) (hgenerated : m'.generated = m.generated + 1)
    (hcreated : ∀ damage, m'.Created damage ↔
      damage = connection.generateId m.generated ∨ m.Created damage)
    (hdestructions : ∀ damage, m'.destructions damage =
      m.destructions damage + if damage = connection.generateId m.generated then 1 else 0) :
    m'.Ledger connection where
  docked win := by rw [hwatches, hicons, h.docked]
  generated damage := by rw [hcreated, hgenerated, h.generated_succ]
  created hold := (hcreated _).mpr (.inr (h.created (by rwa [Watches, hwatches] at hold)))
  injective hold hold' := by
    rw [Watches, hwatches] at hold hold'
    exact h.injective hold hold'
  watching {damage win} hold := by
    rw [Watches, hwatches] at hold
    have hother : damage ≠ connection.generateId m.generated := by
      intro hnew
      exact h.not_created_next (hnew ▸ h.created hold)
    rw [hdestructions, if_neg hother, h.watching hold]
  spent damage hcreated' hfree := by
    rw [hdestructions]
    by_cases hnew : damage = connection.generateId m.generated
    · rw [if_pos hnew, hnew, h.untouched _ h.not_created_next]
    · rw [if_neg hnew]
      apply h.spent damage (((hcreated damage).mp hcreated').resolve_left hnew)
      intro win hold
      exact hfree win (by rwa [Watches, hwatches])
  untouched damage hnot := by
    obtain ⟨hother, hnot'⟩ := not_or.mp (mt (hcreated damage).mpr hnot)
    rw [hdestructions, if_neg hother, h.untouched damage hnot']

/-- Who watches, once a new damage object watches the window. -/
theorem watches_insert {m m' : FdoSelectionManager} {winId win : Window} {new damage : ℕ}
    (hwatches : m'.damageWatches = m.damageWatches.insert winId new) :
    m'.Watches damage win ↔ if win = winId then damage = new else m.Watches damage win := by
  rw [Watches, hwatches]
  split_ifs with hwin
  · subst hwin
    simp [eq_comm]
  · simp [Watches, hwin]

/-- A window that is not docked is not watched. -/
theorem Ledger.not_watches {m : FdoSelectionManager} (h : m.Ledger connection) {winId : Window}
    (hnot : winId ∉ m.trayManager.manager.icons) (damage : ℕ) : ¬m.Watches damage winId :=
  fun hwatch => hnot ((h.docked winId).mp (AList.lookup_isSome.mp (by rw [hwatch]; rfl)))

/-- A damage object that is created for a window that is docked. -/
theorem Ledger.watch {m m' : FdoSelectionManager} (h : m.Ledger connection) {winId : Window}
    (hicons : ∀ win, win ∈ m'.trayManager.manager.icons ↔
      win = winId ∨ win ∈ m.trayManager.manager.icons)
    (hwatches : m'.damageWatches =
      m.damageWatches.insert winId (connection.generateId m.generated))
    (hgenerated : m'.generated = m.generated + 1)
    (hcreated : ∀ damage, m'.Created damage ↔
      damage = connection.generateId m.generated ∨ m.Created damage)
    (hnot : winId ∉ m.trayManager.manager.icons)
    (hdestructions : ∀ damage, m'.destructions damage = m.destructions damage) :
    m'.Ledger connection where
  docked win := by rw [hwatches, hicons, ← h.docked, AList.mem_insert]
  generated damage := by rw [hcreated, hgenerated, h.generated_succ]
  created {damage win} hold := by
    rw [watches_insert hwatches] at hold
    apply (hcreated damage).mpr
    split_ifs at hold
    · exact .inl hold
    · exact .inr (h.created hold)
  injective {win win' damage} hold hold' := by
    have hfresh {win : Window} : ¬m.Watches (connection.generateId m.generated) win :=
      fun hold => h.not_created_next (h.created hold)
    rw [watches_insert hwatches] at hold hold'
    split_ifs at hold hold' with hwin hwin' hwin'
    · rw [hwin, hwin']
    · exact absurd (hold ▸ hold') hfresh
    · exact absurd (hold' ▸ hold) hfresh
    · exact h.injective hold hold'
  watching {damage win} hold := by
    rw [watches_insert hwatches] at hold
    rw [hdestructions]
    split_ifs at hold
    · rw [hold, h.untouched _ h.not_created_next]
    · exact h.watching hold
  spent damage hcreated' hfree := by
    rw [hdestructions]
    obtain hnew | hold := (hcreated damage).mp hcreated'
    · exact absurd ((watches_insert hwatches).mpr (by rwa [if_pos rfl])) (hfree winId)
    · apply h.spent damage hold
      intro win hwatch
      have hwin : win ≠ winId := by
        rintro rfl
        exact h.not_watches hnot damage hwatch
      exact hfree win ((watches_insert hwatches).mpr (by rwa [if_neg hwin]))
  untouched damage hnot := by
    rw [hdestructions]
    exact h.untouched damage fun hold => hnot ((hcreated damage).mpr (.inr hold))

/-- The damage object of a window that is gone is destroyed again. -/
theorem addDamageWatch_gone {m : FdoSelectionManager} {winId : Window} {replies : DockReplies}
    (hgone : replies.getAttrError = some XCB_WINDOW ∨
      replies.changeAttrError = some XCB_WINDOW) :
    m.addDamageWatch connection winId replies =
      (({ m with generated := m.generated + 1 }.send
        (.create (connection.generateId m.generated) winId)).send
          (.destroy (connection.generateId m.generated)), false) := by
  unfold addDamageWatch
  obtain hgone | hgone := hgone <;> simp [hgone]

/-- The damage object of a window that is there watches it. -/
theorem addDamageWatch_there {m : FdoSelectionManager} {winId : Window} {replies : DockReplies}
    (hthere : ¬(replies.getAttrError = some XCB_WINDOW ∨
      replies.changeAttrError = some XCB_WINDOW)) :
    m.addDamageWatch connection winId replies =
      ({ m with
        damageWatches := m.damageWatches.insert winId (connection.generateId m.generated)
        generated := m.generated + 1 }.send
          (.create (connection.generateId m.generated) winId), true) := by
  obtain ⟨hattr, hchange⟩ := not_or.mp hthere
  simp [addDamageWatch, hattr, hchange, send]

/-- `dock` keeps the books. -/
theorem Ledger.dock {m : FdoSelectionManager} (h : m.Ledger connection) (winId : Window)
    (order : HashOrder Window) (replies : DockReplies) :
    (m.dock connection winId order replies).Ledger connection := by
  have hvalid := h.checkValid order replies.isValidX11Window
  unfold FdoSelectionManager.dock
  generalize m.checkValid order replies.isValidX11Window = m at hvalid
  by_cases hdocked : winId ∈ m.trayManager.manager.icons
  · simpa [hdocked] using hvalid
  have hnot : m.trayManager.manager.haveIcon winId = false := decide_eq_false hdocked
  by_cases hgone :
      replies.getAttrError = some XCB_WINDOW ∨ replies.changeAttrError = some XCB_WINDOW
  · simp only [hnot, addDamageWatch_gone hgone, Bool.false_eq_true, if_false]
    refine hvalid.discard (fun _ => Iff.rfl) rfl rfl ?_ ?_
    · intro damage
      rw [created_send, created_send]
      change (m.Created damage ∨ _) ∨ _ ↔ _
      simp [or_comm, eq_comm]
    · intro damage
      rw [destructions_send, destructions_send]
      change m.destructions damage + _ + _ = _
      simp [eq_comm]
  · simp only [hnot, addDamageWatch_there hgone, Bool.false_eq_true, if_false]
    refine hvalid.watch ?_ rfl rfl ?_ hdocked ?_
    · intro win
      simp [FdoSelectionManager.call, send, TrayManager1.Log.step, TrayManager1.handle,
        TrayManager1.registerIcon, hdocked]
    · intro damage
      change (FdoSelectionManager.send _ _).Created damage ↔ _
      rw [created_send]
      change m.Created damage ∨ _ ↔ _
      simp [or_comm, eq_comm]
    · intro damage
      change (FdoSelectionManager.send _ _).destructions damage = _
      rw [destructions_send]
      change m.destructions damage + _ = _
      simp

/-- Damage is subtracted and the icon's image captured anew; nothing is docked or undocked. -/
theorem Ledger.damageNotify {m : FdoSelectionManager} (h : m.Ledger connection)
    (drawable : Window) (captured : Option Image) :
    (m.damageNotify drawable captured).Ledger connection := by
  have hsend : (if m.damageWatch drawable ≠ 0 then
      m.send (.subtract (m.damageWatch drawable)) else m).Ledger connection := by
    split
    · exact h.subtract _
    · exact h
  exact hsend.call fun win => TrayManager1.mem_icons_notifyIconChanged

/-- Every event keeps the books. -/
theorem Ledger.step {m : FdoSelectionManager} (h : m.Ledger connection) (e : DockEvent) :
    (m.step connection e).Ledger connection := by
  cases e with
  | requestDock winId order replies => exact h.dock winId order replies
  | undock winId => exact h.undock winId
  | destroyNotify window =>
    change (if _ then _ else _ : FdoSelectionManager).Ledger connection
    split
    · exact h.undock window
    · exact h
  | damageNotify drawable captured => exact h.damageNotify drawable captured
  | enableNotification win enabled =>
    exact h.call fun win => TrayManager1.mem_icons_enableNotification
  | claimedOwnership => exact h.call fun win => TrayManager1.mem_icons_notifyInited
  | failedToClaimOwnership => exact h
  | lostOwnership => exact h

/-- A manager that has just been created has empty books. -/
theorem initial_ledger (connection : XConnection) : initial.Ledger connection where
  docked win := by simp [initial, TrayManager1.Log.initial, TrayManager1.initial]
  generated damage := by simp [Created, initial]
  created hold := by simp [Watches, initial] at hold
  injective hold := by simp [Watches, initial] at hold
  watching hold := by simp [Watches, initial] at hold
  spent damage hcreated := by simp [Created, initial] at hcreated
  untouched damage _ := rfl

/-- After any events the docked windows are those that are watched, by objects of their own,
and every damage object ever created either watches exactly one docked window and has not
been destroyed, or watches none and has been destroyed once. -/
theorem docking_bookkeeping (connection : XConnection) (es : List DockEvent) :
    let m := run (step connection) initial es
    (∀ win, win ∈ m.damageWatches.keys ↔ win ∈ m.trayManager.manager.trayIcons) ∧
    (∀ win win' damage, m.Watches damage win → m.Watches damage win' → win = win') ∧
    ∀ damage, m.Created damage →
      ((∃! win, m.Watches damage win) ∧ m.destructions damage = 0) ∨
      ((∀ win, ¬m.Watches damage win) ∧ m.destructions damage = 1) := by
  intro m
  have h : m.Ledger connection :=
    run_invariant (I := Ledger connection) (fun _ e h => h.step e) es (initial_ledger connection)
  refine ⟨h.docked, fun _ _ _ => h.injective, ?_⟩
  intro damage hcreated
  by_cases hwatched : ∃ win, m.Watches damage win
  · obtain ⟨win, hwatch⟩ := hwatched
    exact .inl ⟨⟨win, hwatch, fun _ hold => h.injective hold hwatch⟩, h.watching hwatch⟩
  · have hfree : ∀ win, ¬m.Watches damage win := not_exists.mp hwatched
    exact .inr ⟨hfree, h.spent damage hcreated hfree⟩

/-- A connection whose ids count up. -/
def counting : XConnection where
  generateId n := n + 1
  fresh _ _ := Nat.succ.inj
  ne_none := Nat.succ_ne_zero

/-- Of three windows that ask, the second is gone already, and the first goes later. -/
def threeWindows : List DockEvent :=
  [.requestDock 5 (.stored _) ⟨fun _ => true, none, none, some []⟩,
    .requestDock 6 (.stored _) ⟨fun _ => true, some XCB_WINDOW, none, some []⟩,
    .requestDock 7 (.stored _) ⟨fun _ => true, none, none, some []⟩, .destroyNotify 5]

theorem docking_bookkeeping_threeWindows :
    let m := run (step counting) initial threeWindows
    7 ∈ m.damageWatches.keys ∧ m.destructions 1 = 1 ∧ m.destructions 2 = 1 ∧
      m.destructions 3 = 0 := by
  intro m
  obtain ⟨hdocked, -, hledger⟩ := docking_bookkeeping counting threeWindows
  have hlast : m.damageWatches.lookup 7 = some 3 := rfl
  have hspent (damage : ℕ) (hne : damage ≠ 3) : ¬∃! win, m.Watches damage win := by
    rintro ⟨win, hwatch, -⟩
    have hmem : win ∈ m.trayManager.manager.trayIcons :=
      (hdocked win).mp (AList.lookup_isSome.mp (Option.isSome_of_eq_some hwatch))
    obtain rfl : win = 7 := List.mem_singleton.mp hmem
    exact hne (Option.some.inj (hwatch.symm.trans hlast))
  refine ⟨(hdocked 7).mpr (by decide), ?_, ?_, ?_⟩
  · exact ((hledger 1 ⟨5, by decide⟩).resolve_left fun h => hspent 1 (by decide) h.1).2
  · exact ((hledger 2 ⟨6, by decide⟩).resolve_left fun h => hspent 2 (by decide) h.1).2
  · exact ((hledger 3 ⟨7, by decide⟩).resolve_right fun h => h.1 7 hlast).2

end FdoSelectionManager

end DdeTrayLoader.Tray
