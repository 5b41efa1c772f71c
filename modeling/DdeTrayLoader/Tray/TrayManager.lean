import DdeTrayLoader.Tray.TraySystem
import Mathlib.Data.Finset.Insert
import Mathlib.Data.List.Chain

/-!
# TrayManager1

The manager keeps an icon for every registered window and tells its clients about changes by
signals only. Clients that replay the signals know the list `trayIcons` answers, and the
signal of a changed icon comes exactly when the image of an icon whose notification is
enabled is captured anew and differs from the last one stored.

What the X server answers to a capture is part of the operation; `none` is a capture that
fails.
-/

namespace DdeTrayLoader.Tray

open Transition

/-- The bytes of a captured image. -/
abbrev Image : Type := List UInt8

/-- The signals of `TrayManager1`. -/
inductive Signal where
  | added (id : Window)
  | removed (id : Window)
  | changed (id : Window)
  | inited
  deriving DecidableEq, Repr

/-- The members of `TrayManager1`. -/
structure TrayManager1 where
  icons : QHash Window IconState
  inited : Bool

/-- The calls of the methods that change the manager. -/
inductive ManagerCall where
  | registerIcon (win : Window) (captured : Option Image)
  | unregisterIcon (win : Window)
  | enableNotification (win : Window) (enabled : Bool)
  | notifyIconChanged (win : Window) (captured : Option Image)
  | notifyInited

namespace TrayManager1

/-- No icons yet. -/
def initial : TrayManager1 := ⟨∅, false⟩

/-- `registerIcon`. A failed capture leaves the data empty. -/
def registerIcon (m : TrayManager1) (win : Window) (captured : Option Image) :
    TrayManager1 × List Signal :=
  if win ∈ m.icons then (m, [])
  else
    ({ m with icons := m.icons.insert win { pixmapData := captured.getD [] } }, [.added win])

/-- `unregisterIcon`. -/
def unregisterIcon (m : TrayManager1) (win : Window) : TrayManager1 × List Signal :=
  if win ∉ m.icons then (m, [])
  else ({ m with icons := m.icons.erase win }, [.removed win])

/-- `notifyIconChanged`. -/
def notifyIconChanged (m : TrayManager1) (win : Window) (captured : Option Image) :
    TrayManager1 × List Signal :=
  match m.icons.lookup win with
  | none => (m, [])
  | some icon =>
    if !icon.enableNotify then (m, [])
    else
      match captured with
      | none => (m, [])
      | some newPixmapData =>
        if icon.pixmapData = newPixmapData then (m, [])
        else
          ({ m with icons := m.icons.insert win { icon with pixmapData := newPixmapData } },
            [.changed win])

/-- `trayIcons`, in the order in which the hash is stored. -/
def trayIcons (m : TrayManager1) : List Window := m.icons.keys

/-- `haveIcon`. -/
def haveIcon (m : TrayManager1) (win : Window) : Bool := decide (win ∈ m.icons)

/-- `notifyInited`. -/
def notifyInited (m : TrayManager1) : TrayManager1 × List Signal :=
  if m.inited then (m, []) else ({ m with inited := true }, [.inited])

/-- `EnableNotification`. -/
def enableNotification (m : TrayManager1) (win : Window) (enabled : Bool) :
    TrayManager1 × List Signal :=
  match m.icons.lookup win with
  | none => (m, [])
  | some icon =>
    ({ m with icons := m.icons.insert win { icon with enableNotify := enabled } }, [])

/-- A call, with the signals it emits. -/
def handle (m : TrayManager1) : ManagerCall → TrayManager1 × List Signal
  | .registerIcon win captured => m.registerIcon win captured
  | .unregisterIcon win => m.unregisterIcon win
  | .enableNotification win enabled => m.enableNotification win enabled
  | .notifyIconChanged win captured => m.notifyIconChanged win captured
  | .notifyInited => m.notifyInited

@[simp] theorem mem_trayIcons {m : TrayManager1} {win : Window} :
    win ∈ m.trayIcons ↔ win ∈ m.icons := Iff.rfl

@[simp] theorem haveIcon_iff {m : TrayManager1} {win : Window} :
    m.haveIcon win = true ↔ win ∈ m.icons := decide_eq_true_iff

/-- An icon with a state is registered. -/
theorem mem_of_lookup {m : TrayManager1} {win : Window} {icon : IconState}
    (hicon : m.icons.lookup win = some icon) : win ∈ m.icons :=
  AList.lookup_isSome.mp (by rw [hicon]; rfl)

/-- `notifyIconChanged` registers and unregisters nothing. -/
theorem mem_icons_notifyIconChanged {m : TrayManager1} {win win' : Window}
    {captured : Option Image} :
    win' ∈ (m.notifyIconChanged win captured).1.icons ↔ win' ∈ m.icons := by
  unfold notifyIconChanged
  split
  · exact Iff.rfl
  · rename_i icon hicon
    have hmem := mem_of_lookup hicon
    split_ifs
    · exact Iff.rfl
    · split
      · exact Iff.rfl
      · split_ifs
        · exact Iff.rfl
        · by_cases hwin : win' = win <;> simp [hwin, hmem]

/-- `EnableNotification` registers and unregisters nothing. -/
theorem mem_icons_enableNotification {m : TrayManager1} {win win' : Window} {enabled : Bool} :
    win' ∈ (m.enableNotification win enabled).1.icons ↔ win' ∈ m.icons := by
  unfold enableNotification
  split
  · exact Iff.rfl
  · rename_i icon hicon
    have hmem := mem_of_lookup hicon
    by_cases hwin : win' = win <;> simp [hwin, hmem]

/-- `notifyInited` registers and unregisters nothing. -/
theorem mem_icons_notifyInited {m : TrayManager1} {win : Window} :
    win ∈ m.notifyInited.1.icons ↔ win ∈ m.icons := by
  unfold notifyInited
  split <;> exact Iff.rfl

/-- What a call may do: nothing, or one change with its signal. -/
theorem handle_cases (m : TrayManager1) (call : ManagerCall) :
    (m.handle call = (m, []) ∧
      ∀ win enabled, call = .enableNotification win enabled → m.icons.lookup win = none) ∨
    (∃ win captured, call = .registerIcon win captured ∧ win ∉ m.icons ∧ m.handle call =
      ({ m with icons := m.icons.insert win { pixmapData := captured.getD [] } },
        [.added win])) ∨
    (∃ win, call = .unregisterIcon win ∧ win ∈ m.icons ∧
      m.handle call = ({ m with icons := m.icons.erase win }, [.removed win])) ∨
    (∃ win enabled icon, call = .enableNotification win enabled ∧
      m.icons.lookup win = some icon ∧ m.handle call =
        ({ m with icons := m.icons.insert win { icon with enableNotify := enabled } }, [])) ∨
    (∃ win image icon, call = .notifyIconChanged win (some image) ∧
      m.icons.lookup win = some icon ∧ icon.enableNotify = true ∧ icon.pixmapData ≠ image ∧
      m.handle call = ({ m with icons := m.icons.insert win { icon with pixmapData := image } },
        [.changed win])) ∨
    (call = .notifyInited ∧ m.handle call = ({ m with inited := true }, [.inited])) := by
  cases call with
  | registerIcon win captured =>
    by_cases hmem : win ∈ m.icons
    · exact .inl ⟨if_pos hmem, by simp⟩
    · exact .inr (.inl ⟨win, captured, rfl, hmem, if_neg hmem⟩)
  | unregisterIcon win =>
    by_cases hmem : win ∈ m.icons
    · exact .inr (.inr (.inl ⟨win, rfl, hmem, if_neg (not_not.mpr hmem)⟩))
    · exact .inl ⟨if_pos hmem, by simp⟩
  | enableNotification win enabled =>
    cases hicon : m.icons.lookup win with
    | none => exact .inl ⟨by simp [handle, enableNotification, hicon], by simp [hicon]⟩
    | some icon =>
      exact .inr (.inr (.inr (.inl ⟨win, enabled, icon, rfl, hicon, by
        simp [handle, enableNotification, hicon]⟩)))
  | notifyIconChanged win captured =>
    cases hicon : m.icons.lookup win with
    | none => exact .inl ⟨by simp [handle, notifyIconChanged, hicon], by simp⟩
    | some icon =>
      by_cases henabled : icon.enableNotify = true
      · cases captured with
        | none => exact .inl ⟨by simp [handle, notifyIconChanged, hicon], by simp⟩
        | some image =>
          by_cases hsame : icon.pixmapData = image
          · exact .inl ⟨by simp [handle, notifyIconChanged, hicon, hsame], by simp⟩
          · exact .inr (.inr (.inr (.inr (.inl ⟨win, image, icon, rfl, hicon, henabled, hsame, by
              simp [handle, notifyIconChanged, hicon, henabled, hsame]⟩))))
      · exact .inl ⟨by simp [handle, notifyIconChanged, hicon, henabled], by simp⟩
  | notifyInited =>
    by_cases hinited : m.inited = true
    · exact .inl ⟨if_pos hinited, by simp⟩
    · exact .inr (.inr (.inr (.inr (.inr ⟨rfl, if_neg hinited⟩))))

/-- The manager with the calls it has had and the signals each emitted, oldest first. -/
structure Log where
  manager : TrayManager1
  history : List (ManagerCall × List Signal)

namespace Log

/-- A call is handled and logged. -/
def step (log : Log) (call : ManagerCall) : Log where
  manager := (log.manager.handle call).1
  history := log.history ++ [(call, (log.manager.handle call).2)]

/-- A manager that has had no calls. -/
def initial : Log := ⟨.initial, []⟩

/-- All signals emitted so far. -/
def signals (log : Log) : List Signal := log.history.flatMap Prod.snd

@[simp] theorem signals_step (log : Log) (call : ManagerCall) :
    (log.step call).signals = log.signals ++ (log.manager.handle call).2 := by
  simp [step, signals]

end Log

/-- What a client that listens to the signals knows about the list of icons. -/
def replaySignal (known : Finset Window) : Signal → Finset Window
  | .added id => insert id known
  | .removed id => known.erase id
  | .changed _ => known
  | .inited => known

/-- The signals folded over the empty set. -/
def replay (signals : List Signal) : Finset Window := signals.foldl replaySignal ∅

/-- Whether a signal says that the window came or went. -/
def membership (win : Window) : Signal → Option Bool
  | .added id => if id = win then some true else none
  | .removed id => if id = win then some false else none
  | .changed _ => none
  | .inited => none

/-- The window comes and goes in turn, and comes first. -/
def Alternates (win : Window) (signals : List Signal) : Prop :=
  (false :: signals.filterMap (membership win)).IsChain (· ≠ ·)

/-- What an observer of the calls and their signals knows about the icon of a window: its
image is the one captured at its last `Added` or at a `Changed` since, and its notification
is what `EnableNotification` set last since it was added. -/
def observeCall (win : Window) (known : Option IconState) (entry : ManagerCall × List Signal) :
    Option IconState :=
  if .removed win ∈ entry.2 then none
  else
    match entry.1 with
    | .registerIcon _ captured =>
      if .added win ∈ entry.2 then some { pixmapData := captured.getD [] } else known
    | .unregisterIcon _ => known
    | .enableNotification win' enabled =>
      if win' = win then known.map fun icon => { icon with enableNotify := enabled } else known
    | .notifyIconChanged _ captured =>
      if .changed win ∈ entry.2 then
        known.map fun icon => { icon with pixmapData := captured.getD [] }
      else known
    | .notifyInited => known

/-- What the observer knows after a history that starts without icons. -/
def observe (win : Window) (history : List (ManagerCall × List Signal)) : Option IconState :=
  history.foldl (observeCall win) none

/-- A list alternates further when it is extended by the opposite of its last entry. -/
theorem isChain_ne_concat {l : List Bool} {last next : Bool} (hchain : l.IsChain (· ≠ ·))
    (hlast : l.getLast? = some last) (hne : last ≠ next) : (l ++ [next]).IsChain (· ≠ ·) := by
  apply hchain.append (List.isChain_singleton next)
  intro x hx y hy
  rw [hlast] at hx
  cases hx
  cases hy
  exact hne

/-- What the history of a manager says about it. -/
structure Log.Replays (log : Log) : Prop where
  listed : ∀ win, win ∈ replay log.signals ↔ win ∈ log.manager.icons
  alternates : ∀ win, Alternates win log.signals
  last : ∀ win, (false :: log.signals.filterMap (membership win)).getLast? =
    some (decide (win ∈ log.manager.icons))
  observed : ∀ win, observe win log.history = log.manager.icons.lookup win

/-- What an observer knows about an icon stays right over a call. -/
theorem observeCall_handle (m : TrayManager1) (call : ManagerCall) (win : Window) :
    observeCall win (m.icons.lookup win) (call, (m.handle call).2) =
      (m.handle call).1.icons.lookup win := by
  obtain ⟨hsame, hunknown⟩ | ⟨win', captured, rfl, -, heq⟩ | ⟨win', rfl, -, heq⟩ |
    ⟨win', enabled, icon, rfl, hicon, heq⟩ | ⟨win', image, icon, rfl, hicon, -, -, heq⟩ |
    ⟨rfl, heq⟩ :=
      m.handle_cases call
  · rw [hsame]
    cases call with
    | enableNotification win' enabled =>
      by_cases hwin : win' = win
      · subst hwin
        simp [observeCall, hunknown win' enabled rfl]
      · simp [observeCall, hwin]
    | _ => simp [observeCall]
  · rw [heq]
    by_cases hwin : win = win'
    · subst hwin
      simp [observeCall]
    · simp [observeCall, hwin]
  · rw [heq]
    by_cases hwin : win = win'
    · subst hwin
      simp [observeCall]
    · simp [observeCall, hwin]
  · rw [heq]
    by_cases hwin : win = win'
    · subst hwin
      simp [observeCall, hicon]
    · simp [observeCall, hwin, Ne.symm hwin]
  · rw [heq]
    by_cases hwin : win = win'
    · subst hwin
      simp [observeCall, hicon]
    · simp [observeCall, hwin]
  · rw [heq]
    simp [observeCall]

/-- The observer of a history learns from one more call what it did to the icon. -/
theorem Log.Replays.observed_step {log : Log} (h : log.Replays) (call : ManagerCall)
    (win : Window) :
    observe win (log.step call).history = (log.step call).manager.icons.lookup win := by
  unfold observe Log.step
  rw [List.foldl_append, List.foldl_cons, List.foldl_nil]
  exact (congrArg (observeCall win · _) (h.observed win)).trans
    (observeCall_handle log.manager call win)

/-- A call that leaves the set of icons alone emits no `Added` and no `Removed`. -/
theorem Log.Replays.keepListed {log : Log} (h : log.Replays) {call : ManagerCall}
    (hicons : ∀ win, win ∈ (log.manager.handle call).1.icons ↔ win ∈ log.manager.icons)
    (hsilent : ∀ win, (log.manager.handle call).2.filterMap (membership win) = [])
    (hreplay : ∀ known, (log.manager.handle call).2.foldl replaySignal known = known) :
    (log.step call).Replays where
  listed win := by
    rw [signals_step, replay, List.foldl_append, hreplay]
    exact (h.listed win).trans (hicons win).symm
  alternates win := by
    unfold Alternates
    rw [signals_step, List.filterMap_append, hsilent, List.append_nil]
    exact h.alternates win
  last win := by
    rw [signals_step, List.filterMap_append, hsilent, List.append_nil, h.last]
    exact congrArg some (decide_eq_decide.mpr (hicons win).symm)
  observed := h.observed_step call

/-- The signal that says that the window comes, or goes. -/
def comesOrGoes (win : Window) (comes : Bool) : Signal :=
  if comes then .added win else .removed win

theorem membership_comesOrGoes (win win' : Window) (comes : Bool) :
    membership win' (comesOrGoes win comes) = if win' = win then some comes else none := by
  cases comes <;> simp [comesOrGoes, membership, eq_comm]

theorem mem_replaySignal_comesOrGoes (known : Finset Window) (win win' : Window) (comes : Bool) :
    win' ∈ replaySignal known (comesOrGoes win comes) ↔
      if win' = win then comes = true else win' ∈ known := by
  by_cases hwin : win' = win
  · cases comes <;> simp [comesOrGoes, replaySignal, hwin]
  · cases comes <;> simp [comesOrGoes, replaySignal, hwin]

/-- A call that makes one window come or go says so in its only signal. -/
theorem Log.Replays.switch {log : Log} (h : log.Replays) {call : ManagerCall} (win : Window)
    (comes : Bool) (hsignal : (log.manager.handle call).2 = [comesOrGoes win comes])
    (hbefore : decide (win ∈ log.manager.icons) = !comes)
    (hicons : ∀ win', win' ∈ (log.manager.handle call).1.icons ↔
      if win' = win then comes = true else win' ∈ log.manager.icons) :
    (log.step call).Replays where
  listed win' := by
    rw [signals_step, hsignal, replay, List.foldl_append, List.foldl_cons, List.foldl_nil,
      mem_replaySignal_comesOrGoes]
    refine Iff.trans ?_ (hicons win').symm
    split_ifs
    · exact Iff.rfl
    · exact h.listed win'
  alternates win' := by
    unfold Alternates
    rw [signals_step, hsignal, List.filterMap_append, List.filterMap_cons,
      membership_comesOrGoes]
    by_cases hwin : win' = win
    · subst hwin
      have hlast := h.last win'
      rw [hbefore] at hlast
      simpa using isChain_ne_concat (h.alternates win') hlast (by simp)
    · simpa [hwin] using show (_ : List Bool).IsChain _ from h.alternates win'
  last win' := by
    change _ = some (decide (win' ∈ (log.manager.handle call).1.icons))
    rw [signals_step, hsignal, List.filterMap_append, List.filterMap_cons,
      membership_comesOrGoes]
    by_cases hwin : win' = win
    · subst hwin
      rw [if_pos rfl]
      change (false :: log.signals.filterMap (membership win') ++ [comes]).getLast? = _
      rw [List.getLast?_concat]
      simp [hicons win']
    · simpa [hwin, hicons win'] using h.last win'
  observed := h.observed_step call

/-- Every call keeps the history and the manager in agreement. -/
theorem Log.Replays.step {log : Log} (h : log.Replays) (call : ManagerCall) :
    (log.step call).Replays := by
  obtain ⟨hsame, -⟩ | ⟨win, captured, rfl, hnot, heq⟩ | ⟨win, rfl, hmem, heq⟩ |
    ⟨win, enabled, icon, rfl, hicon, heq⟩ | ⟨win, image, icon, rfl, hicon, -, -, heq⟩ |
    ⟨rfl, heq⟩ :=
      log.manager.handle_cases call
  · apply h.keepListed <;> rw [hsame] <;> simp
  · apply h.switch win true (by rw [heq]; rfl)
    · simp [hnot]
    · intro win'
      rw [heq]
      by_cases hwin : win' = win <;> simp [hwin]
  · apply h.switch win false (by rw [heq]; rfl)
    · simp [hmem]
    · intro win'
      rw [heq]
      by_cases hwin : win' = win <;> simp [hwin]
  · have hmem := mem_of_lookup hicon
    apply h.keepListed <;> rw [heq]
    · intro win'
      by_cases hwin : win' = win <;> simp [hwin, hmem]
    · simp
    · simp
  · have hmem := mem_of_lookup hicon
    apply h.keepListed <;> rw [heq]
    · intro win'
      by_cases hwin : win' = win <;> simp [hwin, hmem]
    · simp [membership]
    · simp [replaySignal]
  · apply h.keepListed <;> rw [heq]
    · simp
    · simp [membership]
    · simp [replaySignal]

/-- A manager that has had no calls agrees with its history. -/
theorem Log.replays_initial : Log.initial.Replays where
  listed win := by simp [Log.initial, Log.signals, replay, TrayManager1.initial]
  alternates win := List.isChain_singleton false
  last win := by simp [Log.initial, Log.signals, TrayManager1.initial]
  observed win := rfl

/-- After any calls the manager agrees with its history. -/
theorem Log.replays (calls : List ManagerCall) : (run Log.step Log.initial calls).Replays :=
  run_invariant (I := Log.Replays) (fun _ call h => h.step call) calls Log.replays_initial

/-- `Changed` is emitted by a capture of an icon whose notification is enabled, when its image
differs from the one stored. -/
theorem changed_mem_handle {m : TrayManager1} {call : ManagerCall} {win : Window} :
    .changed win ∈ (m.handle call).2 ↔ ∃ image icon, call = .notifyIconChanged win (some image) ∧
      m.icons.lookup win = some icon ∧ icon.enableNotify = true ∧ image ≠ icon.pixmapData := by
  constructor
  · intro hchanged
    obtain ⟨hsame, -⟩ | ⟨win', captured, -, -, heq⟩ | ⟨win', -, -, heq⟩ |
      ⟨win', enabled, icon, -, -, heq⟩ |
      ⟨win', image, icon, hcall, hicon, henabled, hne, heq⟩ | ⟨-, heq⟩ := m.handle_cases call
    · simp [hsame] at hchanged
    · simp [heq] at hchanged
    · simp [heq] at hchanged
    · simp [heq] at hchanged
    · obtain rfl : win = win' := by simpa [heq] using hchanged
      exact ⟨image, icon, hcall, hicon, henabled, hne.symm⟩
    · simp [heq] at hchanged
  · intro hcapture
    obtain ⟨image, icon, rfl, hicon, henabled, hne⟩ := hcapture
    simp [handle, notifyIconChanged, hicon, henabled, hne.symm]

/-- The signals of any calls refine the list of icons: replayed over the empty set they give
`trayIcons`, each window comes and goes in turn, and the next call emits `Changed` exactly
when it captures an image of a registered window whose notification is enabled and the image
differs from the one that the calls and signals so far say was stored last. -/
theorem signals_refine_trayIcons (calls : List ManagerCall) :
    let log := run Log.step Log.initial calls
    (log.manager.trayIcons.Nodup ∧ log.manager.trayIcons.toFinset = replay log.signals) ∧
    (∀ win, Alternates win log.signals) ∧
    ∀ call win, .changed win ∈ (log.manager.handle call).2 ↔
      win ∈ replay log.signals ∧ ∃ image icon, call = .notifyIconChanged win (some image) ∧
        observe win log.history = some icon ∧ icon.enableNotify = true ∧
        image ≠ icon.pixmapData := by
  intro log
  have hreplays : log.Replays := Log.replays calls
  refine ⟨⟨log.manager.icons.keys_nodup, ?_⟩, hreplays.alternates, ?_⟩
  · ext win
    rw [List.mem_toFinset, hreplays.listed]
    exact mem_trayIcons
  · intro call win
    rw [changed_mem_handle, hreplays.observed, hreplays.listed]
    constructor
    · intro hcapture
      obtain ⟨image, icon, hcall, hicon, hrest⟩ := hcapture
      exact ⟨mem_of_lookup hicon, image, icon, hcall, hicon, hrest⟩
    · exact And.right

end TrayManager1

/-- The icons of the tray, and how many signals of its TrayManager1 are in flight, change by
`registerIcon` as the manager does. -/
theorem TraySystem.registerIcon_manager (session : Session) (t : TraySystem) (inited : Bool)
    {win : Window} (hforeign : session.ownId win = false) (image : Image) :
    (t.registerIcon session win image).icons =
        ((⟨t.icons, inited⟩ : TrayManager1).registerIcon win (some image)).1.icons ∧
      (t.registerIcon session win image).signals =
        t.signals +
          ((⟨t.icons, inited⟩ : TrayManager1).registerIcon win (some image)).2.length := by
  by_cases hmem : win ∈ t.icons <;>
    simp [TraySystem.registerIcon, TrayManager1.registerIcon, hforeign, hmem]

/-- So they do by `unregisterIcon`. -/
theorem TraySystem.unregisterIcon_manager (t : TraySystem) (inited : Bool) (win : Window) :
    (t.unregisterIcon win).icons =
        ((⟨t.icons, inited⟩ : TrayManager1).unregisterIcon win).1.icons ∧
      (t.unregisterIcon win).signals =
        t.signals + ((⟨t.icons, inited⟩ : TrayManager1).unregisterIcon win).2.length := by
  by_cases hmem : win ∈ t.icons <;>
    simp [TraySystem.unregisterIcon, TrayManager1.unregisterIcon, hmem]

end DdeTrayLoader.Tray
