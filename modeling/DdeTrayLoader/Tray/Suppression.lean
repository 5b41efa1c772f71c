import DdeTrayLoader.Tray.Exclusion

/-!
# The icons that are shown

A sync makes the registered icons those of TrayManager1 whose process has no SNI item at
that time. Nothing but a change of TrayManager1's icons leads to another sync: an SNI item
that is registered later drops the icons of its process, and one that is removed brings none
back. So when everything is handled, an icon is registered exactly if no SNI item of its
process was registered at any time from the last sync on.
-/

namespace DdeTrayLoader.Tray

open Transition

/-- A window keeps its process: ids are not taken over by windows of other processes. -/
def Session.KeepsPids (session : Session) : Prop :=
  ∀ window used, session.windowPid window used = session.windowPid window 0

namespace TraySystem

variable {session : Session}

/-- No signal of TrayManager1 is in flight and no timer is armed. -/
def Handled (t : TraySystem) : Prop := t.signals = 0 ∧ t.timers = 0

instance (t : TraySystem) : Decidable t.Handled :=
  inferInstanceAs (Decidable (t.signals = 0 ∧ t.timers = 0))

/-- The event is the callback of an armed timer. -/
def syncs (t : TraySystem) : Event → Prop
  | .syncTrayIcons _ _ => 0 < t.timers
  | _ => False

/-- The processes that had an SNI item at some time since the last sync of a run, when those
of `served` had one before these events. -/
def servedSince (session : Session) (t : TraySystem) (served : ℕ → Prop) :
    List Event → ℕ → Prop
  | [] => served
  | e :: es =>
    (t.step session e).servedSince session
      (fun pid => (¬t.syncs e ∧ served pid) ∨ (t.step session e).sni.items.Serves pid) es

/-- The protocols are apart, and when everything is handled, the registered icons are those
whose process was not served. -/
structure Shown (session : Session) (t : TraySystem) (served : ℕ → Prop) : Prop where
  marks : t.Marks
  exclusive : t.Exclusive fun _ => True
  serves : ∀ pid, t.sni.items.Serves pid → served pid
  pid : ∀ window ∈ t.xembed.keys, t.xembed.pid window = session.windowPid window 0
  shown : t.Handled → ∀ window, window ∈ t.xembed.keys ↔
    window ∈ t.icons ∧ ¬served (session.windowPid window 0)

/-- An icon of a registered key is not served. -/
theorem Exclusive.not_serves {t : TraySystem} (h : t.Exclusive fun _ => True) {window : Window}
    (hmem : window ∈ t.xembed.keys) : ¬t.sni.items.Serves (t.xembed.pid window) :=
  fun hserves => h _ trivial hserves ⟨window, hmem, rfl⟩

/-- A sync that keeps the protocols apart registers the icons whose process has no SNI item. -/
theorem mem_keys_syncTrayIcons {t : TraySystem} (hmarks : t.Marks)
    (hexclusive : t.Exclusive fun _ => True)
    (hpid : ∀ window ∈ t.xembed.keys, t.xembed.pid window = t.pidNow session window)
    {listed order : HashOrder Window} (hpos : 0 < t.timers)
    (hkeeps : t.KeepsApart session (fun _ => True) (.syncTrayIcons listed order))
    (window : Window) :
    window ∈ (t.syncTrayIcons session listed order).xembed.keys ↔
      window ∈ t.icons ∧ ¬t.sni.items.Serves (t.pidNow session window) := by
  rw [(t.syncTrayIcons_spec session listed order hpos).2.2.1]
  refine and_congr_right fun hicon => ⟨?_, fun hnot => .inr fun hmarked => ?_⟩
  · intro hcase hserves
    rcases hcase with hmem | htakes
    · exact hexclusive.not_serves hmem (hpid window hmem ▸ hserves)
    · by_cases hmem : window ∈ t.xembed.keys
      · exact hexclusive.not_serves hmem (hpid window hmem ▸ hserves)
      · exact htakes (hkeeps hpos window hicon hmem trivial hserves)
  · exact hnot (hmarks.marked _ hmarked)

theorem Shown.syncTrayIcons {t : TraySystem} {served : ℕ → Prop} (h : t.Shown session served)
    (hsession : session.KeepsPids) {listed order : HashOrder Window} (hpos : 0 < t.timers)
    (hkeeps : t.KeepsApart session (fun _ => True) (.syncTrayIcons listed order)) :
    (t.syncTrayIcons session listed order).Shown session
      (t.syncTrayIcons session listed order).sni.items.Serves := by
  obtain ⟨hframe, -, hkeys, hpid⟩ := t.syncTrayIcons_spec session listed order hpos
  have hnow (window : Window) : t.pidNow session window = session.windowPid window 0 :=
    hsession window _
  refine
    { marks := h.marks.step (.syncTrayIcons listed order)
      exclusive := (exclusive_syncTrayIcons_iff h.exclusive listed order).mpr hkeeps
      serves := fun _ => id
      pid := fun window hmem => ?_
      shown := fun _ window => ?_ }
  · rw [hpid window hmem]
    split_ifs with hold
    · exact h.pid window hold
    · exact hnow window
  · rw [mem_keys_syncTrayIcons h.marks h.exclusive (fun window hmem =>
      (h.pid window hmem).trans (hnow window).symm) hpos hkeeps, hframe.sni, hframe.icons, hnow]

/-- A step that drops the icons of processes with SNI items, and no others. -/
theorem Shown.keep {t t' : TraySystem} {served : ℕ → Prop} (h : t.Shown session served)
    (hmarks : t'.Marks) (hexclusive : t'.Exclusive fun _ => True)
    (hkeys : ∀ window, window ∈ t'.xembed.keys ↔
      window ∈ t.xembed.keys ∧ ¬t'.sni.items.Serves (session.windowPid window 0))
    (hpid : ∀ window ∈ t'.xembed.keys, t'.xembed.pid window = t.xembed.pid window)
    (hhandled : t'.Handled → t.Handled ∧ t'.icons = t.icons) :
    t'.Shown session fun pid => served pid ∨ t'.sni.items.Serves pid where
  marks := hmarks
  exclusive := hexclusive
  serves _ := .inr
  pid window hmem := (hpid window hmem).trans (h.pid window ((hkeys window).mp hmem).1)
  shown hquiet window := by
    obtain ⟨hold, hicons⟩ := hhandled hquiet
    rw [hkeys, h.shown hold, hicons, and_assoc, not_or]

/-- A step that leaves the registered icons alone. -/
theorem Shown.keepXembed {t t' : TraySystem} {served : ℕ → Prop} (h : t.Shown session served)
    (hmarks : t'.Marks) (hexclusive : t'.Exclusive fun _ => True) (hxembed : t'.xembed = t.xembed)
    (hhandled : t'.Handled → t.Handled ∧ t'.icons = t.icons) :
    t'.Shown session fun pid => served pid ∨ t'.sni.items.Serves pid := by
  refine h.keep hmarks hexclusive (fun window => ?_) (fun window _ => by rw [hxembed]) hhandled
  rw [hxembed]
  refine (and_iff_left_of_imp fun hmem => ?_).symm
  rw [← h.pid window hmem, ← hxembed]
  exact hexclusive.not_serves (hxembed ▸ hmem)

/-- An SNI item that is registered drops the icons of its process. -/
theorem Shown.handlerCreated {t : TraySystem} {served : ℕ → Prop} (h : t.Shown session served)
    {item : String} {order : HashOrder Window}
    (hkeeps : t.KeepsApart session (fun _ => True) (.handlerCreated item order)) :
    (t.handlerCreated session item order).Shown session fun pid =>
      served pid ∨ (t.handlerCreated session item order).sni.items.Serves pid := by
  have hmarks : (t.handlerCreated session item order).Marks := h.marks.handlerCreated item order
  have hexclusive := (exclusive_handlerCreated_iff h.marks h.exclusive item order).mpr hkeeps
  rcases t.handlerCreated_cases session item order with
    ⟨-, heq⟩ | ⟨-, -, heq⟩ | ⟨hcompletes, heq⟩
  · exact h.keepXembed hmarks hexclusive (by rw [heq]) (by rw [heq]; exact fun h => ⟨h, rfl⟩)
  · exact h.keepXembed hmarks hexclusive (by rw [heq]) (by rw [heq]; exact fun h => ⟨h, rfl⟩)
  cases hevicted : t.evicted order (session.itemPid item) with
  | none =>
    rw [hevicted] at heq
    exact h.keepXembed hmarks hexclusive (by rw [heq]; rfl) (by rw [heq]; exact fun h => ⟨h, rfl⟩)
  | some found =>
    obtain ⟨window, ref⟩ := found
    obtain ⟨hmarked, hmem, hpid, -⟩ := evicted_eq_some hevicted
    rw [hevicted] at heq
    have hkeys (other : Window) : other ∈ (t.handlerCreated session item order).xembed.keys ↔
        other ≠ window ∧ other ∈ t.xembed.keys := by
      rw [heq]
      exact Registered.mem_keys_remove _
    have hpids (other : Window)
        (hother : other ∈ (t.handlerCreated session item order).xembed.keys) :
        (t.handlerCreated session item order).xembed.pid other = t.xembed.pid other := by
      have hne := ((hkeys other).mp hother).1
      rw [heq]
      exact Registered.pid_remove_of_ne _ hne
    refine h.keep hmarks hexclusive (fun other => ?_) hpids (by rw [heq]; exact fun h => ⟨h, rfl⟩)
    constructor
    · intro hother
      have hold := ((hkeys other).mp hother).2
      rw [← h.pid other hold, ← hpids other hother]
      exact ⟨hold, hexclusive.not_serves hother⟩
    · intro hboth
      obtain ⟨hold, hnot⟩ := hboth
      refine (hkeys other).mpr ⟨?_, hold⟩
      intro hsame
      subst hsame
      apply hnot
      rw [← h.pid other hold, hpid, heq]
      exact (Registered.serves_insert _ (h.marks.pending item hcompletes.2)).mpr (.inl rfl)

/-- Every step that keeps the protocols apart. -/
theorem Shown.step {t : TraySystem} {served : ℕ → Prop} (h : t.Shown session served)
    (hsession : session.KeepsPids) (e : Event)
    (hkeeps : t.KeepsApart session (fun _ => True) e) :
    (t.step session e).Shown session fun pid =>
      (¬t.syncs e ∧ served pid) ∨ (t.step session e).sni.items.Serves pid := by
  have hmarks : (t.step session e).Marks := h.marks.step e
  have hexclusive := (exclusive_step_iff h.marks h.exclusive e).mpr hkeeps
  by_cases hsyncs : t.syncs e
  · simp only [hsyncs, not_true_eq_false, false_and, false_or]
    cases e with
    | syncTrayIcons listed order => exact h.syncTrayIcons hsession hsyncs hkeeps
    | _ => exact hsyncs.elim
  simp only [hsyncs, not_false_eq_true, true_and]
  have hkeep : (t.step session e).xembed = t.xembed →
      ((t.step session e).Handled → t.Handled ∧ (t.step session e).icons = t.icons) →
      (t.step session e).Shown session fun pid =>
        served pid ∨ (t.step session e).sni.items.Serves pid := h.keepXembed hmarks hexclusive
  cases e with
  | watcherChanged items => exact hkeep rfl fun hhandled => ⟨hhandled, rfl⟩
  | registedItemChanged order =>
    have hframe := (t.registedItemChanged_spec order).1
    exact hkeep hframe.xembed fun hhandled => ⟨⟨hframe.signals ▸ hhandled.1,
      hframe.timers ▸ hhandled.2⟩, hframe.icons⟩
  | handlerCreated item order => exact h.handlerCreated hkeeps
  | registerIcon window pixmapData =>
    revert hkeep
    simp only [TraySystem.step, registerIcon]
    split_ifs
    · exact fun hkeep => hkeep rfl fun hhandled => ⟨hhandled, rfl⟩
    · exact fun hkeep => hkeep rfl fun hhandled => absurd hhandled.1 (Nat.succ_ne_zero _)
  | unregisterIcon window =>
    revert hkeep
    simp only [TraySystem.step, unregisterIcon]
    split_ifs
    · exact fun hkeep => hkeep rfl fun hhandled => absurd hhandled.1 (Nat.succ_ne_zero _)
    · exact fun hkeep => hkeep rfl fun hhandled => ⟨hhandled, rfl⟩
  | onTrayIconsChanged =>
    revert hkeep
    simp only [TraySystem.step, onTrayIconsChanged]
    split_ifs
    · exact fun hkeep => hkeep rfl fun hhandled => ⟨hhandled, rfl⟩
    · exact fun hkeep => hkeep rfl fun hhandled => absurd hhandled.2 (Nat.succ_ne_zero _)
  | syncTrayIcons listed order =>
    have hzero : t.timers = 0 := Nat.eq_zero_of_not_pos hsyncs
    have hsame : t.step session (.syncTrayIcons listed order) = t := if_pos hzero
    rw [hsame] at hkeep ⊢
    exact hkeep rfl fun hhandled => ⟨hhandled, rfl⟩
  | leaveNotify window =>
    revert hkeep
    simp only [TraySystem.step]
    split_ifs <;> exact fun hkeep => hkeep rfl fun hhandled => ⟨hhandled, rfl⟩
  | destroyNotify window order =>
    revert hkeep
    simp only [TraySystem.step]
    split_ifs <;> exact fun hkeep => hkeep rfl fun hhandled => ⟨hhandled, rfl⟩
  | handler e => exact hkeep rfl fun hhandled => ⟨hhandled, rfl⟩
  | indicatorsChanged indicatorPaths order => exact hkeep rfl fun hhandled => ⟨hhandled, rfl⟩
  | indicatorDelayed i => exact hkeep rfl fun hhandled => ⟨hhandled, rfl⟩

theorem Shown.run {t : TraySystem} {served : ℕ → Prop} (h : t.Shown session served)
    (hsession : session.KeepsPids) {es : List Event}
    (hkeeps : Obeys (TraySystem.step session) (KeepsApart session fun _ => True) t es) :
    (run (TraySystem.step session) t es).Shown session (t.servedSince session served es) := by
  induction es generalizing t served with
  | nil => exact h
  | cons e es ih => exact ih (h.step hsession e hkeeps.1) hkeeps.2

theorem initial_shown (session : Session) : (initial session).Shown session fun _ => False where
  marks := initial_marks session
  exclusive := initial_exclusive session _
  serves pid := Registered.not_serves_empty pid
  pid window hmem := absurd hmem (Registered.not_mem_keys_empty window)
  shown hhandled := absurd hhandled.1 Nat.one_ne_zero

/-- In a run that keeps the protocols apart: whenever everything is handled, the registered
icons are those of TrayManager1 whose process had no SNI item since the last sync; and after
a sync they are those whose process has none then, so that the first sync after an SNI item
is gone shows the icons it suppressed. -/
theorem registered_iff_not_served (session : Session) (hsession : session.KeepsPids)
    (es : List Event)
    (hkeeps : Obeys (step session) (KeepsApart session fun _ => True) (initial session) es)
    (window : Window) :
    ((run (step session) (initial session) es).Handled →
      (window ∈ (run (step session) (initial session) es).xembed.keys ↔
        window ∈ (run (step session) (initial session) es).icons ∧
          ¬(initial session).servedSince session (fun _ => False) es
            (session.windowPid window 0))) ∧
    ∀ listed order, 0 < (run (step session) (initial session) es).timers →
      KeepsApart session (fun _ => True) (run (step session) (initial session) es)
        (.syncTrayIcons listed order) →
      (window ∈ (run (step session) (initial session)
          (es ++ [.syncTrayIcons listed order])).xembed.keys ↔
        window ∈ (run (step session) (initial session) es).icons ∧
          ¬(run (step session) (initial session) es).sni.items.Serves
            (session.windowPid window 0)) := by
  have hshown := (initial_shown session).run hsession hkeeps
  refine ⟨fun hhandled => hshown.shown hhandled window, fun listed order hpos hsync => ?_⟩
  rw [run_concat, step]
  refine (mem_keys_syncTrayIcons hshown.marks hshown.exclusive (fun other hmem => ?_) hpos hsync
    window).trans ?_
  · exact (hshown.pid other hmem).trans (hsession other _).symm
  · rw [pidNow, hsession]

/-- A session with one process only. -/
def oneProcess : Session := .empty false (fun _ => 42) fun _ _ => 42

/-- An SNI item is registered, keeps an icon of its process from being shown, and goes. -/
def suppression : List Event :=
  [.watcherChanged [":1.5/StatusNotifierItem"], .registedItemChanged (.stored _),
    .handlerCreated ":1.5/StatusNotifierItem" (.stored _), .registerIcon 1 [],
    .onTrayIconsChanged, .onTrayIconsChanged, .syncTrayIcons (.stored _) (.stored _),
    .syncTrayIcons (.stored _) (.stored _), .watcherChanged [], .registedItemChanged (.stored _)]

theorem keepsApart_suppression :
    Obeys (step oneProcess) (KeepsApart oneProcess fun _ => True) (initial oneProcess)
      suppression :=
  ⟨trivial, trivial, fun _ _ _ _ => nofun, trivial, trivial, trivial,
    fun _ _ _ _ _ _ => rfl, fun _ _ _ _ _ _ => rfl, trivial, trivial, trivial⟩

/-- The icon is not shown when the item is gone, but at the next sync. -/
theorem registered_iff_not_served_suppressed :
    1 ∉ (run (step oneProcess) (initial oneProcess) suppression).xembed.keys ∧
      1 ∈ (run (step oneProcess) (initial oneProcess)
        (suppression ++ [.registerIcon 2 [], .onTrayIconsChanged] ++
          [.syncTrayIcons (.stored _) (.stored _)])).xembed.keys := by
  constructor
  · intro hmem
    obtain ⟨-, hserved⟩ := ((registered_iff_not_served oneProcess (fun _ _ => rfl) suppression
      keepsApart_suppression 1).1 (by decide)).mp hmem
    exact hserved (.inl ⟨id, .inr (by decide)⟩)
  · have hkeeps : Obeys (step oneProcess) (KeepsApart oneProcess fun _ => True)
        (initial oneProcess) (suppression ++ [.registerIcon 2 [], .onTrayIconsChanged]) :=
      keepsApart_suppression.append ⟨trivial, trivial, trivial⟩
    have hgone : ¬(run (step oneProcess) (initial oneProcess)
        (suppression ++ [.registerIcon 2 [], .onTrayIconsChanged])).sni.items.Serves 42 := by
      decide
    refine ((registered_iff_not_served oneProcess (fun _ _ => rfl) _ hkeeps 1).2 (.stored _)
      (.stored _) (by decide) ?_).mpr ⟨by decide, hgone⟩
    exact fun _ _ _ _ _ hserves => absurd hserves hgone

/-- An icon that an SNI item of its process suppressed is not shown when the item is gone. -/
theorem not_registered_after_suppression :
    ∃ es : List Event,
      (run (step (.empty false (fun _ => 42) fun _ _ => 42))
        (initial (.empty false (fun _ => 42) fun _ _ => 42)) es).Handled ∧
      1 ∈ (run (step (.empty false (fun _ => 42) fun _ _ => 42))
        (initial (.empty false (fun _ => 42) fun _ _ => 42)) es).icons ∧
      ¬(run (step (.empty false (fun _ => 42) fun _ _ => 42))
        (initial (.empty false (fun _ => 42) fun _ _ => 42)) es).sni.items.Serves 42 ∧
      1 ∉ (run (step (.empty false (fun _ => 42) fun _ _ => 42))
        (initial (.empty false (fun _ => 42) fun _ _ => 42)) es).xembed.keys :=
  ⟨[.watcherChanged [":1.5/StatusNotifierItem"], .registedItemChanged (.stored _),
    .handlerCreated ":1.5/StatusNotifierItem" (.stored _), .registerIcon 1 [],
    .onTrayIconsChanged, .onTrayIconsChanged, .syncTrayIcons (.stored _) (.stored _),
    .syncTrayIcons (.stored _) (.stored _), .watcherChanged [], .registedItemChanged (.stored _)],
    by decide, by decide, by decide, by decide⟩

end TraySystem

end DdeTrayLoader.Tray
