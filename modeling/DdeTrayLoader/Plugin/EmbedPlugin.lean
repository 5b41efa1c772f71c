import DdeTrayLoader.Qt.Bindings

/-!
# The registry of `EmbedPlugin`

`EmbedPlugin::get` binds a window to the `EmbedPlugin` that stands for it on the dock's side. The
binding goes when the window is hidden, and the callbacks of an old `EmbedPlugin` do not touch
that of a newer one. A window that is destroyed while it is hidden but bound keeps its entry:
the callback that would remove it is a connection to that very window.
-/

namespace DdeTrayLoader.Plugin

open Transition Qt

/-- `EmbedPlugin::PluginType`. -/
inductive PluginType where
  | tray
  | fixed
  | quick
  | card
  deriving DecidableEq, Repr

/-- `EmbedPluginPrivate`; its integers are not initialised. -/
structure EmbedPluginPrivate where
  pluginId : String := ""
  itemKey : String := ""
  displayName : String := ""
  pluginFlags : Option ℕ := none
  pluginType : Option PluginType := none
  sizePolicy : Option ℕ := none
  dccIcon : String := ""
  deriving DecidableEq, Repr

/-- `removeFromPluginMap`. -/
def removeFromPluginMap (map : Bindings) (window plugin : ℕ) : Bindings :=
  if map.lookup window = some plugin then map.erase window else map

namespace EmbedPlugin

/-- `s_map`, with the windows and the plugins. -/
abbrev SMap := Registry EmbedPluginPrivate

/-- The callbacks of an `EmbedPlugin`, for its window's `visibleChanged` and its own `destroyed`. -/
def callbacks : Unbinding where
  unbind := removeFromPluginMap
  lookup_ne map p w w' hne := by
    unfold removeFromPluginMap
    split
    · exact AList.lookup_erase_ne hne
    · rfl
  lookup_self hlookup := by
    rw [removeFromPluginMap, if_pos hlookup, AList.lookup_erase]
  of_lookup hlookup := by
    unfold removeFromPluginMap at hlookup
    split at hlookup
    · simp at hlookup
    · exact hlookup

/-- The callbacks of a plugin leave the binding to another one alone. -/
theorem removeFromPluginMap_of_ne {map : Bindings} {window plugin p : ℕ}
    (hbound : map.lookup window = some plugin) (hne : p ≠ plugin) :
    (removeFromPluginMap map window p).lookup window = some plugin := by
  have hother : ¬map.lookup window = some p := by
    rw [hbound, Option.some.injEq]
    exact Ne.symm hne
  rw [removeFromPluginMap, if_neg hother, hbound]

/-- `EmbedPlugin::contains` for a plugin of an id, a type and a key, where the empty key stands
for any. -/
def contains (r : SMap) (pluginId : String) (type : PluginType) (itemKey : String) : Bool :=
  r.map.entries.any fun entry =>
    let plugin := (r.child entry.2).data
    decide (pluginId = plugin.pluginId) && (itemKey.isEmpty || decide (itemKey = plugin.itemKey)) &&
      decide (some type = plugin.pluginType)

/-- `get`, and the setters of the plugin. -/
def bind (r : SMap) (w : ℕ) (set : EmbedPluginPrivate → EmbedPluginPrivate) : SMap :=
  let (r, p) := r.get {} w
  r.setData p (set (r.child p).data)

/-- No windows yet. -/
def initial : SMap := Registry.initial {}

/-- One event of the windows and their plugins. -/
def step (r : SMap) (e : WindowEvent) : SMap := r.step callbacks {} e

/-- From `r` on, `get` keeps returning the plugin it returns for the window, in every run that
neither hides nor destroys the window. -/
def GetIsStable (r : SMap) (w : ℕ) : Prop :=
  (r.window w).alive = true → ∀ es, Obeys step (fun r e => ¬r.Closes w e) (r.get {} w).1 es →
    ((run step (r.get {} w).1 es).get {} w).2 = (r.get {} w).2

/-- The properties of the plugin that a window is bound to. -/
def dataAt (r : SMap) (w : ℕ) : Option EmbedPluginPrivate :=
  (r.map.lookup w).map fun p => (r.child p).data

/-- Every event keeps the registry consistent. -/
theorem step_consistent {r : SMap} (h : r.Consistent) (e : WindowEvent) : (step r e).Consistent :=
  h.step callbacks _ e

/-- The binding of a live window survives every event that does not close the window. -/
theorem lookup_step {r : SMap} (h : r.Consistent) {e : WindowEvent} {w p : ℕ}
    (hbound : r.map.lookup w = some p) (halive : (r.window w).alive = true)
    (hopen : ¬r.Closes w e) : (step r e).map.lookup w = some p := by
  apply h.lookup_step callbacks _ hbound halive hopen
  intro q _ _ _ _ hne
  exact removeFromPluginMap_of_ne hbound hne

/-- A window that is not closed stays bound to the same plugin. -/
theorem getIsStable {r : SMap} (h : r.Consistent) (w : ℕ) : GetIsStable r w := by
  intro halive es hopen
  have hstart : (r.get {} w).1.Consistent ∧ ((r.get {} w).1.window w).alive = true ∧
      (r.get {} w).1.map.lookup w = some (r.get {} w).2 :=
    ⟨h.get {} halive, by simpa using halive, r.get_lookup {} w⟩
  generalize r.get {} w = got at *
  have hkept : (run step got.1 es).Consistent ∧ ((run step got.1 es).window w).alive = true ∧
      (run step got.1 es).map.lookup w = some got.2 := by
    refine run_invariant_of_obeys (I := fun r => r.Consistent ∧ (r.window w).alive = true ∧
      r.map.lookup w = some got.2) ?_ hstart hopen
    intro r e hinv hopen
    obtain ⟨h, halive, hbound⟩ := hinv
    have hkept : e ≠ .destroyWindow w := by
      intro he
      subst he
      exact hopen rfl
    exact ⟨step_consistent h e, h.window_alive_step callbacks _ halive hkept,
      lookup_step h hbound halive hopen⟩
  rw [Registry.get_of_lookup {} hkept.2.2]

/-- Throughout a run, every entry of `s_map` is of a live window to a live `EmbedPlugin` of its own,
and `get` keeps returning what it returned until the window is hidden or destroyed, exactly
when every window that is destroyed is visible or has no entry. -/
theorem sMap_sound_iff (es : List WindowEvent) :
    Always step (fun r => r.Sound ∧ ∀ w, GetIsStable r w) initial es ↔
      Obeys step Registry.UnboundWhenDestroyed initial es := by
  apply always_iff_obeys (I := Registry.Consistent) (fun _ e h => step_consistent h e)
  · intro r e h hsound
    have hiff := h.sound_step_iff callbacks ({} : EmbedPluginPrivate) hsound.1 e
    constructor
    · intro hnext
      exact hiff.mp hnext.1
    · intro hunbound
      exact ⟨hiff.mpr hunbound, getIsStable (step_consistent h e)⟩
  · exact Registry.initial_consistent _
  · exact ⟨by simp [Registry.Sound, initial, Registry.initial],
      getIsStable (Registry.initial_consistent _)⟩

/-- A window that is never shown is destroyed, and its entry stays. -/
theorem not_sMap_sound :
    ¬Always step (fun r => r.Sound ∧ ∀ w, GetIsStable r w) initial
      [.createWindow, .get 0, .destroyWindow 0] := by
  intro hsound
  obtain ⟨-, -, -, hlast, -⟩ := hsound
  have hentry := hlast 0 0 (by decide)
  exact absurd hentry.1 (by decide)

/-- A plugin is contained when a window is bound to one like it. -/
theorem contains_iff {r : SMap} {pluginId itemKey : String} {type : PluginType} :
    contains r pluginId type itemKey = true ↔ ∃ w plugin, dataAt r w = some plugin ∧
      plugin.pluginId = pluginId ∧ (itemKey = "" ∨ plugin.itemKey = itemKey) ∧
      plugin.pluginType = some type := by
  simp only [contains, List.any_eq_true, Bool.and_eq_true, Bool.or_eq_true, decide_eq_true_eq,
    String.isEmpty_iff]
  constructor
  · intro hentry
    obtain ⟨⟨w, p⟩, hmem, ⟨hid, hkey⟩, htype⟩ := hentry
    have hlookup : r.map.lookup w = some p := AList.mem_lookup_iff.mpr hmem
    refine ⟨w, (r.child p).data, by rw [dataAt, hlookup]; rfl, hid.symm, ?_, htype.symm⟩
    exact hkey.imp_right Eq.symm
  · intro hsome
    obtain ⟨w, plugin, hdata, hid, hkey, htype⟩ := hsome
    obtain ⟨p, hlookup, rfl⟩ := Option.map_eq_some_iff.mp hdata
    exact ⟨⟨w, p⟩, AList.mem_lookup_iff.mp hlookup, ⟨hid.symm, hkey.imp_right Eq.symm⟩, htype.symm⟩

theorem dataAt_showWindow (r : SMap) (w w' : ℕ) : dataAt (r.showWindow w) w' = dataAt r w' := by
  simp [dataAt]

/-- A visible window that is hidden is no longer bound. -/
theorem dataAt_hideWindow {r : SMap} (h : r.Consistent) (w w' : ℕ) :
    dataAt (r.hideWindow callbacks w) w' =
      if w' = w ∧ (r.window w).visible = true then none else dataAt r w' := by
  split
  · rename_i hboth
    obtain ⟨rfl, hvisible⟩ := hboth
    rw [dataAt, h.hideWindow_lookup_self callbacks hvisible]
    rfl
  · rename_i hnot
    have hlookup : (r.hideWindow callbacks w).map.lookup w' = r.map.lookup w' := by
      by_cases hw : w' = w
      · have hhidden : ¬(r.window w).visible = true := fun hvisible => hnot ⟨hw, hvisible⟩
        rw [Registry.hideWindow, if_neg hhidden]
      · exact Registry.hideWindow_lookup_ne callbacks r hw
    simp [dataAt, hlookup]

/-- A window that is destroyed while it is hidden leaves the registry alone. -/
theorem dataAt_destroyWindow {r : SMap} {w : ℕ} (hhidden : ¬(r.window w).visible = true)
    (w' : ℕ) : dataAt (r.destroyWindow callbacks w) w' = dataAt r w' := by
  have hmap : (r.destroyWindow callbacks w).map = r.map := by
    simp [Registry.destroyWindow, Registry.hideWindow, hhidden]
  simp [dataAt, hmap]

/-- A plugin whose deletion takes place was unbound before. -/
theorem dataAt_deferredDelete {r : SMap} (h : r.Consistent) (p w : ℕ) :
    dataAt (r.deferredDelete callbacks p) w = dataAt r w := by
  unfold Registry.deferredDelete
  split
  · rename_i hpending
    rw [Bool.and_eq_true] at hpending
    obtain ⟨halive, hlater⟩ := hpending
    have hunbound : ¬r.map.lookup (r.child p).parentWindow = some p := by
      intro hbound
      have hkept := (h.bound_alive _ p hbound (h.parent_alive p halive)).2
      rw [hlater] at hkept
      simp at hkept
    have hmap : (r.destroyChild callbacks p).map = r.map := if_neg hunbound
    simp [dataAt, hmap]
  · rfl

/-- A window that is bound gets the properties that are set, and no other window is touched. -/
theorem dataAt_bind {r : SMap} (h : r.Consistent) {w : ℕ} (halive : (r.window w).alive = true)
    (set : EmbedPluginPrivate → EmbedPluginPrivate) (w' : ℕ) :
    dataAt (bind r w set) w' =
      if w' = w then some (set ((dataAt r w).getD {})) else dataAt r w' := by
  have hgot := h.get {} halive
  have hlookup := r.get_lookup {} w
  have hmap : (bind r w set).map = (r.get {} w).1.map := rfl
  by_cases hw : w' = w
  · subst hw
    have hold : ((r.get {} w').1.child (r.get {} w').2).data = (dataAt r w').getD {} := by
      unfold Registry.get dataAt
      cases hnone : r.map.lookup w' with
      | some p => rfl
      | none => simp
    rw [if_pos rfl, ← hold, dataAt, hmap, hlookup]
    simp [bind, Registry.setData_child]
  · rw [if_neg hw, dataAt, hmap, r.get_lookup_ne {} hw, dataAt]
    cases hbound : r.map.lookup w' with
    | none => rfl
    | some q =>
      have hne : q ≠ (r.get {} w).2 := by
        intro hsame
        have hparent := hgot.parentWindow w _ hlookup
        rw [← hsame, hgot.parentWindow w' q ((r.get_lookup_ne {} hw).trans hbound)] at hparent
        exact hw hparent
      have hchild := r.get_child {} w (h.bound_lt w' q hbound).2
      simp [bind, Registry.setData_child, hne, hchild]

theorem bind_consistent {r : SMap} (h : r.Consistent) {w : ℕ} (halive : (r.window w).alive = true)
    (set : EmbedPluginPrivate → EmbedPluginPrivate) : (bind r w set).Consistent :=
  (h.get _ halive).setData _ _

@[simp] theorem bind_window (r : SMap) (w : ℕ) (set : EmbedPluginPrivate → EmbedPluginPrivate) :
    (bind r w set).window = r.window := Registry.get_window _ r w

@[simp] theorem bind_windows (r : SMap) (w : ℕ) (set : EmbedPluginPrivate → EmbedPluginPrivate) :
    (bind r w set).windows = r.windows := Registry.get_windows _ r w

end EmbedPlugin

end DdeTrayLoader.Plugin
