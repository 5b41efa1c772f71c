import DdeTrayLoader.Plugin.EmbedPlugin
import Mathlib.Data.List.Nodup

/-!
# Messages through plugin surfaces

A shell surface of a bound window is a `PluginSurface`, which forwards what its `EmbedPlugin`
emits to the dock. The connection for `requestMessage` is made in the context of the manager,
although it reads the surface: it outlives the surface, and when the `EmbedPlugin` gets another
surface, or emits without one, the forwarding reads the one that is gone.
-/

namespace DdeTrayLoader.Plugin

open Transition Qt

/-- A `PluginSurface`. -/
structure PluginSurface where
  alive : Bool := false
  /-- `m_plugin` -/
  plugin : ℕ := 0
  /-- `m_window` -/
  window : ℕ := 0
  /-- What `create_plugin` and `dcc_icon` told the dock. -/
  properties : EmbedPluginPrivate := {}
  deriving DecidableEq, Repr

/-- What a connection for `requestMessage` does with a message. -/
inductive Forward where
  | request_message (pluginId itemKey msg : String)
  /-- It reads a surface that was destroyed. -/
  | dangling (surface : ℕ)
  deriving DecidableEq, Repr

/-- The registry of plugins, the surfaces by the order of their construction, and the emissions
of `requestMessage` that are posted. -/
structure Shell where
  plugins : EmbedPlugin.SMap
  surface : ℕ → PluginSurface
  surfaces : ℕ
  posted : List (ℕ × String)

/-- What happens to windows, plugins and surfaces. -/
inductive ShellEvent where
  | window (e : WindowEvent)
  /-- The properties of a plugin are set. -/
  | setData (p : ℕ) (data : EmbedPluginPrivate)
  /-- The platform window of a window is destroyed and created again. -/
  | recreate (w : ℕ)
  | post (p : ℕ) (msg : String)
  /-- One of the posted emissions takes place. -/
  | deliver (n : ℕ)
  /-- A plugin emits `requestMessage`. -/
  | requestMessage (p : ℕ) (msg : String)
  deriving DecidableEq, Repr

namespace Shell

def initial : Shell := ⟨EmbedPlugin.initial, fun _ => {}, 0, []⟩

/-- The window has a shell surface. -/
def hasSurface (s : Shell) (w : ℕ) : Bool :=
  (List.range s.surfaces).any fun i =>
    (s.surface i).alive && decide ((s.surface i).window = w)

/-- `createShellSurface`, for a window without one; popups are left out. -/
def createShellSurface (s : Shell) (w : ℕ) : Shell :=
  if s.hasSurface w then s
  else
    match s.plugins.map.lookup w with
    | some plugin =>
      let properties := (s.plugins.child plugin).data
      { s with
        surface :=
          Function.update s.surface s.surfaces
            { alive := true, plugin := plugin, window := w, properties := properties }
        surfaces := s.surfaces + 1 }
    | none => s

/-- The platform window lets go of the shell surface. -/
def destroyShellSurface (s : Shell) (w : ℕ) : Shell :=
  { s with
    surface := fun i =>
      if (s.surface i).window = w then { s.surface i with alive := false } else s.surface i }

/-- The shell surfaces follow what happens to their windows. -/
def handleWindow (s : Shell) (e : WindowEvent) : Shell :=
  let s' := { s with plugins := EmbedPlugin.step s.plugins e }
  match e with
  | .showWindow w =>
    if (s.plugins.window w).alive && !(s.plugins.window w).visible then s'.createShellSurface w
    else s'
  | .hideWindow w => s'.destroyShellSurface w
  | .destroyWindow w => s'.destroyShellSurface w
  | _ => s'

def step (s : Shell) : ShellEvent → Shell
  | .window e => s.handleWindow e
  | .setData p data =>
    if (s.plugins.child p).alive then { s with plugins := s.plugins.setData p data } else s
  | .recreate w =>
    if (s.plugins.window w).visible then (s.destroyShellSurface w).createShellSurface w else s
  | .post p msg =>
    if (s.plugins.child p).alive then { s with posted := s.posted ++ [(p, msg)] } else s
  | .deliver n => { s with posted := s.posted.eraseIdx n }
  | .requestMessage _ _ => s

/-- The surfaces that were made for the plugin, which its connections read. -/
def connected (s : Shell) (p : ℕ) : List ℕ :=
  (List.range s.surfaces).filter fun i => (s.surface i).plugin = p

/-- The connection for `requestMessage` of a surface. -/
def forward (s : Shell) (msg : String) (i : ℕ) : Forward :=
  if (s.surface i).alive then
    let plugin := (s.plugins.child (s.surface i).plugin).data
    .request_message plugin.pluginId plugin.itemKey msg
  else .dangling i

/-- What an emission of `requestMessage` makes the connections do. -/
def forwards (s : Shell) (p : ℕ) (msg : String) : List Forward :=
  (s.connected p).map (s.forward msg)

/-- The emission that takes place; one that is posted to a plugin that was deleted is dropped. -/
def emission (s : Shell) : ShellEvent → Option (ℕ × String)
  | .requestMessage p msg => if (s.plugins.child p).alive then some (p, msg) else none
  | .deliver n => s.posted[n]?.filter fun m => (s.plugins.child m.1).alive
  | _ => none

/-- An emission that takes place makes one request, with the id and the key of the plugin, if a
surface of the plugin is alive, and nothing otherwise. -/
def ForwardsOnce (s : Shell) (e : ShellEvent) : Prop :=
  ∀ p msg, s.emission e = some (p, msg) →
    ((∃ i < s.surfaces, (s.surface i).alive = true ∧ (s.surface i).plugin = p) →
      s.forwards p msg =
        [.request_message (s.plugins.child p).data.pluginId (s.plugins.child p).data.itemKey
          msg]) ∧
    ((¬∃ i < s.surfaces, (s.surface i).alive = true ∧ (s.surface i).plugin = p) →
      s.forwards p msg = [])

/-- No surface of a plugin has been destroyed when the plugin emits `requestMessage`. -/
def KeepsSurfaces (s : Shell) (e : ShellEvent) : Prop :=
  ∀ p msg, s.emission e = some (p, msg) →
    ∀ i < s.surfaces, (s.surface i).plugin = p → (s.surface i).alive = true

/-- A surface belongs to the window of its plugin, and a window has one live surface at most. -/
structure Consistent (s : Shell) : Prop where
  plugins : s.plugins.Consistent
  surface_lt : ∀ i, (s.surface i).alive = true → i < s.surfaces
  plugin_lt : ∀ i < s.surfaces, (s.surface i).plugin < s.plugins.children
  window : ∀ i < s.surfaces,
    (s.plugins.child (s.surface i).plugin).parentWindow = (s.surface i).window
  unique : ∀ i j, (s.surface i).alive = true → (s.surface j).alive = true →
    (s.surface i).window = (s.surface j).window → i = j

/-- Events of the registry move no plugin to another window. -/
theorem Consistent.setPlugins {s : Shell} (h : s.Consistent) {plugins : EmbedPlugin.SMap}
    (hplugins : plugins.Consistent) (hle : s.plugins.children ≤ plugins.children)
    (hparent : ∀ p < s.plugins.children,
      (plugins.child p).parentWindow = (s.plugins.child p).parentWindow) :
    ({ s with plugins := plugins } : Shell).Consistent where
  plugins := hplugins
  surface_lt := h.surface_lt
  plugin_lt i hi := (h.plugin_lt i hi).trans_le hle
  window i hi := (hparent _ (h.plugin_lt i hi)).trans (h.window i hi)
  unique := h.unique

theorem Consistent.createShellSurface {s : Shell} (h : s.Consistent) (w : ℕ) :
    (s.createShellSurface w).Consistent := by
  unfold Shell.createShellSurface
  split
  · exact h
  · rename_i hnone
    split
    · rename_i plugin hplugin
      have hwithout (i : ℕ) (halive : (s.surface i).alive = true) : (s.surface i).window ≠ w := by
        intro hw
        apply hnone
        simp only [hasSurface, List.any_eq_true, List.mem_range]
        exact ⟨i, h.surface_lt i halive, by simp [halive, hw]⟩
      constructor
      · exact h.plugins
      · intro i halive
        by_cases hi : i = s.surfaces
        · simp [hi]
        · simp only [Function.update_of_ne hi] at halive
          exact Nat.lt_succ_of_lt (h.surface_lt i halive)
      · intro i hlt
        by_cases hi : i = s.surfaces
        · simpa [hi] using (h.plugins.bound_lt w plugin hplugin).2
        · simpa [hi] using h.plugin_lt i (Nat.lt_of_le_of_ne (Nat.le_of_lt_succ hlt) hi)
      · intro i hlt
        by_cases hi : i = s.surfaces
        · simpa [hi] using h.plugins.parentWindow w plugin hplugin
        · simpa [hi] using h.window i (Nat.lt_of_le_of_ne (Nat.le_of_lt_succ hlt) hi)
      · intro i j hi hj hsame
        simp only [Function.update_apply] at hi hj hsame
        split_ifs at hi hj hsame with hi' hj' hj'
        · rw [hi', hj']
        · exact absurd hsame.symm (hwithout j hj)
        · exact absurd hsame (hwithout i hi)
        · exact h.unique i j hi hj hsame
    · exact h

theorem Consistent.destroyShellSurface {s : Shell} (h : s.Consistent) (w : ℕ) :
    (s.destroyShellSurface w).Consistent := by
  have hkept (i : ℕ) : ((s.destroyShellSurface w).surface i).plugin = (s.surface i).plugin ∧
      ((s.destroyShellSurface w).surface i).window = (s.surface i).window := by
    dsimp only [Shell.destroyShellSurface]
    split <;> trivial
  have halive {i : ℕ} (hlive : ((s.destroyShellSurface w).surface i).alive = true) :
      (s.surface i).alive = true := by
    dsimp only [Shell.destroyShellSurface] at hlive
    split at hlive
    · simp at hlive
    · exact hlive
  constructor
  · exact h.plugins
  · intro i hlive
    exact h.surface_lt i (halive hlive)
  · intro i hlt
    rw [(hkept i).1]
    exact h.plugin_lt i hlt
  · intro i hlt
    rw [(hkept i).1, (hkept i).2]
    exact h.window i hlt
  · intro i j hi hj hsame
    rw [(hkept i).2, (hkept j).2] at hsame
    exact h.unique i j (halive hi) (halive hj) hsame

theorem Consistent.handleWindow {s : Shell} (h : s.Consistent) (e : WindowEvent) :
    (s.handleWindow e).Consistent := by
  have hplugins : ({ s with plugins := EmbedPlugin.step s.plugins e } : Shell).Consistent :=
    h.setPlugins (EmbedPlugin.step_consistent h.plugins e)
      (Registry.children_le_step EmbedPlugin.callbacks _ s.plugins e)
      fun p hp => (Registry.child_step EmbedPlugin.callbacks _ s.plugins e hp).1
  cases e with
  | showWindow w =>
    simp only [Shell.handleWindow]
    split
    · exact hplugins.createShellSurface w
    · exact hplugins
  | hideWindow w => exact hplugins.destroyShellSurface w
  | destroyWindow w => exact hplugins.destroyShellSurface w
  | _ => exact hplugins

/-- Every event keeps the shell consistent. -/
theorem Consistent.step {s : Shell} (h : s.Consistent) (e : ShellEvent) :
    (s.step e).Consistent := by
  cases e with
  | window e => exact h.handleWindow e
  | setData p data =>
    simp only [Shell.step]
    split
    · exact h.setPlugins (h.plugins.setData p data) le_rfl fun q _ => by simp
    · exact h
  | recreate w =>
    simp only [Shell.step]
    split
    · exact (h.destroyShellSurface w).createShellSurface w
    · exact h
  | post p msg =>
    simp only [Shell.step]
    split
    · exact ⟨h.plugins, h.surface_lt, h.plugin_lt, h.window, h.unique⟩
    · exact h
  | deliver n => exact ⟨h.plugins, h.surface_lt, h.plugin_lt, h.window, h.unique⟩
  | requestMessage p msg => exact h

theorem initial_consistent : initial.Consistent where
  plugins := Registry.initial_consistent _
  surface_lt i halive := by simp [initial] at halive
  plugin_lt i hlt := by simp [initial] at hlt
  window i hlt := by simp [initial] at hlt
  unique i j halive := by simp [initial] at halive

theorem mem_connected {s : Shell} {p i : ℕ} :
    i ∈ s.connected p ↔ i < s.surfaces ∧ (s.surface i).plugin = p := by
  simp [connected]

/-- A surface that was destroyed shows up in what its plugin emits. -/
theorem dangling_mem_forwards {s : Shell} {p i : ℕ} (msg : String) (hmem : i ∈ s.connected p)
    (hdead : ¬(s.surface i).alive = true) : .dangling i ∈ s.forwards p msg := by
  have hforward : s.forward msg i = .dangling i := by
    rw [forward, if_neg hdead]
  rw [← hforward]
  exact List.mem_map_of_mem hmem

/-- A plugin none of whose surfaces was destroyed has one surface at most. -/
theorem Consistent.connected_eq {s : Shell} (h : s.Consistent) {p i : ℕ}
    (hmem : i ∈ s.connected p) (hlive : ∀ j ∈ s.connected p, (s.surface j).alive = true) :
    s.connected p = [i] := by
  have hwindow {j : ℕ} (hj : j ∈ s.connected p) :
      (s.surface j).window = (s.plugins.child p).parentWindow := by
    obtain ⟨hlt, rfl⟩ := mem_connected.mp hj
    exact (h.window j hlt).symm
  have hall : ∀ j ∈ s.connected p, j = i := by
    intro j hj
    exact h.unique j i (hlive j hj) (hlive i hmem) ((hwindow hj).trans (hwindow hmem).symm)
  have hnodup : (s.connected p).Nodup := List.nodup_range.filter _
  have hsame := List.eq_replicate_of_mem hall
  have hpos := List.length_pos_of_mem hmem
  rw [hsame, List.nodup_replicate] at hnodup
  have hlength : (s.connected p).length = 1 := by omega
  rw [hsame, hlength]
  rfl

/-- An emission is forwarded as it should be exactly when its plugin has lost no surface. -/
theorem Consistent.forwardsOnce_iff {s : Shell} (h : s.Consistent) (e : ShellEvent) :
    s.ForwardsOnce e ↔ s.KeepsSurfaces e := by
  constructor
  · intro honce p msg hemits i hlt hplugin
    by_contra hdead
    have hmem := dangling_mem_forwards msg (mem_connected.mpr ⟨hlt, hplugin⟩) hdead
    obtain ⟨hsome, hnone⟩ := honce p msg hemits
    by_cases hlive : ∃ i < s.surfaces, (s.surface i).alive = true ∧ (s.surface i).plugin = p
    · rw [hsome hlive] at hmem
      simp at hmem
    · rw [hnone hlive] at hmem
      simp at hmem
  · intro hkept p msg hemits
    have hlive : ∀ i ∈ s.connected p, (s.surface i).alive = true := by
      intro i hi
      obtain ⟨hlt, hplugin⟩ := mem_connected.mp hi
      exact hkept p msg hemits i hlt hplugin
    constructor
    · intro hsome
      obtain ⟨i, hlt, halive, hplugin⟩ := hsome
      rw [forwards, h.connected_eq (mem_connected.mpr ⟨hlt, hplugin⟩) hlive]
      simp [forward, halive, hplugin]
    · intro hnone
      rw [forwards, List.map_eq_nil_iff, List.eq_nil_iff_forall_not_mem]
      intro i hi
      obtain ⟨hlt, hplugin⟩ := mem_connected.mp hi
      exact hnone ⟨i, hlt, hlive i hi, hplugin⟩

/-- Throughout a run, every message goes once through the live surface of its plugin, and nowhere
without one, exactly when no plugin emits `requestMessage` after a surface of it is gone. -/
theorem forwardsOnce_iff_keepsSurfaces (es : List ShellEvent) :
    Obeys step ForwardsOnce initial es ↔ Obeys step KeepsSurfaces initial es :=
  obeys_congr (fun _ e h => h.step e) (fun _ e h => h.forwardsOnce_iff e) es initial_consistent

/-- A card is hidden before the message that was posted when it was shown is delivered. -/
theorem not_forwardsOnce :
    ¬Obeys step ForwardsOnce initial [.window .createWindow, .window (.get 0),
      .window (.showWindow 0), .post 0 "order", .window (.hideWindow 0), .deliver 0] := by
  intro honce
  obtain ⟨-, -, -, -, -, hlast, -⟩ := honce
  have hforwards := (hlast 0 "order" (by decide)).2 (by decide)
  exact absurd hforwards (by decide)

end Shell

end DdeTrayLoader.Plugin
