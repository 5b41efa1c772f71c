import DdeTrayLoader.Plugin.PluginSurface
import Mathlib.Data.Option.Basic

/-!
# Moving the windows of XEmbed icons

On Wayland, an XEmbed icon that is hovered or clicked asks the compositor to move its container
under the pointer, and waits in an event loop of its own until that is acknowledged, for three
seconds at most. In this loop other icons can be hovered, whose calls are nested in it.

An acknowledgement does not say which request it is for: the manager's `xembedWindowMoved` is
relayed to every `EmbedPlugin` that has had a surface, and wakes all calls that wait.
-/

namespace DdeTrayLoader.Plugin

open Transition Qt

/-- A `move_xembed_window` request. -/
structure MoveRequest where
  xembedWinId : ℕ
  pluginId : String
  itemKey : String
  deriving DecidableEq, Repr

/-- A call of `updateEmbedWindowPosForGetInputEvent` in its event loop. -/
structure MoveCall where
  plugin : ℕ
  /-- The request that it issued, if any, by the order of requests. -/
  request : Option ℕ
  /-- Its loop was told to quit. -/
  quit : Bool := false
  timerActive : Bool := true
  deriving DecidableEq, Repr

/-- The plugins and surfaces, the requests of which the compositor has acknowledged the first
`acked`, and the calls, innermost first. -/
structure Mover where
  shell : Shell
  requests : List MoveRequest
  acked : ℕ
  calls : List MoveCall

/-- What happens to the plugins, the calls and the requests. -/
inductive MoveEvent where
  | shell (e : ShellEvent)
  /-- A handler whose icon has the window calls it for its container. -/
  | updateEmbedWindowPosForGetInputEvent (w containerWid : ℕ)
  /-- The compositor acknowledges the oldest request that it has not. -/
  | xembedWindowMovedCallback
  /-- The timer of a call fires. -/
  | timeout (n : ℕ)
  /-- The innermost call returns, if its loop was told to quit. -/
  | finish
  deriving DecidableEq, Repr

namespace Mover

def initial : Mover := ⟨Shell.initial, [], 0, []⟩

/-- `moveXembedWindow` for each live surface of the plugin, whose connection lives with it. -/
def requestMoveXembedWindow (s : Shell) (p xembedWinId : ℕ) : List MoveRequest :=
  ((s.connected p).filter fun i => (s.surface i).alive).map fun i =>
    let plugin := (s.plugins.child (s.surface i).plugin).data
    ⟨xembedWinId, plugin.pluginId, plugin.itemKey⟩

/-- `updateEmbedWindowPosForGetInputEvent`, up to its event loop. -/
def updateEmbedWindowPosForGetInputEvent (s : Mover) (w containerWid : ℕ) : Mover :=
  let (plugins, plugin) := s.shell.plugins.get {} w
  let shell := { s.shell with plugins := plugins }
  let issued := requestMoveXembedWindow shell plugin containerWid
  { s with
    shell := shell
    requests := s.requests ++ issued
    calls :=
      { plugin := plugin, request := if issued = [] then none else some s.requests.length } ::
        s.calls }

/-- The plugin is told of `xembedWindowMoved`: the connection that a surface makes is between the
manager and the plugin. -/
def relays (s : Shell) (p : ℕ) : Bool :=
  (s.plugins.child p).alive && !(s.connected p).isEmpty

/-- `xembedWindowMovedCallback`. -/
def xembedWindowMovedCallback (s : Mover) : Mover :=
  if s.acked < s.requests.length then
    { s with
      acked := s.acked + 1
      calls := s.calls.map fun c => if relays s.shell c.plugin then { c with quit := true } else c }
  else s

def step (s : Mover) : MoveEvent → Mover
  | .shell e => { s with shell := s.shell.step e }
  | .updateEmbedWindowPosForGetInputEvent w containerWid =>
    if (s.shell.plugins.window w).alive then s.updateEmbedWindowPosForGetInputEvent w containerWid
    else s
  | .xembedWindowMovedCallback => s.xembedWindowMovedCallback
  | .timeout n =>
    { s with calls := s.calls.modify n fun c => { c with quit := true, timerActive := false } }
  | .finish =>
    match s.calls with
    | c :: calls => if c.quit then { s with calls := calls } else s
    | [] => s

/-- The request of the call was acknowledged. -/
def Acknowledged (s : Mover) (c : MoveCall) : Prop := ∃ n ∈ c.request, n < s.acked

/-- A call that returns before its timer has fired has its own request acknowledged. -/
def ReturnsAcknowledged (s : Mover) : MoveEvent → Prop
  | .finish => ∀ c ∈ s.calls.head?, c.quit = true → c.timerActive = true → s.Acknowledged c
  | _ => True

/-- When an acknowledgement comes in, no call that it wakes waits for a later one or for none. -/
def WaitsInOrder (s : Mover) : MoveEvent → Prop
  | .xembedWindowMovedCallback => s.acked < s.requests.length →
      ∀ c ∈ s.calls, relays s.shell c.plugin = true → c.timerActive = true →
        ∃ n ∈ c.request, n ≤ s.acked
  | _ => True

/-- Every call that was woken before its timer has its own request acknowledged. -/
def WokenAcknowledged (s : Mover) : Prop :=
  ∀ c ∈ s.calls, c.quit = true → c.timerActive = true → s.Acknowledged c

/-- An acknowledgement in order wakes the calls whose requests are acknowledged. -/
theorem WokenAcknowledged.callback {s : Mover} (h : s.WokenAcknowledged)
    (horder : s.WaitsInOrder .xembedWindowMovedCallback) :
    s.xembedWindowMovedCallback.WokenAcknowledged := by
  unfold xembedWindowMovedCallback
  split
  · rename_i hlt
    intro c hmem hquit htimer
    obtain ⟨c', hmem', rfl⟩ := List.mem_map.mp hmem
    split at hquit
    · rename_i hrelays
      rw [if_pos hrelays] at htimer ⊢
      obtain ⟨n, hn, hle⟩ := horder hlt c' hmem' hrelays htimer
      exact ⟨n, hn, Nat.lt_succ_of_le hle⟩
    · rename_i hrelays
      rw [if_neg hrelays] at htimer ⊢
      obtain ⟨n, hn, hacked⟩ := h c' hmem' hquit htimer
      exact ⟨n, hn, Nat.lt_succ_of_lt hacked⟩
  · exact h

/-- Calls are woken for their own acknowledgements exactly when these come in order. -/
theorem WokenAcknowledged.step_iff {s : Mover} (h : s.WokenAcknowledged) (e : MoveEvent) :
    (s.step e).WokenAcknowledged ↔ s.WaitsInOrder e := by
  cases e with
  | shell e => exact iff_of_true h trivial
  | updateEmbedWindowPosForGetInputEvent w containerWid =>
    apply iff_of_true _ trivial
    simp only [step]
    split
    · intro c hmem hquit htimer
      obtain rfl | hmem := List.mem_cons.mp hmem
      · simp at hquit
      · exact h c hmem hquit htimer
    · exact h
  | xembedWindowMovedCallback =>
    constructor
    · intro hnext hlt c hmem hrelays htimer
      simp only [step, xembedWindowMovedCallback, if_pos hlt] at hnext
      have hwoken := List.mem_map_of_mem (f := fun c : MoveCall =>
        if relays s.shell c.plugin then { c with quit := true } else c) hmem
      simp only [if_pos hrelays] at hwoken
      obtain ⟨n, hn, hacked⟩ := hnext _ hwoken rfl htimer
      exact ⟨n, hn, Nat.le_of_lt_succ hacked⟩
    · exact h.callback
  | timeout n =>
    apply iff_of_true _ trivial
    intro c hmem hquit htimer
    simp only [step, List.mem_iff_getElem?, List.getElem?_modify] at hmem
    obtain ⟨i, hi⟩ := hmem
    split at hi
    · obtain ⟨c', -, rfl⟩ := Option.map_eq_some_iff.mp hi
      simp at htimer
    · exact h c (List.mem_of_getElem? (by simpa using hi)) hquit htimer
  | finish =>
    apply iff_of_true _ trivial
    simp only [step]
    split
    · rename_i c calls hcalls
      split
      · intro c' hmem
        exact h c' (by rw [hcalls]; exact List.mem_cons_of_mem _ hmem)
      · exact h
    · exact h

/-- Throughout a run, calls are woken for their own acknowledgements exactly when each
acknowledgement finds no call that waits for a later one or for none. -/
theorem always_wokenAcknowledged_iff (es : List MoveEvent) :
    Always step WokenAcknowledged initial es ↔ Obeys step WaitsInOrder initial es := by
  apply always_iff_obeys (I := fun _ => True) (fun _ _ _ => trivial) _ es trivial
  · intro c hmem
    simp [initial] at hmem
  · intro s e _ h
    exact h.step_iff e

/-- In such a run, every call that returns before its timer fires has its own request
acknowledged. -/
theorem returnsAcknowledged (es : List MoveEvent) (horder : Obeys step WaitsInOrder initial es) :
    Obeys step ReturnsAcknowledged initial es := by
  apply obeys_of_always _ ((always_wokenAcknowledged_iff es).mpr horder)
  intro s e h
  cases e with
  | finish =>
    intro c hc
    exact h c (List.mem_of_mem_head? hc)
  | _ => trivial

/-- Two icons are bound and shown. -/
def twoIcons : List MoveEvent :=
  [.shell (.window .createWindow), .shell (.window (.get 0)), .shell (.window (.showWindow 0)),
    .shell (.window .createWindow), .shell (.window (.get 1)), .shell (.window (.showWindow 1))]

/-- The first icon is hovered, and the second one after the first request is acknowledged, in the
event loop of the first. -/
theorem returnsAcknowledged_nested :
    Obeys step ReturnsAcknowledged initial (twoIcons ++
      [.updateEmbedWindowPosForGetInputEvent 0 70, .xembedWindowMovedCallback,
        .updateEmbedWindowPosForGetInputEvent 1 71, .xembedWindowMovedCallback, .finish,
        .finish]) := by
  apply returnsAcknowledged
  refine ⟨trivial, trivial, trivial, trivial, trivial, trivial, trivial, ?_, trivial, ?_, trivial,
    trivial, trivial⟩
  · simp only [WaitsInOrder]
    decide
  · simp only [WaitsInOrder]
    decide

/-- The second icon is hovered before the first request is acknowledged, and returns then. -/
theorem not_returnsAcknowledged :
    ¬Obeys step ReturnsAcknowledged initial (twoIcons ++
      [.updateEmbedWindowPosForGetInputEvent 0 70, .updateEmbedWindowPosForGetInputEvent 1 71,
        .xembedWindowMovedCallback, .finish]) := by
  intro hreturns
  obtain ⟨-, -, -, -, -, -, -, -, -, hlast, -⟩ := hreturns
  simp only [ReturnsAcknowledged, Acknowledged] at hlast
  revert hlast
  decide

end Mover

end DdeTrayLoader.Plugin
