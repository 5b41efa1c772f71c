import DdeTrayLoader.Transition.Run
import Mathlib.Data.Finset.Basic

/-!
# Heights that are held back

The dock tells a plugin how high its applet must be. `WidgetPlugin` passes a message of the dock on
at once, except such a height while the applet is visible: that one is held back until the applet
is shown the next time, and only the newest is.

Messages are numbered in the order of their arrival, and every message that reaches the plugin
keeps its number, so that one can be told from another with the same text.
-/

namespace DdeTrayLoader.Plugin

open Transition

/-- `MSG_SET_APPLET_MIN_HEIGHT`. -/
def msgSetAppletMinHeight : String := "setAppletMinHeight"

/-- How a message is read: the string under `MSG_TYPE` of its root object. A message that is no
object has none. -/
structure MessageReader where
  msgType : String → String
  msgType_empty : msgType "" = ""

/-- The message sets the minimal height of the applet. -/
def MessageReader.IsMinHeight (reader : MessageReader) (message : String) : Prop :=
  reader.msgType message = msgSetAppletMinHeight

instance (reader : MessageReader) : DecidablePred reader.IsMinHeight :=
  fun message => inferInstanceAs (Decidable (reader.msgType message = msgSetAppletMinHeight))

/-- A message with its number. -/
abbrev Numbered : Type := ℕ × String

/-- The applet that a `WidgetPlugin` tracks, and the message that waits for it. `visible` and
`filtered` are the widgets that are visible and those whose events it sees. The last three are
bookkeeping: the messages that arrived, the number of the one that waits, and the messages that
reached the plugin. -/
structure TrackedApplet where
  appletWidget : Option ℕ
  pendingAppletMinHeightMsg : String
  visible : Finset ℕ
  filtered : Finset ℕ
  arrived : List Numbered
  pendingNumber : ℕ
  delivered : List Numbered

/-- What happens to the plugin and its widgets. -/
inductive AppletEvent where
  | eventMessageArrived (message : String)
  | trackAppletWidget (applet : Option ℕ)
  | shown (widget : ℕ)
  | hidden (widget : ℕ)
  | destroyed (widget : ℕ)

/-- The message that an event brings. -/
def AppletEvent.message? : AppletEvent → Option String
  | .eventMessageArrived message => some message
  | _ => none

namespace TrackedApplet

/-- No applet, and no message. -/
def initial : TrackedApplet := ⟨none, "", ∅, ∅, [], 0, []⟩

/-- `m_appletWidget && m_appletWidget->isVisible()`. -/
def AppletVisible (s : TrackedApplet) : Prop := ∃ widget ∈ s.appletWidget, widget ∈ s.visible

instance (s : TrackedApplet) : Decidable s.AppletVisible :=
  inferInstanceAs (Decidable (∃ widget ∈ s.appletWidget, widget ∈ s.visible))

/-- `message` of the plugin. -/
def message (s : TrackedApplet) (numbered : Numbered) : TrackedApplet :=
  { s with delivered := s.delivered ++ [numbered] }

/-- `onDockEventMessageArrived`, for a plugin that takes messages. -/
def onDockEventMessageArrived (reader : MessageReader) (s : TrackedApplet) (message : String) :
    TrackedApplet :=
  let number := s.arrived.length
  let s := { s with arrived := s.arrived ++ [(number, message)] }
  if reader.IsMinHeight message then
    if s.AppletVisible then
      { s with pendingAppletMinHeightMsg := message, pendingNumber := number }
    else { s with pendingAppletMinHeightMsg := "" }.message (number, message)
  else s.message (number, message)

def trackAppletWidget (s : TrackedApplet) : Option ℕ → TrackedApplet
  | none => s
  | some applet =>
    if s.appletWidget = some applet then s
    else
      let filtered := s.appletWidget.elim s.filtered s.filtered.erase
      { s with appletWidget := some applet, filtered := insert applet filtered }

def flushPendingAppletMinHeight (s : TrackedApplet) : TrackedApplet :=
  if s.pendingAppletMinHeightMsg = "" then s
  else
    { s with pendingAppletMinHeightMsg := "" }.message
      (s.pendingNumber, s.pendingAppletMinHeightMsg)

/-- `eventFilter`, for a `Show` event. -/
def eventFilter (s : TrackedApplet) (watched : ℕ) : TrackedApplet :=
  if s.appletWidget = some watched then s.flushPendingAppletMinHeight else s

/-- A widget is shown; it is visible when its `Show` event is sent. -/
def shown (s : TrackedApplet) (widget : ℕ) : TrackedApplet :=
  let s := { s with visible := insert widget s.visible }
  if widget ∈ s.filtered then s.eventFilter widget else s

/-- A widget is destroyed, which clears the pointer to it. -/
def destroyed (s : TrackedApplet) (widget : ℕ) : TrackedApplet :=
  { s with
    appletWidget := if s.appletWidget = some widget then none else s.appletWidget
    visible := s.visible.erase widget
    filtered := s.filtered.erase widget }

def step (reader : MessageReader) (s : TrackedApplet) : AppletEvent → TrackedApplet
  | .eventMessageArrived message => s.onDockEventMessageArrived reader message
  | .trackAppletWidget applet => s.trackAppletWidget applet
  | .shown widget => s.shown widget
  | .hidden widget => { s with visible := s.visible.erase widget }
  | .destroyed widget => s.destroyed widget

/-- The heights among some messages. -/
def heights (reader : MessageReader) (messages : List Numbered) : List Numbered :=
  messages.filter fun numbered => reader.IsMinHeight numbered.2

/-- The other messages. -/
def others (reader : MessageReader) (messages : List Numbered) : List Numbered :=
  messages.filter fun numbered => ¬reader.IsMinHeight numbered.2

/-- The message that waits, with its number. -/
def pending (s : TrackedApplet) : List Numbered :=
  if s.pendingAppletMinHeightMsg = "" then []
  else [(s.pendingNumber, s.pendingAppletMinHeightMsg)]

/-- The event neither brings a newer height nor shows the applet. -/
def Waits (reader : MessageReader) (s : TrackedApplet) : AppletEvent → Prop
  | .eventMessageArrived message => ¬reader.IsMinHeight message
  | .shown widget => s.appletWidget ≠ some widget
  | _ => True

/-! ## What a step does to the messages -/

variable {reader : MessageReader} {s s' : TrackedApplet}

/-- What a step does: nothing, pass another message on, pass a height on, hold a height back, or
deliver the one that waits. -/
inductive StepTo (reader : MessageReader) (s s' : TrackedApplet) : Prop
  | still (harrived : s'.arrived = s.arrived) (hdelivered : s'.delivered = s.delivered)
      (hpending : s'.pending = s.pending)
  | other (message : String) (hother : ¬reader.IsMinHeight message)
      (harrived : s'.arrived = s.arrived ++ [(s.arrived.length, message)])
      (hdelivered : s'.delivered = s.delivered ++ [(s.arrived.length, message)])
      (hpending : s'.pending = s.pending)
  | atOnce (message : String) (hheight : reader.IsMinHeight message)
      (harrived : s'.arrived = s.arrived ++ [(s.arrived.length, message)])
      (hdelivered : s'.delivered = s.delivered ++ [(s.arrived.length, message)])
      (hpending : s'.pending = [])
  | held (message : String) (hheight : reader.IsMinHeight message)
      (harrived : s'.arrived = s.arrived ++ [(s.arrived.length, message)])
      (hdelivered : s'.delivered = s.delivered)
      (hpending : s'.pending = [(s.arrived.length, message)])
  | flushed (harrived : s'.arrived = s.arrived)
      (hdelivered : s'.delivered = s.delivered ++ s.pending)
      (hpending : s'.pending = [])

/-- A height is a message with a type, so it is not empty. -/
theorem isMinHeight_ne_empty {message : String} (h : reader.IsMinHeight message) :
    message ≠ "" := by
  rintro rfl
  unfold MessageReader.IsMinHeight at h
  rw [reader.msgType_empty] at h
  exact absurd h (by decide)

/-- What arrives while the applet is visible. -/
theorem arrived_held {message : String} (hheight : reader.IsMinHeight message)
    (hvisible : s.AppletVisible) :
    s.onDockEventMessageArrived reader message =
      { s with
        arrived := s.arrived ++ [(s.arrived.length, message)]
        pendingAppletMinHeightMsg := message
        pendingNumber := s.arrived.length } := by
  unfold onDockEventMessageArrived
  rw [if_pos hheight]
  exact if_pos hvisible

/-- What arrives while it is not. -/
theorem arrived_hidden {message : String} (hheight : reader.IsMinHeight message)
    (hhidden : ¬s.AppletVisible) :
    s.onDockEventMessageArrived reader message =
      { s with
        arrived := s.arrived ++ [(s.arrived.length, message)]
        pendingAppletMinHeightMsg := ""
        delivered := s.delivered ++ [(s.arrived.length, message)] } := by
  unfold onDockEventMessageArrived
  rw [if_pos hheight]
  exact if_neg hhidden

/-- A message that is not held back reaches the plugin at once. -/
theorem arrived_delivered {message : String}
    (h : ¬(reader.IsMinHeight message ∧ s.AppletVisible)) :
    (s.onDockEventMessageArrived reader message).delivered =
      s.delivered ++ [(s.arrived.length, message)] := by
  by_cases hheight : reader.IsMinHeight message
  · rw [arrived_hidden hheight fun hvisible => h ⟨hheight, hvisible⟩]
  · unfold onDockEventMessageArrived
    rw [if_neg hheight]
    rfl

theorem pending_flush : s.flushPendingAppletMinHeight.pending = [] := by
  unfold flushPendingAppletMinHeight
  split_ifs with hempty
  · exact if_pos hempty
  · exact if_pos rfl

theorem delivered_flush : s.flushPendingAppletMinHeight.delivered = s.delivered ++ s.pending := by
  unfold flushPendingAppletMinHeight pending
  split_ifs with hempty
  · rw [List.append_nil]
  · rfl

theorem arrived_flush : s.flushPendingAppletMinHeight.arrived = s.arrived := by
  unfold flushPendingAppletMinHeight
  split_ifs <;> rfl

theorem stepTo_arrived (message : String) :
    StepTo reader s (s.onDockEventMessageArrived reader message) := by
  by_cases hheight : reader.IsMinHeight message
  · by_cases hvisible : s.AppletVisible
    · rw [arrived_held hheight hvisible]
      exact .held message hheight rfl rfl (if_neg (isMinHeight_ne_empty hheight))
    · rw [arrived_hidden hheight hvisible]
      exact .atOnce message hheight rfl rfl (if_pos rfl)
  · have hnot : ¬(reader.IsMinHeight message ∧ s.AppletVisible) := fun h => hheight h.1
    refine .other message hheight ?_ (arrived_delivered hnot) ?_
    · unfold onDockEventMessageArrived
      rw [if_neg hheight]
      rfl
    · unfold onDockEventMessageArrived
      rw [if_neg hheight]
      rfl

theorem stepTo_step (e : AppletEvent) : StepTo reader s (step reader s e) := by
  cases e with
  | eventMessageArrived message => exact stepTo_arrived message
  | trackAppletWidget applet =>
    cases applet with
    | none => exact .still rfl rfl rfl
    | some applet =>
      simp only [step, trackAppletWidget]
      split_ifs
      · exact .still rfl rfl rfl
      · exact .still rfl rfl rfl
  | shown widget =>
    simp only [step, shown, eventFilter]
    split_ifs
    · exact .flushed arrived_flush delivered_flush pending_flush
    · exact .still rfl rfl rfl
    · exact .still rfl rfl rfl
  | hidden widget => exact .still rfl rfl rfl
  | destroyed widget => exact .still rfl rfl rfl

/-! ## The order of the messages -/

/-- What holds of the messages after any events. -/
structure Ordered (reader : MessageReader) (s : TrackedApplet) : Prop where
  numbered : s.arrived.Pairwise fun first second => first.1 < second.1
  below : ∀ numbered ∈ s.arrived, numbered.1 < s.arrived.length
  heights : (heights reader s.delivered ++ s.pending).Sublist (heights reader s.arrived)
  others : others reader s.delivered = others reader s.arrived

theorem ordered_initial : Ordered reader initial :=
  ⟨.nil, fun _ h => (List.not_mem_nil h).elim, .slnil, rfl⟩

theorem Ordered.arrived (h : Ordered reader s) (message : String) :
    (s.arrived ++ [(s.arrived.length, message)]).Pairwise
        (fun first second => first.1 < second.1) ∧
      ∀ numbered ∈ s.arrived ++ [(s.arrived.length, message)],
        numbered.1 < (s.arrived ++ [(s.arrived.length, message)]).length := by
  constructor
  · rw [List.pairwise_append]
    refine ⟨h.numbered, List.pairwise_singleton _ _, ?_⟩
    intro first hfirst second hsecond
    rw [List.mem_singleton.mp hsecond]
    exact h.below first hfirst
  · intro numbered hnumbered
    rw [List.length_append, List.length_singleton]
    rw [List.mem_append, List.mem_singleton] at hnumbered
    obtain hold | rfl := hnumbered
    · exact Nat.lt_succ_of_lt (h.below numbered hold)
    · exact Nat.lt_succ_self _

theorem heights_append (first second : List Numbered) :
    TrackedApplet.heights reader (first ++ second) =
      TrackedApplet.heights reader first ++ TrackedApplet.heights reader second :=
  List.filter_append ..

theorem others_append (first second : List Numbered) :
    TrackedApplet.others reader (first ++ second) =
      TrackedApplet.others reader first ++ TrackedApplet.others reader second :=
  List.filter_append ..

theorem heights_singleton {message : String} (h : reader.IsMinHeight message) (number : ℕ) :
    TrackedApplet.heights reader [(number, message)] = [(number, message)] := by
  simp [TrackedApplet.heights, h]

theorem others_singleton_of_height {message : String} (h : reader.IsMinHeight message)
    (number : ℕ) : TrackedApplet.others reader [(number, message)] = [] := by
  simp [TrackedApplet.others, h]

theorem heights_singleton_of_other {message : String} (h : ¬reader.IsMinHeight message)
    (number : ℕ) : TrackedApplet.heights reader [(number, message)] = [] := by
  simp [TrackedApplet.heights, h]

/-- What is delivered without what waits. -/
theorem Ordered.heights_delivered (h : Ordered reader s) :
    (TrackedApplet.heights reader s.delivered).Sublist
      (TrackedApplet.heights reader s.arrived) :=
  (List.sublist_append_left _ _).trans h.heights

/-- Every step keeps the order. -/
theorem Ordered.stepTo (h : Ordered reader s) (hstep : StepTo reader s s') :
    Ordered reader s' := by
  cases hstep with
  | still harrived hdelivered hpending =>
    refine ⟨?_, ?_, ?_, ?_⟩
    · rw [harrived]; exact h.numbered
    · rw [harrived]; exact h.below
    · rw [harrived, hdelivered, hpending]; exact h.heights
    · rw [harrived, hdelivered]; exact h.others
  | other message hother harrived hdelivered hpending =>
    refine ⟨?_, ?_, ?_, ?_⟩
    · rw [harrived]; exact (h.arrived message).1
    · rw [harrived]; exact (h.arrived message).2
    · rw [harrived, hdelivered, hpending, heights_append, heights_append,
        heights_singleton_of_other hother, List.append_nil, List.append_nil]
      exact h.heights
    · rw [harrived, hdelivered, others_append, others_append, h.others]
  | atOnce message hheight harrived hdelivered hpending =>
    refine ⟨?_, ?_, ?_, ?_⟩
    · rw [harrived]; exact (h.arrived message).1
    · rw [harrived]; exact (h.arrived message).2
    · rw [harrived, hdelivered, hpending, heights_append, heights_append, List.append_nil]
      exact h.heights_delivered.append (List.Sublist.refl _)
    · rw [harrived, hdelivered, others_append, others_append, h.others]
  | held message hheight harrived hdelivered hpending =>
    refine ⟨?_, ?_, ?_, ?_⟩
    · rw [harrived]; exact (h.arrived message).1
    · rw [harrived]; exact (h.arrived message).2
    · rw [harrived, hdelivered, hpending, heights_append, heights_singleton hheight]
      exact h.heights_delivered.append (List.Sublist.refl _)
    · rw [harrived, hdelivered, others_append, others_singleton_of_height hheight,
        List.append_nil, h.others]
  | flushed harrived hdelivered hpending =>
    have hwaiting : (s.pending).Sublist (TrackedApplet.heights reader s.arrived) :=
      (List.sublist_append_right _ _).trans h.heights
    have hheights : ∀ numbered ∈ s.pending, reader.IsMinHeight numbered.2 := by
      intro numbered hnumbered
      exact of_decide_eq_true (List.mem_filter.mp (hwaiting.mem hnumbered)).2
    have hall : TrackedApplet.heights reader s.pending = s.pending :=
      List.filter_eq_self.mpr fun numbered hnumbered =>
        decide_eq_true (hheights numbered hnumbered)
    have hnone : TrackedApplet.others reader s.pending = [] :=
      List.filter_eq_nil_iff.mpr fun numbered hnumbered hother =>
        of_decide_eq_true hother (hheights numbered hnumbered)
    refine ⟨?_, ?_, ?_, ?_⟩
    · rw [harrived]; exact h.numbered
    · rw [harrived]; exact h.below
    · rw [harrived, hdelivered, hpending, heights_append, hall, List.append_nil]
      exact h.heights
    · rw [harrived, hdelivered, others_append, hnone, List.append_nil]
      exact h.others

/-! ## A height that is held back -/

/-- The tracked applet is filtered. -/
def Filtered (s : TrackedApplet) : Prop := ∀ widget ∈ s.appletWidget, widget ∈ s.filtered

/-- Only tracking and destroying change what is tracked and what is filtered. -/
theorem Filtered.congr (h : s.Filtered) (happlet : s'.appletWidget = s.appletWidget)
    (hfiltered : s'.filtered = s.filtered) : s'.Filtered := by
  unfold Filtered
  rw [happlet, hfiltered]
  exact h

theorem flush_tracking : s.flushPendingAppletMinHeight.appletWidget = s.appletWidget ∧
    s.flushPendingAppletMinHeight.filtered = s.filtered := by
  unfold flushPendingAppletMinHeight
  split_ifs
  · exact ⟨rfl, rfl⟩
  · exact ⟨rfl, rfl⟩

theorem arrived_tracking (message : String) :
    (s.onDockEventMessageArrived reader message).appletWidget = s.appletWidget ∧
      (s.onDockEventMessageArrived reader message).filtered = s.filtered := by
  unfold onDockEventMessageArrived
  dsimp only
  split_ifs
  · exact ⟨rfl, rfl⟩
  · exact ⟨rfl, rfl⟩
  · exact ⟨rfl, rfl⟩

theorem Filtered.step (h : s.Filtered) (e : AppletEvent) :
    (TrackedApplet.step reader s e).Filtered := by
  cases e with
  | eventMessageArrived message =>
    exact h.congr (arrived_tracking message).1 (arrived_tracking message).2
  | trackAppletWidget applet =>
    cases applet with
    | none => exact h
    | some applet =>
      simp only [TrackedApplet.step, trackAppletWidget]
      split_ifs
      · exact h
      · intro widget hwidget
        rw [← Option.some.inj hwidget]
        exact Finset.mem_insert_self _ _
  | shown widget =>
    simp only [TrackedApplet.step, shown, eventFilter]
    split_ifs
    · exact h.congr flush_tracking.1 flush_tracking.2
    · exact h
    · exact h
  | hidden widget => exact h
  | destroyed widget =>
    intro applet happlet
    simp only [TrackedApplet.step, destroyed] at happlet ⊢
    split_ifs at happlet with hsame
    · cases happlet
    · have hne : applet ≠ widget := by
        rintro rfl
        exact hsame happlet
      exact Finset.mem_erase.mpr ⟨hne, h applet happlet⟩

/-- What waits is delivered when the applet is shown. -/
theorem delivered_shown (h : s.Filtered) {widget : ℕ} (hwidget : s.appletWidget = some widget) :
    (s.shown widget).delivered = s.delivered ++ s.pending := by
  unfold shown eventFilter
  dsimp only
  rw [if_pos (h widget hwidget), if_pos hwidget]
  exact delivered_flush

/-- An event that a height waits through leaves it waiting. -/
theorem pending_of_waits {e : AppletEvent} (hwaits : Waits reader s e) :
    (step reader s e).pending = s.pending := by
  cases e with
  | eventMessageArrived message =>
    simp only [step, onDockEventMessageArrived]
    rw [if_neg hwaits]
    rfl
  | trackAppletWidget applet =>
    cases applet with
    | none => rfl
    | some applet =>
      simp only [step, trackAppletWidget]
      split_ifs
      · rfl
      · rfl
  | shown widget =>
    simp only [step, shown, eventFilter]
    rw [if_neg hwaits, ite_self]
    rfl
  | hidden widget => rfl
  | destroyed widget => rfl

/-- A message that was replaced: it neither waits nor has been delivered. -/
structure Superseded (numbered : Numbered) (s : TrackedApplet) : Prop where
  old : numbered.1 < s.arrived.length
  waiting : numbered ∉ s.pending
  delivered : numbered ∉ s.delivered

/-- It stays so. -/
theorem Superseded.stepTo {numbered : Numbered} (h : Superseded numbered s)
    (hstep : StepTo reader s s') : Superseded numbered s' := by
  have hnew : ∀ message : String, numbered ≠ (s.arrived.length, message) := by
    rintro message rfl
    exact lt_irrefl _ h.old
  have hold : ∀ message : String,
      numbered.1 < (s.arrived ++ [(s.arrived.length, message)]).length := by
    intro message
    rw [List.length_append]
    exact Nat.lt_add_right _ h.old
  cases hstep with
  | still harrived hdelivered hpending =>
    exact ⟨harrived ▸ h.old, hpending ▸ h.waiting, hdelivered ▸ h.delivered⟩
  | other message hother harrived hdelivered hpending =>
    refine ⟨harrived ▸ hold message, hpending ▸ h.waiting, ?_⟩
    rw [hdelivered, List.mem_append, List.mem_singleton, not_or]
    exact ⟨h.delivered, hnew message⟩
  | atOnce message hheight harrived hdelivered hpending =>
    refine ⟨harrived ▸ hold message, hpending ▸ List.not_mem_nil, ?_⟩
    rw [hdelivered, List.mem_append, List.mem_singleton, not_or]
    exact ⟨h.delivered, hnew message⟩
  | held message hheight harrived hdelivered hpending =>
    refine ⟨harrived ▸ hold message, ?_, hdelivered ▸ h.delivered⟩
    rw [hpending, List.mem_singleton]
    exact hnew message
  | flushed harrived hdelivered hpending =>
    refine ⟨harrived ▸ h.old, hpending ▸ List.not_mem_nil, ?_⟩
    rw [hdelivered, List.mem_append, not_or]
    exact ⟨h.delivered, h.waiting⟩

/-- What waits is a height that arrived. -/
theorem Ordered.mem_heights (h : Ordered reader s) {numbered : Numbered}
    (hpending : s.pending = [numbered]) :
    numbered ∈ TrackedApplet.heights reader s.arrived := by
  apply h.heights.mem
  rw [hpending]
  exact List.mem_append_right _ (List.mem_singleton_self _)

/-- What waits has not been delivered. -/
theorem Ordered.not_delivered (h : Ordered reader s) {numbered : Numbered}
    (hpending : s.pending = [numbered]) : numbered ∉ s.delivered := by
  intro hdelivered
  have hnodup : (TrackedApplet.heights reader s.delivered ++ s.pending).Nodup := by
    have harrived : s.arrived.Nodup :=
      h.numbered.imp fun {first second} hlt heq => absurd (heq ▸ hlt) (lt_irrefl _)
    exact h.heights.nodup (harrived.filter _)
  have hheight := (List.mem_filter.mp (h.mem_heights hpending)).2
  rw [hpending, List.nodup_append] at hnodup
  exact hnodup.2.2 numbered (List.mem_filter.mpr ⟨hdelivered, hheight⟩) numbered
    (List.mem_singleton_self _) rfl

/-- A newer height replaces the one that waits. -/
theorem Ordered.superseded (h : Ordered reader s) {numbered : Numbered}
    (hpending : s.pending = [numbered]) {newer : String} (hnewer : reader.IsMinHeight newer) :
    Superseded numbered (s.onDockEventMessageArrived reader newer) := by
  have hnot : numbered ∉ s.delivered := h.not_delivered hpending
  have hlt : numbered.1 < s.arrived.length :=
    h.below numbered (List.mem_filter.mp (h.mem_heights hpending)).1
  have hne : numbered ≠ (s.arrived.length, newer) := by
    rintro rfl
    exact lt_irrefl _ hlt
  have hlonger : ∀ message : String,
      numbered.1 < (s.arrived ++ [(s.arrived.length, message)]).length := by
    intro message
    rw [List.length_append]
    exact Nat.lt_add_right _ hlt
  by_cases hvisible : s.AppletVisible
  · rw [arrived_held hnewer hvisible]
    refine ⟨hlonger newer, ?_, hnot⟩
    have hwaits : ({ s with
        arrived := s.arrived ++ [(s.arrived.length, newer)]
        pendingAppletMinHeightMsg := newer
        pendingNumber := s.arrived.length } : TrackedApplet).pending =
          [(s.arrived.length, newer)] := if_neg (isMinHeight_ne_empty hnewer)
    rw [hwaits, List.mem_singleton]
    exact hne
  · rw [arrived_hidden hnewer hvisible]
    refine ⟨hlonger newer, List.not_mem_nil, ?_⟩
    rw [List.mem_append, List.mem_singleton, not_or]
    exact ⟨hnot, hne⟩

/-- The messages that arrived are those of the events, in their order. -/
theorem arrived_run (es : List AppletEvent) (s : TrackedApplet) :
    (run (step reader) s es).arrived.map Prod.snd =
      s.arrived.map Prod.snd ++ es.filterMap AppletEvent.message? := by
  induction es generalizing s with
  | nil => rw [run_nil, List.filterMap_nil, List.append_nil]
  | cons e es ih =>
    rw [run_cons, ih]
    have hstep : (step reader s e).arrived.map Prod.snd =
        s.arrived.map Prod.snd ++ e.message?.toList := by
      cases e with
      | eventMessageArrived message =>
        have harrived : (s.onDockEventMessageArrived reader message).arrived =
            s.arrived ++ [(s.arrived.length, message)] := by
          unfold onDockEventMessageArrived
          dsimp only
          split_ifs <;> rfl
        simp only [step, harrived, List.map_append]
        rfl
      | trackAppletWidget applet =>
        cases applet with
        | none => exact (List.append_nil _).symm
        | some applet =>
          simp only [step, trackAppletWidget]
          split_ifs
          · exact (List.append_nil _).symm
          · exact (List.append_nil _).symm
      | shown widget =>
        simp only [step, shown, eventFilter]
        split_ifs
        · rw [arrived_flush]
          exact (List.append_nil _).symm
        · exact (List.append_nil _).symm
        · exact (List.append_nil _).symm
      | hidden widget => exact (List.append_nil _).symm
      | destroyed widget => exact (List.append_nil _).symm
    rw [hstep, List.append_assoc]
    cases e with
    | eventMessageArrived message => rfl
    | _ => rfl

/-- After any events: the heights that reached the plugin are, in order and each once, some of those
that arrived; every other message reached it, in order. A message reaches it at once unless it is
a height and the applet is visible. Such a height waits until the applet is shown, and reaches the
plugin then, or until a newer height arrives, and never reaches it then. -/
theorem heights_held_back (reader : MessageReader) (es : List AppletEvent) :
    let s := run (step reader) initial es
    s.arrived.map Prod.snd = es.filterMap AppletEvent.message? ∧
    (s.arrived.Pairwise fun first second => first.1 < second.1) ∧
    (heights reader s.delivered).Sublist (heights reader s.arrived) ∧
    others reader s.delivered = others reader s.arrived ∧
    (∀ message, ¬(reader.IsMinHeight message ∧ s.AppletVisible) →
      (step reader s (.eventMessageArrived message)).delivered =
        s.delivered ++ [(s.arrived.length, message)]) ∧
    ∀ message, reader.IsMinHeight message → s.AppletVisible →
      let numbered := (s.arrived.length, message)
      let held := step reader s (.eventMessageArrived message)
      ∀ later, Obeys (step reader) (Waits reader) held later →
        let t := run (step reader) held later
        t.pending = [numbered] ∧ numbered ∉ t.delivered ∧
        (∀ widget ∈ t.appletWidget,
          (step reader t (.shown widget)).delivered = t.delivered ++ [numbered]) ∧
        ∀ newer, reader.IsMinHeight newer → ∀ last, numbered ∉
          (run (step reader) (step reader t (.eventMessageArrived newer)) last).delivered := by
  intro s
  have hordered : Ordered reader s :=
    run_invariant (I := Ordered reader) (fun _ e h => h.stepTo (stepTo_step e)) es ordered_initial
  have hfiltered : s.Filtered :=
    run_invariant (I := Filtered) (fun _ e h => h.step e) es fun _ h => by cases h
  refine ⟨arrived_run es initial, hordered.numbered, hordered.heights_delivered, hordered.others,
    fun message => arrived_delivered, ?_⟩
  intro message hheight hvisible numbered held later hlater t
  have hheld : held.pending = [numbered] := by
    simp only [held, step]
    rw [arrived_held hheight hvisible]
    exact if_neg (isMinHeight_ne_empty hheight)
  have hpending : t.pending = [numbered] :=
    run_invariant_of_obeys (I := fun s' : TrackedApplet => s'.pending = [numbered])
      (fun _ _ h hwaits => (pending_of_waits hwaits).trans h) hheld hlater
  have htordered : Ordered reader t :=
    run_invariant (I := Ordered reader) (fun _ e h => h.stepTo (stepTo_step e)) later
      (hordered.stepTo (stepTo_step _))
  have htfiltered : t.Filtered :=
    run_invariant (I := Filtered) (fun _ e h => h.step e) later (hfiltered.step _)
  refine ⟨hpending, htordered.not_delivered hpending, ?_, ?_⟩
  · intro widget hwidget
    exact (delivered_shown htfiltered hwidget).trans (by rw [hpending])
  · intro newer hnewer last
    have hsuperseded := htordered.superseded hpending hnewer
    have hstep : ∀ s' e, Superseded numbered s' → Superseded numbered (step reader s' e) :=
      fun _ e h => h.stepTo (stepTo_step e)
    have hlast : Superseded numbered
        (run (step reader) (step reader t (.eventMessageArrived newer)) last) :=
      run_invariant hstep last hsuperseded
    exact hlast.delivered

/-- A height arrives while the applet is visible, and reaches the plugin when it is shown again. -/
example : (run (step ⟨id, rfl⟩) initial
    [.trackAppletWidget (some 1), .shown 1, .eventMessageArrived msgSetAppletMinHeight,
      .hidden 1, .eventMessageArrived "pluginProperty", .shown 1]).delivered =
    [(1, "pluginProperty"), (0, msgSetAppletMinHeight)] := by decide

end TrackedApplet

end DdeTrayLoader.Plugin
