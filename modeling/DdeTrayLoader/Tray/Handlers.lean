import DdeTrayLoader.Tray.Util

/-!
# XEmbed handlers

The objects of class `XembedProtocolHandler`, by the order of their construction, with the
callbacks that refer to them and the shape records they leave in `Util`. A destroyed object
stays in the model with its members as they were, because callbacks that outlive it read
them.

Callbacks with the handler as their context die with it and are members of the object.
Those without are kept apart: the un-shape timers of clicks, and the nested event loops in
which a hover or a click waits on Wayland, innermost first.
-/

namespace DdeTrayLoader.Tray

/-- A handler object. `initQueued` and `iconTimer` are its queued initialisation and the
timer this arms; `incarnation` is bookkeeping: how many windows had used the id before. -/
structure XembedProtocolHandler where
  alive : Bool := false
  enabled : Bool := false
  owned : Bool := false
  windowId : Window := 0
  containerWid : Window := 0
  initQueued : Bool := false
  iconTimer : Bool := false
  incarnation : ℕ := 0
  deriving DecidableEq, Repr

/-- `ownsX11Window`. -/
def XembedProtocolHandler.ownsX11Window (handler : XembedProtocolHandler) (window : Window) :
    Bool :=
  handler.owned && (window == handler.windowId || window == handler.containerWid)

/-- A function of a handler that waits in a nested event loop. -/
inductive Waiting where
  | sendHover
  | sendClick
  deriving DecidableEq, Repr

/-- The handler objects, with the callbacks that do not die with them. `destroyed` counts the
windows of an id that have been destroyed. -/
structure Handlers where
  handler : ℕ → XembedProtocolHandler
  next : ℕ
  util : Util
  frames : List (ℕ × Waiting)
  unshapes : List ℕ
  destroyed : Window → ℕ

namespace Handlers

/-- No objects yet. -/
def initial : Handlers where
  handler _ := {}
  next := 0
  util := ⟨∅⟩
  frames := []
  unshapes := []
  destroyed _ := 0

/-- Change the members of an object. -/
def modify (h : Handlers) (ref : ℕ) (f : XembedProtocolHandler → XembedProtocolHandler) :
    Handlers :=
  { h with handler := Function.update h.handler ref (f (h.handler ref)) }

def setInputShape (h : Handlers) (window : Window) (size : QSize) : Handlers :=
  { h with util := (h.util.setX11WindowInputShape window size).1 }

def removeInputShapeRecord (h : Handlers) (window : Window) : Handlers :=
  { h with util := h.util.removeX11WindowInputShapeRecord window }

/-- `new XembedProtocolHandler(window)`, which becomes object `h.next`. -/
def construct (h : Handlers) (window : Window) : Handlers :=
  { h with
    handler := Function.update h.handler h.next
      { alive := true
        owned := true
        windowId := window
        initQueued := true
        incarnation := h.destroyed window }
    next := h.next + 1 }

/-- `~XembedProtocolHandler`. Queued calls and timers of the object are cancelled. -/
def destruct (h : Handlers) (ref : ℕ) : Handlers :=
  let handler := h.handler ref
  let h := if handler.containerWid ≠ 0 then h.removeInputShapeRecord handler.containerWid else h
  let h := h.removeInputShapeRecord handler.windowId
  h.modify ref fun handler =>
    { handler with alive := false, initQueued := false, iconTimer := false }

/-- `invalidate`. -/
def invalidate (h : Handlers) (ref : ℕ) : Handlers :=
  let handler := h.handler ref
  if !handler.owned then h
  else
    let h := h.modify ref fun handler => { handler with owned := false }
    let h := h.removeInputShapeRecord handler.windowId
    if handler.containerWid ≠ 0 then h.removeInputShapeRecord handler.containerWid else h

/-- `initX11resources`, which gets `container` from `xcb_generate_id`. -/
def initX11resources (h : Handlers) (ref : ℕ) (container : Window) : Handlers :=
  let h := h.modify ref fun handler =>
    { handler with initQueued := false, containerWid := container }
  let h := h.setInputShape container {}
  h.modify ref fun handler => { handler with iconTimer := true }

/-- The icon is captured 100 ms later; `enable` says whether it is there or wanted. -/
def iconCaptured (h : Handlers) (ref : ℕ) (enable : Bool) : Handlers :=
  h.modify ref fun handler => { handler with iconTimer := false, enabled := enable }

/-- The end of `updateEmbedWindowPosForGetInputEvent`, after the container has moved. -/
def embedWindowMoved (h : Handlers) (ref : ℕ) : Handlers :=
  h.setInputShape (h.handler ref).containerWid ⟨1, 1⟩

/-- What follows the nested event loop, or replaces it on X11, and what the caller goes on
with. -/
def resume (h : Handlers) (ref : ℕ) : Waiting → Handlers
  | .sendHover => h.embedWindowMoved ref
  | .sendClick =>
    let h := h.embedWindowMoved ref
    let h := h.setInputShape (h.handler ref).containerWid ⟨1, 1⟩
    { h with unshapes := h.unshapes ++ [ref] }

/-- `updateEmbedWindowPosForGetInputEvent` starts: on Wayland it waits in a nested event loop. -/
def wait (h : Handlers) (wayland : Bool) (ref : ℕ) (waiting : Waiting) : Handlers :=
  if wayland then { h with frames := (ref, waiting) :: h.frames } else h.resume ref waiting

/-- The innermost nested event loop quits. -/
def loopQuits (h : Handlers) : Handlers :=
  match h.frames with
  | [] => h
  | (ref, waiting) :: frames => { h with frames := frames }.resume ref waiting

/-- The `i`-th un-shape timer that is armed fires. -/
def unshape (h : Handlers) (i : ℕ) : Handlers :=
  match h.unshapes[i]? with
  | none => h
  | some ref =>
    { h with unshapes := h.unshapes.eraseIdx i }.setInputShape (h.handler ref).containerWid ⟨0, 0⟩

/-- `nativeEventFilter` on `XCB_LEAVE_NOTIFY`, with the registered handlers. -/
def leaveNotify (h : Handlers) (registered : List ℕ) (window : Window) : Handlers :=
  if registered.any fun ref => (h.handler ref).ownsX11Window window then
    h.setInputShape window ⟨0, 0⟩
  else h

/-- `nativeEventFilter` on `XCB_DESTROY_NOTIFY`, with the registered handlers in the order in
which they are searched. -/
def destroyNotify (h : Handlers) (registered : List ℕ) (window : Window) : Handlers :=
  let h := { h with destroyed := Function.update h.destroyed window (h.destroyed window + 1) }
  match registered.find? fun ref => (h.handler ref).ownsX11Window window with
  | some ref => h.invalidate ref
  | none => h

@[simp] theorem setInputShape_handler (h : Handlers) (window : Window) (size : QSize) :
    (h.setInputShape window size).handler = h.handler := rfl

@[simp] theorem removeInputShapeRecord_handler (h : Handlers) (window : Window) :
    (h.removeInputShapeRecord window).handler = h.handler := rfl

theorem modify_handler (h : Handlers) (ref ref' : ℕ)
    (f : XembedProtocolHandler → XembedProtocolHandler) :
    (h.modify ref f).handler ref' = if ref' = ref then f (h.handler ref) else h.handler ref' :=
  Function.update_apply _ _ _ _

theorem construct_handler (h : Handlers) (window : Window) (ref : ℕ) :
    (h.construct window).handler ref =
      if ref = h.next then
        { alive := true
          owned := true
          windowId := window
          initQueued := true
          incarnation := h.destroyed window }
      else h.handler ref := Function.update_apply _ _ _ _

theorem destruct_handler (h : Handlers) (ref ref' : ℕ) :
    (h.destruct ref).handler ref' =
      if ref' = ref then
        { h.handler ref with alive := false, initQueued := false, iconTimer := false }
      else h.handler ref' := by
  have hrecords : (if (h.handler ref).containerWid ≠ 0 then
      h.removeInputShapeRecord (h.handler ref).containerWid else h).handler = h.handler := by
    split <;> rfl
  unfold destruct
  dsimp only
  rw [modify_handler, removeInputShapeRecord_handler, hrecords]

theorem invalidate_handler (h : Handlers) (ref ref' : ℕ) :
    (h.invalidate ref).handler ref' =
      if ref' = ref then { h.handler ref with owned := false } else h.handler ref' := by
  unfold invalidate
  dsimp only
  by_cases hnot : (!(h.handler ref).owned) = true
  · have howned : (h.handler ref).owned = false := by simpa using hnot
    rw [if_pos hnot]
    split_ifs with href
    · rw [href, ← howned]
    · rfl
  · rw [if_neg hnot]
    by_cases hcontainer : (h.handler ref).containerWid ≠ 0
    · rw [if_pos hcontainer, removeInputShapeRecord_handler, removeInputShapeRecord_handler,
        modify_handler]
    · rw [if_neg hcontainer, removeInputShapeRecord_handler, modify_handler]

theorem initX11resources_handler (h : Handlers) (ref ref' : ℕ) (container : Window) :
    (h.initX11resources ref container).handler ref' =
      if ref' = ref then
        { h.handler ref with initQueued := false, containerWid := container, iconTimer := true }
      else h.handler ref' := by
  unfold initX11resources
  dsimp only
  rw [modify_handler, setInputShape_handler, modify_handler, modify_handler, if_pos rfl]
  split_ifs <;> rfl

theorem iconCaptured_handler (h : Handlers) (ref ref' : ℕ) (enable : Bool) :
    (h.iconCaptured ref enable).handler ref' =
      if ref' = ref then { h.handler ref with iconTimer := false, enabled := enable }
      else h.handler ref' := modify_handler _ _ _ _

/-- What the constructor, the destructor and `invalidate` leave alone. -/
structure CallbackFrame (h h' : Handlers) : Prop where
  frames : h'.frames = h.frames
  unshapes : h'.unshapes = h.unshapes
  destroyed : h'.destroyed = h.destroyed

theorem construct_frame (h : Handlers) (window : Window) : CallbackFrame h (h.construct window) :=
  ⟨rfl, rfl, rfl⟩

theorem destruct_frame (h : Handlers) (ref : ℕ) : CallbackFrame h (h.destruct ref) := by
  unfold destruct
  dsimp only
  split <;> exact ⟨rfl, rfl, rfl⟩

theorem invalidate_frame (h : Handlers) (ref : ℕ) : CallbackFrame h (h.invalidate ref) := by
  unfold invalidate
  dsimp only
  split_ifs <;> exact ⟨rfl, rfl, rfl⟩

@[simp] theorem destruct_next (h : Handlers) (ref : ℕ) : (h.destruct ref).next = h.next := by
  unfold destruct
  dsimp only
  split <;> rfl

@[simp] theorem invalidate_next (h : Handlers) (ref : ℕ) : (h.invalidate ref).next = h.next := by
  unfold invalidate
  dsimp only
  split_ifs <;> rfl

/-- What `nativeEventFilter` leaves alone on `XCB_DESTROY_NOTIFY`. -/
theorem destroyNotify_frame (h : Handlers) (registered : List ℕ) (window : Window) :
    (h.destroyNotify registered window).frames = h.frames ∧
    (h.destroyNotify registered window).unshapes = h.unshapes ∧
    (h.destroyNotify registered window).destroyed =
      Function.update h.destroyed window (h.destroyed window + 1) := by
  unfold destroyNotify
  dsimp only
  split
  · rename_i ref _
    have hframe := invalidate_frame
      { h with destroyed := Function.update h.destroyed window (h.destroyed window + 1) } ref
    exact ⟨hframe.frames, hframe.unshapes, hframe.destroyed⟩
  · exact ⟨rfl, rfl, rfl⟩

theorem destroyNotify_alive (h : Handlers) (registered : List ℕ) (window : Window) (ref : ℕ) :
    ((h.destroyNotify registered window).handler ref).alive = (h.handler ref).alive := by
  unfold destroyNotify
  dsimp only
  split
  · rw [invalidate_handler]
    split_ifs with href
    · rw [href]
    · rfl
  · rfl

/-- What the callbacks that only set shapes or wait leave alone. -/
structure ObjectFrame (h h' : Handlers) : Prop where
  handler : h'.handler = h.handler
  next : h'.next = h.next
  destroyed : h'.destroyed = h.destroyed

theorem resume_frame (h : Handlers) (ref : ℕ) (waiting : Waiting) :
    ObjectFrame h (h.resume ref waiting) := by
  cases waiting <;> exact ⟨rfl, rfl, rfl⟩

theorem wait_frame (h : Handlers) (wayland : Bool) (ref : ℕ) (waiting : Waiting) :
    ObjectFrame h (h.wait wayland ref waiting) := by
  cases wayland
  · exact h.resume_frame ref waiting
  · exact ⟨rfl, rfl, rfl⟩

theorem loopQuits_frame (h : Handlers) : ObjectFrame h h.loopQuits := by
  unfold loopQuits
  split
  · exact ⟨rfl, rfl, rfl⟩
  · exact { resume_frame _ _ _ with }

theorem unshape_frame (h : Handlers) (i : ℕ) : ObjectFrame h (h.unshape i) := by
  unfold unshape
  split <;> exact ⟨rfl, rfl, rfl⟩

theorem leaveNotify_frame (h : Handlers) (registered : List ℕ) (window : Window) :
    ObjectFrame h (h.leaveNotify registered window) := by
  unfold leaveNotify
  split <;> exact ⟨rfl, rfl, rfl⟩

/-- `Util` has an input shape on record for the window. -/
def Records (h : Handlers) (window : Window) : Prop := (h.util.inputShape window).isSome = true

instance (h : Handlers) (window : Window) : Decidable (h.Records window) :=
  inferInstanceAs (Decidable ((h.util.inputShape window).isSome = true))

theorem records_setInputShape (h : Handlers) {window window' : Window} {size : QSize} :
    (h.setInputShape window size).Records window' ↔ window' = window ∨ h.Records window' := by
  unfold Records setInputShape
  rw [Util.inputShape_set]
  split_ifs with hwindow <;> simp [hwindow]

theorem records_removeInputShapeRecord (h : Handlers) {window window' : Window} :
    (h.removeInputShapeRecord window).Records window' ↔ window' ≠ window ∧ h.Records window' := by
  unfold Records removeInputShapeRecord
  rw [Util.inputShape_remove]
  split_ifs with hwindow <;> simp [hwindow]

/-- A nested event loop of the object is running, or an un-shape timer of it is armed. -/
def Outstanding (h : Handlers) (ref : ℕ) : Prop :=
  ref ∈ h.unshapes ∨ ∃ waiting, (ref, waiting) ∈ h.frames

theorem outstanding_congr {h h' : Handlers} (hframe : CallbackFrame h h') {ref : ℕ} :
    h'.Outstanding ref ↔ h.Outstanding ref := by
  unfold Outstanding
  rw [hframe.frames, hframe.unshapes]

theorem outstanding_leaveNotify {h : Handlers} {registered : List ℕ} {window : Window} {ref : ℕ} :
    (h.leaveNotify registered window).Outstanding ref ↔ h.Outstanding ref := by
  unfold leaveNotify
  split <;> exact Iff.rfl

theorem outstanding_destroyNotify {h : Handlers} {registered : List ℕ} {window : Window} {ref : ℕ} :
    (h.destroyNotify registered window).Outstanding ref ↔ h.Outstanding ref := by
  unfold Outstanding
  rw [(h.destroyNotify_frame registered window).1, (h.destroyNotify_frame registered window).2.1]

theorem outstanding_resume {h : Handlers} {ref ref' : ℕ} {waiting : Waiting}
    (houtstanding : (h.resume ref waiting).Outstanding ref') :
    ref' = ref ∨ h.Outstanding ref' := by
  cases waiting with
  | sendHover => exact .inr houtstanding
  | sendClick =>
    rcases houtstanding with hunshape | hframe
    · rcases List.mem_append.mp hunshape with hold | hnew
      · exact .inr (.inl hold)
      · exact .inl (List.mem_singleton.mp hnew)
    · exact .inr (.inr hframe)

theorem outstanding_wait {h : Handlers} {wayland : Bool} {ref ref' : ℕ} {waiting : Waiting}
    (houtstanding : (h.wait wayland ref waiting).Outstanding ref') :
    ref' = ref ∨ h.Outstanding ref' := by
  cases wayland with
  | false => exact outstanding_resume houtstanding
  | true =>
    rcases houtstanding with hunshape | ⟨waiting', hframe⟩
    · exact .inr (.inl hunshape)
    · rcases List.mem_cons.mp hframe with hnew | hold
      · exact .inl (Prod.mk.inj hnew).1
      · exact .inr (.inr ⟨waiting', hold⟩)

theorem outstanding_loopQuits {h : Handlers} {ref : ℕ}
    (houtstanding : h.loopQuits.Outstanding ref) : h.Outstanding ref := by
  unfold loopQuits at houtstanding
  cases hframes : h.frames with
  | nil =>
    rw [hframes] at houtstanding
    exact houtstanding
  | cons frame frames =>
    rw [hframes] at houtstanding
    rcases outstanding_resume houtstanding with href | hold
    · exact .inr ⟨frame.2, by rw [hframes, href]; exact List.mem_cons_self⟩
    · refine hold.imp id fun ⟨waiting, hmem⟩ => ⟨waiting, ?_⟩
      rw [hframes]
      exact List.mem_cons_of_mem _ hmem

theorem outstanding_unshape {h : Handlers} {i ref : ℕ}
    (houtstanding : (h.unshape i).Outstanding ref) : h.Outstanding ref := by
  unfold unshape at houtstanding
  split at houtstanding
  · exact houtstanding
  · exact houtstanding.imp List.mem_of_mem_eraseIdx id

end Handlers

end DdeTrayLoader.Tray
