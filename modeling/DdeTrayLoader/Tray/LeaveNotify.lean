import DdeTrayLoader.Tray.Ownership
import DdeTrayLoader.Transition.Trajectory

/-!
# The event filter and the events it causes

When the pointer leaves a window of a handler, `nativeEventFilter` takes the window out of
the way by an empty input shape, and the X server answers a change of shape by further
`LEAVE_NOTIFY` events. What ends this is the size on record: a window that has an empty
shape on record is not given another, and only changes outside the event filter remove the
record. So between two such changes each window is given a shape at most once, and the
windows that still can be are a measure that goes down with each request.
-/

namespace DdeTrayLoader.Tray

open Transition

/-- The requests `nativeEventFilter` sends on `XCB_LEAVE_NOTIFY`. -/
def Handlers.leaveRequests (h : Handlers) (registered : List ℕ) (window : Window) :
    List XRequest :=
  if registered.any fun ref => (h.handler ref).ownsX11Window window then
    (h.util.setX11WindowInputShape window ⟨0, 0⟩).2
  else []

/-- The windows that some handler owns. -/
def Handlers.ownedWindows (h : Handlers) : Finset Window :=
  (Finset.range h.next).biUnion fun ref =>
    if (h.handler ref).owned then {(h.handler ref).windowId, (h.handler ref).containerWid} else ∅

/-- The owned windows that have no empty shape on record. -/
def Handlers.unshaped (h : Handlers) : Finset Window :=
  h.ownedWindows.filter fun window => h.util.inputShape window ≠ some ⟨0, 0⟩

/-- Between the two states no recorded shape changed, and no handler and no container was
created. -/
structure Handlers.Undisturbed (h h' : Handlers) : Prop where
  inputShape : ∀ window, h'.util.inputShape window = h.util.inputShape window
  next : h'.next = h.next
  containerWid : ∀ ref, (h'.handler ref).containerWid = (h.handler ref).containerWid

namespace TraySystem

variable {session : Session} {t : TraySystem} {e : Event}

/-- The requests the event filter sends when it handles the event. -/
def filterRequests (t : TraySystem) : Event → List XRequest
  | .leaveNotify window =>
    if window = 0 then [] else t.handlers.leaveRequests (t.registeredRefs (.stored _)) window
  | _ => []

/-- The event filter gives the window an input shape. -/
def shapesWindow (window : Window) (t : TraySystem) (e : Event) : Bool :=
  match e with
  | .leaveNotify window' => window' == window && !(t.filterRequests e).isEmpty
  | _ => false

/-- The event is handled by the event filter, or changes no recorded shape. -/
def KeepsShapes (session : Session) (t : TraySystem) (e : Event) : Prop :=
  (∃ window, e = .leaveNotify window) ∨
  ∀ window, (t.step session e).handlers.util.inputShape window = t.handlers.util.inputShape window

/-- A change that is made outside the event filter: a recorded shape changes, or a handler or
its container is created. -/
def Outside (session : Session) (t : TraySystem) (e : Event) : Prop :=
  (∀ window, e ≠ .leaveNotify window) ∧ ¬t.handlers.Undisturbed (t.step session e).handlers

/-- A window that is given a shape has no empty one on record, gets it on record, and is owned
by a registered handler. -/
theorem shapesWindow_iff {window : Window} : t.shapesWindow window e = true ↔
    e = .leaveNotify window ∧ window ≠ 0 ∧
      t.handlers.util.inputShape window ≠ some ⟨0, 0⟩ ∧
      ∃ ref ∈ t.registeredRefs (.stored _),
        (t.handlers.handler ref).ownsX11Window window = true := by
  cases e with
  | leaveNotify window' =>
    by_cases hwindow : window' = window
    · subst hwindow
      by_cases hzero : window' = 0
      · simp [shapesWindow, filterRequests, hzero]
      · by_cases hrecord : t.handlers.util.inputShape window' = some ⟨0, 0⟩
        · simp [shapesWindow, filterRequests, Handlers.leaveRequests, Util.setX11WindowInputShape,
            hzero, hrecord]
        · by_cases hmanaged : ∃ ref ∈ t.registeredRefs (.stored _),
              (t.handlers.handler ref).ownsX11Window window' = true
          · simp [shapesWindow, filterRequests, Handlers.leaveRequests,
              Util.setX11WindowInputShape, hzero, hrecord, hmanaged]
          · simp [shapesWindow, filterRequests, Handlers.leaveRequests, hzero, hmanaged]
    · simp [shapesWindow, hwindow]
  | _ => simp [shapesWindow]

/-- What the event filter does to the recorded shapes. -/
theorem inputShape_leaveNotify (session : Session) (t : TraySystem) (window window' : Window) :
    (t.step session (.leaveNotify window)).handlers.util.inputShape window' =
        t.handlers.util.inputShape window' ∨
      window' = window ∧
        (t.step session (.leaveNotify window)).handlers.util.inputShape window' = some ⟨0, 0⟩ := by
  by_cases hzero : window = 0
  · simp [step, hzero]
  · by_cases hmanaged : (t.registeredRefs (.stored _)).any fun ref =>
        (t.handlers.handler ref).ownsX11Window window
    · by_cases hwindow : window' = window
      · right
        simp [step, hzero, Handlers.leaveNotify, hmanaged, Handlers.setInputShape, hwindow]
      · left
        simp [step, hzero, Handlers.leaveNotify, hmanaged, Handlers.setInputShape, hwindow]
    · left
      simp [step, hzero, Handlers.leaveNotify, hmanaged]

/-- A window on record as empty stays so while no shape is changed outside the event filter. -/
theorem emptied_step {window : Window} (hkeeps : t.KeepsShapes session e)
    (hempty : t.handlers.util.inputShape window = some ⟨0, 0⟩) :
    (t.step session e).handlers.util.inputShape window = some ⟨0, 0⟩ := by
  obtain ⟨window', rfl⟩ | hsame := hkeeps
  · obtain hsame | ⟨-, hshaped⟩ := inputShape_leaveNotify session t window' window
    · rw [hsame, hempty]
    · exact hshaped
  · rw [hsame, hempty]

/-- A window that is given a shape is on record as empty. -/
theorem emptied_of_shapesWindow {window : Window} (hshapes : t.shapesWindow window e = true) :
    (t.step session e).handlers.util.inputShape window = some ⟨0, 0⟩ := by
  obtain ⟨rfl, hzero, -, ref, hmem, howns⟩ := shapesWindow_iff.mp hshapes
  have hmanaged : (t.registeredRefs (.stored _)).any fun ref =>
      (t.handlers.handler ref).ownsX11Window window := List.any_eq_true.mpr ⟨ref, hmem, howns⟩
  simp [step, hzero, Handlers.leaveNotify, hmanaged, Handlers.setInputShape]

/-- While no shape is changed outside the event filter, it gives each window at most one. -/
theorem tally_shapesWindow_le (window : Window) {es : List Event}
    (hkeeps : Obeys (step session) (KeepsShapes session) t es) :
    tally (step session) (shapesWindow window) t es ≤ 1 := by
  induction es generalizing t with
  | nil => exact Nat.zero_le 1
  | cons e es ih =>
    obtain ⟨hkeep, hkeeps⟩ := hkeeps
    by_cases hshapes : t.shapesWindow window e = true
    · have hnone : tally (step session) (shapesWindow window) (t.step session e) es = 0 := by
        apply tally_eq_zero (I := fun t : TraySystem =>
          t.handlers.util.inputShape window = some ⟨0, 0⟩) (fun _ _ hempty hkeep =>
            emptied_step hkeep hempty) _ (emptied_of_shapesWindow hshapes) hkeeps
        intro t e hempty _
        by_contra hnot
        obtain ⟨-, -, hrecord, -⟩ := shapesWindow_iff.mp (Bool.eq_true_of_not_eq_false hnot)
        exact hrecord hempty
      simp [tally, hshapes, hnone]
    · simpa [tally, hshapes] using ih hkeeps

/-- Unless it constructs a handler, a step leaves the icon windows of handlers alone, and no
handler becomes an owner. -/
structure Settles (h h' : Handlers) : Prop where
  next : h.next ≤ h'.next
  owned : h'.next = h.next → ∀ ref, (h'.handler ref).owned = true → (h.handler ref).owned = true
  windowId : h'.next = h.next → ∀ ref, (h'.handler ref).windowId = (h.handler ref).windowId

/-- A step that constructs a handler settles. -/
theorem Settles.construct {h h' : Handlers} (hsettles : Settles h h') {h'' : Handlers}
    (hnext : h''.next = h'.next + 1) : Settles h h'' where
  next := hnext ▸ Nat.le_succ_of_le hsettles.next
  owned heq := absurd (hnext.symm.trans heq) (Nat.lt_succ_of_le hsettles.next).ne'
  windowId heq := absurd (hnext.symm.trans heq) (Nat.lt_succ_of_le hsettles.next).ne'

/-- A step that changes the members of handlers, but not what they own. -/
theorem Settles.members {h h' : Handlers} (hsettles : Settles h h') {h'' : Handlers}
    (hnext : h''.next = h'.next)
    (howned : ∀ ref, (h''.handler ref).owned = true → (h'.handler ref).owned = true)
    (hwindow : ∀ ref, (h''.handler ref).windowId = (h'.handler ref).windowId) : Settles h h'' where
  next := hnext ▸ hsettles.next
  owned heq ref hold := hsettles.owned (hnext.symm.trans heq) ref (howned ref hold)
  windowId heq ref := (hwindow ref).trans (hsettles.windowId (hnext.symm.trans heq) ref)

theorem Settles.invalidate {h h' : Handlers} (hsettles : Settles h h') (ref : ℕ) :
    Settles h (h'.invalidate ref) := by
  apply hsettles.members (h'.invalidate_next ref)
  · intro ref'
    rw [Handlers.invalidate_handler]
    split_ifs <;> simp
  · intro ref'
    rw [Handlers.invalidate_handler]
    split_ifs with href
    · rw [href]
    · rfl

theorem Settles.destruct {h h' : Handlers} (hsettles : Settles h h') (ref : ℕ) :
    Settles h (h'.destruct ref) := by
  apply hsettles.members (h'.destruct_next ref)
  · intro ref'
    rw [Handlers.destruct_handler]
    split_ifs with href
    · rw [href]
      exact id
    · exact id
  · intro ref'
    rw [Handlers.destruct_handler]
    split_ifs with href
    · rw [href]
    · rfl

theorem Settles.frame {h h' : Handlers} (hframe : Handlers.ObjectFrame h h') : Settles h h' where
  next := hframe.next.ge
  owned _ ref := by rw [hframe.handler]; exact id
  windowId _ ref := by rw [hframe.handler]

/-- What every event does to the handlers settles. -/
theorem settles_keeps (session : Session) (t : TraySystem) (e : Event) :
    Keeps session t e fun h _ => Settles t.handlers h where
  dock _ _ _ _ _ hsettles _ _ := hsettles.construct rfl
  suppress h _ window _ hsettles _ _ := by
    have hconstructed : Settles t.handlers (h.construct window) := hsettles.construct rfl
    exact hconstructed.destruct _
  drop _ _ _ ref _ hsettles _ _ _ := (hsettles.invalidate ref).destruct ref
  leaveNotify window _ _ := .frame (t.handlers.leaveNotify_frame _ window)
  destroyNotify window order _ _ _ := by
    have hcounted : Settles t.handlers { t.handlers with
        destroyed := Function.update t.handlers.destroyed window
          (t.handlers.destroyed window + 1) } := ⟨le_rfl, fun _ _ => id, fun _ _ => rfl⟩
    unfold Handlers.destroyNotify
    dsimp only
    split
    · exact hcounted.invalidate _
    · exact hcounted
  handler handlerEvent _ := by
    have hmembers := handlerStep_members session t.handlers handlerEvent
    have hnext : (handlerStep session t.handlers handlerEvent).next = t.handlers.next := by
      obtain hframe | ⟨ref, container, -, -, -, -, heq⟩ | ⟨ref, enable, -, -, heq⟩ :=
        handlerStep_cases session t.handlers handlerEvent
      · exact hframe.next
      · rw [heq]
        rfl
      · rw [heq]
        rfl
    exact
      { next := hnext.ge
        owned := fun _ ref hold => (hmembers ref).2.1 ▸ hold
        windowId := fun _ ref => (hmembers ref).2.2.1 }

/-- An owned window is one of a handler that owns it. -/
theorem mem_ownedWindows {h : Handlers} {window : Window} : window ∈ h.ownedWindows ↔
    ∃ ref < h.next, (h.handler ref).ownsX11Window window = true := by
  unfold Handlers.ownedWindows XembedProtocolHandler.ownsX11Window
  rw [Finset.mem_biUnion]
  constructor
  · intro howned
    obtain ⟨ref, hlt, hmem⟩ := howned
    refine ⟨ref, Finset.mem_range.mp hlt, ?_⟩
    split_ifs at hmem with hold
    · simpa [hold] using hmem
    · simp at hmem
  · intro howned
    obtain ⟨ref, hlt, howns⟩ := howned
    refine ⟨ref, Finset.mem_range.mpr hlt, ?_⟩
    simp only [Bool.and_eq_true, Bool.or_eq_true, beq_iff_eq] at howns
    simpa [howns.1] using howns.2

/-- The event filter changes no object. -/
theorem leaveNotify_objects (session : Session) (t : TraySystem) (window : Window) :
    Handlers.ObjectFrame t.handlers (t.step session (.leaveNotify window)).handlers := by
  rw [step]
  split_ifs
  · exact ⟨rfl, rfl, rfl⟩
  · exact t.handlers.leaveNotify_frame _ window

/-- While nothing changes outside the event filter, no window becomes owned. -/
theorem ownedWindows_subset (howned : t.Owned session) (hquiet : ¬t.Outside session e) :
    (t.step session e).handlers.ownedWindows ⊆ t.handlers.ownedWindows := by
  intro window hmem
  obtain ⟨ref, hlt, howns⟩ := mem_ownedWindows.mp hmem
  apply mem_ownedWindows.mpr
  by_cases hleave : ∃ window', e = .leaveNotify window'
  · obtain ⟨window', rfl⟩ := hleave
    have hframe := leaveNotify_objects session t window'
    exact ⟨ref, hframe.next ▸ hlt, hframe.handler ▸ howns⟩
  · have hundisturbed : t.handlers.Undisturbed (t.step session e).handlers := by
      by_contra hnot
      exact hquiet ⟨not_exists.mp hleave, hnot⟩
    have hsettles := (step_keeps (settles_keeps session t e) howned
      (.frame ⟨rfl, rfl, rfl⟩)).2
    refine ⟨ref, hundisturbed.next ▸ hlt, ?_⟩
    unfold XembedProtocolHandler.ownsX11Window at howns ⊢
    rw [hsettles.windowId hundisturbed.next, hundisturbed.containerWid] at howns
    obtain ⟨hold, hwindow⟩ := Bool.and_eq_true_iff.mp howns
    rw [hsettles.owned hundisturbed.next ref hold, hwindow]
    rfl

/-- While nothing changes outside the event filter, the windows that can be given a shape do
not become more. -/
theorem unshaped_subset (howned : t.Owned session) (hquiet : ¬t.Outside session e) :
    (t.step session e).handlers.unshaped ⊆ t.handlers.unshaped := by
  intro window hmem
  obtain ⟨hmem, hrecord⟩ := Finset.mem_filter.mp hmem
  refine Finset.mem_filter.mpr ⟨ownedWindows_subset howned hquiet hmem, ?_⟩
  by_cases hleave : ∃ window', e = .leaveNotify window'
  · obtain ⟨window', rfl⟩ := hleave
    obtain hsame | ⟨-, hshaped⟩ := inputShape_leaveNotify session t window' window
    · rwa [hsame] at hrecord
    · exact absurd hshaped hrecord
  · have hundisturbed : t.handlers.Undisturbed (t.step session e).handlers := by
      by_contra hnot
      exact hquiet ⟨not_exists.mp hleave, hnot⟩
    rwa [hundisturbed.inputShape] at hrecord

/-- A window that is given a shape is owned by a registered handler that exists. -/
theorem owner_of_shapesWindow (howned : t.Owned session) {window : Window}
    (hshapes : t.shapesWindow window e = true) : ∃ icon ref, t.xembed.value icon = some ref ∧
      (t.handlers.handler ref).alive = true ∧
      (t.handlers.handler ref).ownsX11Window window = true := by
  obtain ⟨-, -, -, ref, hmem, howns⟩ := shapesWindow_iff.mp hshapes
  obtain ⟨icon, hvalue⟩ := mem_registeredRefs.mp hmem
  exact ⟨icon, ref, hvalue, howned.owners.alive icon ref hvalue, howns⟩

/-- Each request takes its window from those that can be given a shape. -/
theorem unshaped_card_lt (howned : t.Owned session) {window : Window}
    (hshapes : t.shapesWindow window e = true) :
    (t.step session e).handlers.unshaped.card < t.handlers.unshaped.card := by
  obtain ⟨rfl, -, hrecord, -⟩ := shapesWindow_iff.mp hshapes
  obtain ⟨icon, ref, hvalue, -, howns⟩ := owner_of_shapesWindow howned hshapes
  have hbefore : window ∈ t.handlers.unshaped :=
    Finset.mem_filter.mpr
      ⟨mem_ownedWindows.mpr ⟨ref, howned.owners.registered_lt hvalue, howns⟩, hrecord⟩
  have hafter : window ∉ (t.step session (.leaveNotify window)).handlers.unshaped :=
    fun hmem => (Finset.mem_filter.mp hmem).2 (emptied_of_shapesWindow hshapes)
  apply Finset.card_lt_card
  refine Finset.ssubset_iff_subset_ne.mpr ⟨unshaped_subset howned ?_, ?_⟩
  · intro houtside
    exact houtside.1 window rfl
  · intro hsame
    exact hafter (hsame ▸ hbefore)

/-- The event is a `LEAVE_NOTIFY`. -/
def isLeave : Event → Bool
  | .leaveNotify _ => true
  | _ => false

/-- The event filter gives some window an input shape. -/
def shapesSome (t : TraySystem) (e : Event) : Bool := !(t.filterRequests e).isEmpty

/-- Requests are for the window that is left. -/
theorem shapesSome_iff : t.shapesSome e = true ↔ ∃ window, t.shapesWindow window e = true := by
  cases e with
  | leaveNotify window => simp [shapesSome, shapesWindow]
  | _ => simp [shapesSome, shapesWindow, filterRequests]

/-- An endless run with finitely many changes from outside has finitely many requests. -/
theorem finite_shapesSome (session : Session) (es : ℕ → Event)
    (houtside : {n | (trajectory (step session) (initial session) es n).Outside session
      (es n)}.Finite) :
    {n | (trajectory (step session) (initial session) es n).shapesSome (es n) = true}.Finite := by
  have howned (n : ℕ) : (trajectory (step session) (initial session) es n).Owned session := by
    rw [trajectory_eq_run]
    exact run_owned session _
  obtain ⟨last, hlast⟩ := houtside.bddAbove
  apply finite_of_descent
    (fun n => (trajectory (step session) (initial session) es n).handlers.unshaped.card)
    (last + 1)
  · intro n hn
    apply Finset.card_le_card
    apply unshaped_subset (howned n)
    intro hout
    exact absurd (hlast hout) (Nat.not_le.mpr hn)
  · intro n _ hshapes
    obtain ⟨window, hwindow⟩ := shapesSome_iff.mp hshapes
    exact unshaped_card_lt (howned n) hwindow

/-- There is no storm of `LEAVE_NOTIFY` events. While no shape is changed outside the event
filter, it gives each window at most one shape, and only windows that a registered handler
owns. So an endless run with finitely many changes from outside has finitely many requests,
and when the X server answers each request and each change by finitely many `LEAVE_NOTIFY`
events, sooner or later there are no more of them. -/
theorem leaveNotify_ends (session : Session) :
    (∀ es es' : List Event, let t := run (step session) (initial session) es
      Obeys (step session) (KeepsShapes session) t es' →
        ∀ window, tally (step session) (shapesWindow window) t es' ≤ 1) ∧
    (∀ (es : List Event) (e : Event) (window : Window),
      let t := run (step session) (initial session) es
      t.shapesWindow window e = true → ∃ icon ref, t.xembed.value icon = some ref ∧
        (t.handlers.handler ref).alive = true ∧
        (t.handlers.handler ref).ownsX11Window window = true) ∧
    ∀ es : ℕ → Event, let states := trajectory (step session) (initial session) es
      {n | (states n).Outside session (es n)}.Finite →
        {n | (states n).shapesSome (es n) = true}.Finite ∧
        ∀ answers : ℕ → ℕ,
          (∀ n, answers n ≠ 0 →
            (states n).Outside session (es n) ∨ (states n).shapesSome (es n) = true) →
          (∀ n, ((Finset.range n).filter fun i => isLeave (es i) = true).card ≤
            ∑ i ∈ Finset.range n, answers i) →
          {n | isLeave (es n) = true}.Finite := by
  refine ⟨fun es es' hkeeps window => tally_shapesWindow_le window hkeeps, ?_, ?_⟩
  · intro es e window t hshapes
    exact owner_of_shapesWindow (run_owned session es) hshapes
  · intro es states houtside
    have hrequests := finite_shapesSome session es houtside
    refine ⟨hrequests, fun answers hanswers hleaves => ?_⟩
    exact finite_of_card_le_sum answers ((houtside.union hrequests).subset hanswers) hleaves

/-- An icon is shown, and from then on the pointer leaves it again and again. -/
theorem leaveNotify_ends_one_icon :
    let session : Session := .empty false (fun _ => 0) fun _ _ => 0
    let shown : List Event :=
      [.registerIcon 1 [], .onTrayIconsChanged, .syncTrayIcons (.stored _) (.stored _)]
    let es : ℕ → Event := fun n => shown.getD n (.leaveNotify 1)
    tally (step session) (shapesWindow 1) (run (step session) (initial session) shown)
        [.leaveNotify 1, .leaveNotify 1, .leaveNotify 1] ≤ 1 ∧
      {n | (trajectory (step session) (initial session) es n).shapesSome (es n) = true}.Finite := by
  intro session shown es
  obtain ⟨honce, -, hends⟩ := leaveNotify_ends session
  constructor
  · exact honce shown [.leaveNotify 1, .leaveNotify 1, .leaveNotify 1]
      ⟨.inl ⟨1, rfl⟩, .inl ⟨1, rfl⟩, .inl ⟨1, rfl⟩, trivial⟩ 1
  · apply (hends es _).1
    apply (Set.finite_Iio 3).subset
    intro n houtside
    by_contra hlate
    have hle : shown.length ≤ n := Nat.le_of_not_lt hlate
    apply houtside.1 1
    simp [es, List.getElem?_eq_none hle]

end TraySystem

end DdeTrayLoader.Tray
