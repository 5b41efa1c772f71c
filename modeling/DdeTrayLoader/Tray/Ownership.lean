import DdeTrayLoader.Tray.Steps

/-!
# Handlers and the icons they own

XEmbed handlers come and go with the icons: a sync docks and drops icons, a registered SNI
item drops one. `Keeps` names the parts of the steps that touch the handlers, and
`step_keeps` says that a property all of them keep is kept by the step. From it follow the
facts about handlers that hold in every run.
-/

namespace DdeTrayLoader.Tray

open Transition

namespace TraySystem

variable {session : Session} {t : TraySystem} {e : Event}
  {P : Handlers → Registered Window ℕ → Prop}

/-- A callback of a handler initialises it or captures its icon, or leaves the objects alone. -/
theorem handlerStep_cases (session : Session) (h : Handlers) (e : HandlerEvent) :
    Handlers.ObjectFrame h (handlerStep session h e) ∨
    (∃ ref container, e = .initX11resources ref container ∧
      (h.handler ref).initQueued = true ∧ session.ownId container = true ∧ container ≠ 0 ∧
      handlerStep session h e = h.initX11resources ref container) ∨
    ∃ ref enable, e = .iconCaptured ref enable ∧ (h.handler ref).iconTimer = true ∧
      handlerStep session h e = h.iconCaptured ref enable := by
  cases e with
  | initX11resources ref container =>
    simp only [handlerStep]
    split_ifs with hguard
    · simp only [Bool.and_eq_true, decide_eq_true_eq] at hguard
      exact .inr (.inl ⟨ref, container, rfl, hguard.1.1, hguard.1.2, hguard.2, rfl⟩)
    · exact .inl ⟨rfl, rfl, rfl⟩
  | iconCaptured ref enable =>
    simp only [handlerStep]
    split_ifs with htimer
    · exact .inr (.inr ⟨ref, enable, rfl, htimer, rfl⟩)
    · exact .inl ⟨rfl, rfl, rfl⟩
  | sendHover ref =>
    simp only [handlerStep]
    split_ifs
    · exact .inl (h.wait_frame _ ref _)
    · exact .inl ⟨rfl, rfl, rfl⟩
  | sendClick ref geometry =>
    simp only [handlerStep]
    split_ifs
    · exact .inl (h.wait_frame _ ref _)
    · exact .inl ⟨rfl, rfl, rfl⟩
  | loopQuits => exact .inl h.loopQuits_frame
  | unshape i => exact .inl (h.unshape_frame i)

/-- No callback changes what identifies a handler and what it owns. -/
theorem handlerStep_members (session : Session) (h : Handlers) (e : HandlerEvent) (ref : ℕ) :
    ((handlerStep session h e).handler ref).alive = (h.handler ref).alive ∧
    ((handlerStep session h e).handler ref).owned = (h.handler ref).owned ∧
    ((handlerStep session h e).handler ref).windowId = (h.handler ref).windowId ∧
    ((handlerStep session h e).handler ref).incarnation = (h.handler ref).incarnation := by
  rcases handlerStep_cases session h e with hframe |
    ⟨ref', container, -, -, -, -, heq⟩ | ⟨ref', enable, -, -, heq⟩
  · rw [hframe.handler]
    exact ⟨rfl, rfl, rfl, rfl⟩
  · rw [heq, Handlers.initX11resources_handler]
    split_ifs with href
    · rw [href]
      exact ⟨rfl, rfl, rfl, rfl⟩
    · exact ⟨rfl, rfl, rfl, rfl⟩
  · rw [heq, Handlers.iconCaptured_handler]
    split_ifs with href
    · rw [href]
      exact ⟨rfl, rfl, rfl, rfl⟩
    · exact ⟨rfl, rfl, rfl, rfl⟩

theorem handlerStep_destroyed (session : Session) (h : Handlers) (e : HandlerEvent) :
    (handlerStep session h e).destroyed = h.destroyed := by
  rcases handlerStep_cases session h e with hframe |
    ⟨ref', container, -, -, -, -, heq⟩ | ⟨ref', enable, -, -, heq⟩
  · exact hframe.destroyed
  · rw [heq]
    rfl
  · rw [heq]
    rfl

/-- Nested event loops and un-shape timers are those there were, or belong to a handler that is
enabled. -/
theorem outstanding_handlerStep {h : Handlers} {e : HandlerEvent} {ref : ℕ}
    (houtstanding : (handlerStep session h e).Outstanding ref) :
    h.Outstanding ref ∨ ((h.handler ref).alive = true ∧ (h.handler ref).enabled = true) := by
  cases e with
  | initX11resources ref' container =>
    simp only [handlerStep] at houtstanding
    split_ifs at houtstanding <;> exact .inl houtstanding
  | iconCaptured ref' enable =>
    simp only [handlerStep] at houtstanding
    split_ifs at houtstanding <;> exact .inl houtstanding
  | sendHover ref' =>
    simp only [handlerStep] at houtstanding
    split_ifs at houtstanding with hready
    · rcases Handlers.outstanding_wait houtstanding with href | hold
      · exact .inr (href ▸ Bool.and_eq_true_iff.mp hready)
      · exact .inl hold
    · exact .inl houtstanding
  | sendClick ref' geometry =>
    simp only [handlerStep] at houtstanding
    split_ifs at houtstanding with hready
    · rcases Handlers.outstanding_wait houtstanding with href | hold
      · exact .inr (href ▸ Bool.and_eq_true_iff.mp (Bool.and_eq_true_iff.mp hready).1)
      · exact .inl hold
    · exact .inl houtstanding
  | loopQuits => exact .inl (Handlers.outstanding_loopQuits houtstanding)
  | unshape i => exact .inl (Handlers.outstanding_unshape houtstanding)

/-- What holds of the handler objects and the registered icons in every run: a registered
handler exists, and is the one of its icon, and containers are windows of this client. -/
structure Owners (session : Session) (h : Handlers) (items : Registered Window ℕ) : Prop where
  unused : ∀ ref, h.next ≤ ref → h.handler ref = {}
  container : ∀ ref, (h.handler ref).containerWid = 0 ∨
    session.ownId (h.handler ref).containerWid = true
  alive : ∀ window ref, items.value window = some ref → (h.handler ref).alive = true
  windowId : ∀ window ref, items.value window = some ref → (h.handler ref).windowId = window
  foreign : ∀ window ∈ items.keys, session.ownId window = false

namespace Owners

variable {h h' : Handlers} {items : Registered Window ℕ}

theorem lt_next (howners : Owners session h items) {ref : ℕ} (hused : h.handler ref ≠ {}) :
    ref < h.next := by
  by_contra hnot
  exact hused (howners.unused ref (Nat.le_of_not_lt hnot))

theorem alive_lt (howners : Owners session h items) {ref : ℕ}
    (halive : (h.handler ref).alive = true) : ref < h.next := by
  apply howners.lt_next
  intro hunused
  rw [hunused] at halive
  cases halive

theorem registered_lt (howners : Owners session h items) {window : Window} {ref : ℕ}
    (hvalue : items.value window = some ref) : ref < h.next :=
  howners.alive_lt (howners.alive window ref hvalue)

/-- Two icons have two handlers. -/
theorem ref_ne (howners : Owners session h items) {window window' : Window} {ref ref' : ℕ}
    (hvalue : items.value window = some ref) (hvalue' : items.value window' = some ref')
    (hne : window' ≠ window) : ref' ≠ ref := by
  intro hsame
  subst hsame
  exact hne ((howners.windowId window' _ hvalue').symm.trans (howners.windowId window _ hvalue))

/-- The members of one object change, but not what identifies it. -/
theorem modified (howners : Owners session h items) {ref : ℕ} (hlt : ref < h.next)
    {handler : XembedProtocolHandler} (hnext : h'.next = h.next)
    (hhandler : ∀ ref', h'.handler ref' = if ref' = ref then handler else h.handler ref')
    (halive : handler.alive = (h.handler ref).alive)
    (hwindow : handler.windowId = (h.handler ref).windowId)
    (hcontainer : handler.containerWid = (h.handler ref).containerWid ∨
      session.ownId handler.containerWid = true) : Owners session h' items := by
  refine ⟨fun ref' hle => ?_, fun ref' => ?_, fun window ref' hvalue => ?_,
    fun window ref' hvalue => ?_, howners.foreign⟩
  · rw [hnext] at hle
    rw [hhandler, if_neg (hlt.trans_le hle).ne', howners.unused ref' hle]
  · rw [hhandler]
    split_ifs with href
    · exact hcontainer.elim (fun hsame => hsame ▸ howners.container ref) .inr
    · exact howners.container ref'
  · have hold := howners.alive window ref' hvalue
    rw [hhandler]
    split_ifs with href
    · rw [halive, ← href, hold]
    · exact hold
  · have hold := howners.windowId window ref' hvalue
    rw [hhandler]
    split_ifs with href
    · rw [hwindow, ← href, hold]
    · exact hold

theorem frame (howners : Owners session h items) (hframe : Handlers.ObjectFrame h h') :
    Owners session h' items where
  unused ref hle := by
    rw [hframe.handler, howners.unused ref (hframe.next ▸ hle)]
  container ref := by
    rw [hframe.handler]
    exact howners.container ref
  alive window ref hvalue := by rw [hframe.handler, howners.alive window ref hvalue]
  windowId window ref hvalue := by rw [hframe.handler, howners.windowId window ref hvalue]
  foreign := howners.foreign

/-- Docking an icon leaves the handlers of the others alone. -/
theorem dock_value (howners : Owners session h items) {window other : Window} {ref pid : ℕ}
    (hvalue : (items.insert window h.next pid).value other = some ref) :
    (other = window ∧ ref = h.next) ∨ (other ≠ window ∧ items.value other = some ref ∧
      (h.construct window).handler ref = h.handler ref) := by
  rw [Registered.value_insert] at hvalue
  split_ifs at hvalue with hother
  · exact .inl ⟨hother, (Option.some.inj hvalue).symm⟩
  · refine .inr ⟨hother, hvalue, ?_⟩
    rw [Handlers.construct_handler, if_neg (howners.registered_lt hvalue).ne]

theorem suppress_handler {ref : ℕ} (hne : ref ≠ h.next) (window : Window) :
    ((h.construct window).destruct h.next).handler ref = h.handler ref := by
  rw [Handlers.destruct_handler, if_neg hne, Handlers.construct_handler, if_neg hne]

/-- Dropping an icon leaves the handlers of the others alone. -/
theorem drop_value (howners : Owners session h items) {window other : Window} {ref ref' : ℕ}
    (hvalue : items.value window = some ref)
    (hvalue' : (items.remove window).value other = some ref') :
    other ≠ window ∧ items.value other = some ref' ∧ ref' ≠ ref := by
  rw [Registered.value_remove] at hvalue'
  split_ifs at hvalue' with hne
  exact ⟨hne, hvalue', howners.ref_ne hvalue hvalue' hne⟩

theorem drop_handler {ref ref' : ℕ} (hne : ref' ≠ ref) :
    ((h.invalidate ref).destruct ref).handler ref' = h.handler ref' := by
  rw [Handlers.destruct_handler, if_neg hne, Handlers.invalidate_handler, if_neg hne]

theorem dock (howners : Owners session h items) {window : Window}
    (hforeign : session.ownId window = false) (pid : ℕ) :
    Owners session (h.construct window) (items.insert window h.next pid) where
  unused ref hle := by
    have hlt : h.next < ref := hle
    rw [Handlers.construct_handler, if_neg hlt.ne', howners.unused ref hlt.le]
  container ref := by
    rw [Handlers.construct_handler]
    split_ifs
    · exact .inl rfl
    · exact howners.container ref
  alive other ref hvalue := by
    rcases howners.dock_value hvalue with ⟨-, href⟩ | ⟨-, hold, heq⟩
    · rw [Handlers.construct_handler, if_pos href]
    · rw [heq, howners.alive other ref hold]
  windowId other ref hvalue := by
    rcases howners.dock_value hvalue with ⟨hother, href⟩ | ⟨-, hold, heq⟩
    · rw [Handlers.construct_handler, if_pos href, hother]
    · rw [heq, howners.windowId other ref hold]
  foreign other hmem := by
    rcases (Registered.mem_keys_insert _).mp hmem with hother | hold
    · rw [hother, hforeign]
    · exact howners.foreign other hold

theorem suppress (howners : Owners session h items) (window : Window) :
    Owners session ((h.construct window).destruct h.next) items := by
  have hregistered (other : Window) (ref : ℕ) (hvalue : items.value other = some ref) :
      ((h.construct window).destruct h.next).handler ref = h.handler ref :=
    suppress_handler (howners.registered_lt hvalue).ne window
  refine ⟨fun ref hle => ?_, fun ref => ?_, fun other ref hvalue => ?_,
    fun other ref hvalue => ?_, howners.foreign⟩
  · have hlt : h.next < ref := (Handlers.destruct_next _ _).symm.trans_le hle
    rw [suppress_handler hlt.ne', howners.unused ref hlt.le]
  · by_cases href : ref = h.next
    · rw [Handlers.destruct_handler, if_pos href, Handlers.construct_handler, if_pos rfl]
      exact .inl rfl
    · rw [suppress_handler href]
      exact howners.container ref
  · rw [hregistered other ref hvalue, howners.alive other ref hvalue]
  · rw [hregistered other ref hvalue, howners.windowId other ref hvalue]

theorem invalidate (howners : Owners session h items) {ref : ℕ} (hlt : ref < h.next) :
    Owners session (h.invalidate ref) items :=
  howners.modified hlt (h.invalidate_next ref) (h.invalidate_handler ref) rfl rfl (.inl rfl)

theorem destruct (howners : Owners session h items) {window : Window} {ref : ℕ}
    (hvalue : items.value window = some ref) :
    Owners session (h.destruct ref) (items.remove window) := by
  have hother (other : Window) (ref' : ℕ)
      (hvalue' : (items.remove window).value other = some ref') :
      items.value other = some ref' ∧ (h.destruct ref).handler ref' = h.handler ref' := by
    obtain ⟨-, hold, hne⟩ := howners.drop_value hvalue hvalue'
    exact ⟨hold, (h.destruct_handler ref ref').trans (if_neg hne)⟩
  refine ⟨fun ref' hle => ?_, fun ref' => ?_, fun other ref' hvalue' => ?_,
    fun other ref' hvalue' => ?_, fun other hmem => ?_⟩
  · rw [Handlers.destruct_next] at hle
    rw [Handlers.destruct_handler, if_neg ((howners.registered_lt hvalue).trans_le hle).ne',
      howners.unused ref' hle]
  · rw [Handlers.destruct_handler]
    split_ifs
    · exact howners.container ref
    · exact howners.container ref'
  · obtain ⟨hold, heq⟩ := hother other ref' hvalue'
    rw [heq, howners.alive other ref' hold]
  · obtain ⟨hold, heq⟩ := hother other ref' hvalue'
    rw [heq, howners.windowId other ref' hold]
  · exact howners.foreign other ((Registered.mem_keys_remove _).mp hmem).2

theorem drop (howners : Owners session h items) {window : Window} {ref : ℕ}
    (hvalue : items.value window = some ref) :
    Owners session ((h.invalidate ref).destruct ref) (items.remove window) :=
  (howners.invalidate (howners.registered_lt hvalue)).destruct hvalue

theorem destroyNotify (howners : Owners session h items) {registered : List ℕ}
    (hregistered : ∀ ref ∈ registered, ∃ window, items.value window = some ref) (window : Window) :
    Owners session (h.destroyNotify registered window) items := by
  have hcounted : Owners session
      { h with destroyed := Function.update h.destroyed window (h.destroyed window + 1) } items :=
    { howners with }
  unfold Handlers.destroyNotify
  dsimp only
  split
  · rename_i ref hfound
    obtain ⟨_, hvalue⟩ := hregistered ref (List.mem_of_find?_eq_some hfound)
    exact hcounted.invalidate (howners.registered_lt hvalue)
  · exact hcounted

theorem handlerStep (howners : Owners session h items) (e : HandlerEvent) :
    Owners session (handlerStep session h e) items := by
  rcases handlerStep_cases session h e with hframe | ⟨ref, container, -, hqueued, hown, -, heq⟩ |
    ⟨ref, enable, -, htimer, heq⟩
  · exact howners.frame hframe
  · have hlt : ref < h.next := howners.lt_next fun hunused => by simp [hunused] at hqueued
    rw [heq]
    exact howners.modified hlt rfl (h.initX11resources_handler ref · container) rfl rfl (.inr hown)
  · have hlt : ref < h.next := howners.lt_next fun hunused => by simp [hunused] at htimer
    rw [heq]
    exact howners.modified hlt rfl (h.iconCaptured_handler ref · enable) rfl rfl (.inl rfl)

end Owners

theorem mem_registeredRefs {order : HashOrder Window} {ref : ℕ} :
    ref ∈ t.registeredRefs order ↔ ∃ window, t.xembed.value window = some ref := by
  unfold registeredRefs
  rw [List.mem_filterMap]
  constructor
  · intro hboth
    obtain ⟨window, -, hvalue⟩ := hboth
    exact ⟨window, hvalue⟩
  · intro hboth
    obtain ⟨window, hvalue⟩ := hboth
    exact ⟨window, (order.mem_list).mpr ((t.xembed.mem_keys_iff).mpr ⟨ref, hvalue⟩), hvalue⟩


/-- The facts about handlers and icons, with what the sync takes new icons from. -/
structure Owned (session : Session) (t : TraySystem) : Prop where
  icons : ∀ window ∈ t.icons, session.ownId window = false
  owners : Owners session t.handlers t.xembed

/-- The step drops the icon, if it is registered: an SNI item of its process is registered, or
a sync finds it gone. -/
def Drops (session : Session) (t : TraySystem) (window : Window) : Event → Prop
  | .handlerCreated item order => t.Completes item ∧
      ∃ ref, t.evicted order (session.itemPid item) = some (window, ref)
  | .syncTrayIcons _ _ => 0 < t.timers ∧ window ∉ t.icons
  | _ => False

/-- What the event does to the XEmbed handlers keeps a property of them and of the registered
icons. -/
structure Keeps (session : Session) (t : TraySystem) (e : Event)
    (P : Handlers → Registered Window ℕ → Prop) : Prop where
  /-- A handler is constructed, and its icon registered. -/
  dock : ∀ h items window pid, Owners session h items → P h items → window ∈ t.icons →
    window ∉ items.keys → P (h.construct window) (items.insert window h.next pid)
  /-- A handler is constructed, but the process of its icon is shown as an SNI item. -/
  suppress : ∀ h items window, Owners session h items → P h items → window ∈ t.icons →
    window ∉ items.keys → P ((h.construct window).destruct h.next) items
  drop : ∀ h items window ref, Owners session h items → P h items →
    items.value window = some ref → t.xembed.value window = some ref → t.Drops session window e →
    P ((h.invalidate ref).destruct ref) (items.remove window)
  leaveNotify : ∀ window, e = .leaveNotify window → window ≠ 0 →
    P (t.handlers.leaveNotify (t.registeredRefs (.stored _)) window) t.xembed
  destroyNotify : ∀ window order, e = .destroyNotify window order → window ≠ 0 →
    session.ownId window = false →
    P (t.handlers.destroyNotify (t.registeredRefs order) window) t.xembed
  handler : ∀ handlerEvent, e = .handler handlerEvent →
    P (handlerStep session t.handlers handlerEvent) t.xembed

/-- The state during a sync: what is kept, and that an icon which TrayManager1 does not list is
registered only if it was before. -/
structure Syncing (session : Session) (t : TraySystem) (P : Handlers → Registered Window ℕ → Prop)
    (t' : TraySystem) : Prop where
  owners : Owners session t'.handlers t'.xembed
  kept : P t'.handlers t'.xembed
  value : ∀ window ref, t'.xembed.value window = some ref → window ∉ t.icons →
    t.xembed.value window = some ref

theorem Syncing.addXembedItem {t' : TraySystem} (h : t.Syncing session P t')
    (hkeeps : Keeps session t e P) (howned : t.Owned session) {window : Window}
    (hicon : window ∈ t.icons) : t.Syncing session P (t'.addXembedItem session window) := by
  have hforeign := howned.icons window hicon
  rcases t'.addXembedItem_cases session window with
    ⟨-, heq⟩ | ⟨hnew, -, heq⟩ | ⟨hnew, -, heq⟩ <;> rw [heq]
  · exact h
  · exact ⟨h.owners.suppress window, hkeeps.suppress _ _ _ h.owners h.kept hicon hnew, h.value⟩
  · refine ⟨h.owners.dock hforeign _, hkeeps.dock _ _ _ _ h.owners h.kept hicon hnew,
      fun other ref hvalue hgone => ?_⟩
    dsimp only at hvalue
    rw [Registered.value_insert, if_neg] at hvalue
    · exact h.value other ref hvalue hgone
    · intro hsame
      subst hsame
      exact hgone hicon

theorem Syncing.removeGoneItem {t' : TraySystem} (h : t.Syncing session P t')
    (hkeeps : Keeps session t e P) {current : List Window}
    (hgone : ∀ window, window ∉ current → window ∉ t.icons ∧ t.Drops session window e)
    (window : Window) : t.Syncing session P (t'.removeGoneItem current window) := by
  rcases t'.removeGoneItem_cases current window with
    ⟨-, heq⟩ | ⟨ref, hcurrent, hvalue, heq⟩ <;> rw [heq]
  · exact h
  · have hold := h.value window ref hvalue (hgone window hcurrent).1
    refine ⟨h.owners.drop hvalue,
      hkeeps.drop _ _ window ref h.owners h.kept hvalue hold (hgone window hcurrent).2,
      fun other ref' hvalue' hother => ?_⟩
    dsimp only at hvalue'
    rw [Registered.value_remove] at hvalue'
    split_ifs at hvalue'
    exact h.value other ref' hvalue' hother

theorem Keeps.syncTrayIcons {listed order : HashOrder Window}
    (hkeeps : Keeps session t (.syncTrayIcons listed order) P) (howned : t.Owned session)
    (h : P t.handlers t.xembed) :
    Owners session (t.syncTrayIcons session listed order).handlers
        (t.syncTrayIcons session listed order).xembed ∧
      P (t.syncTrayIcons session listed order).handlers
        (t.syncTrayIcons session listed order).xembed := by
  have hlisted (window : Window) : window ∈ listed.list t.icons.keys ↔ window ∈ t.icons := by
    rw [listed.mem_list, AList.mem_keys]
  unfold TraySystem.syncTrayIcons
  dsimp only
  split_ifs with htimers hsame
  · exact ⟨howned.owners, h⟩
  · exact ⟨howned.owners, h⟩
  have hadded : t.Syncing session P (run (TraySystem.addXembedItem session)
      { t with timers := t.timers - 1 } (listed.list t.icons.keys)) :=
    run_invariant_of_mem
      (fun window hmem t' ht' => ht'.addXembedItem hkeeps howned ((hlisted window).mp hmem))
      ⟨howned.owners, h, fun _ _ hvalue _ => hvalue⟩
  generalize run (TraySystem.addXembedItem session) _ _ = added at hadded ⊢
  have hremoves (t' : TraySystem) (window : Window) (ht' : t.Syncing session P t') :
      t.Syncing session P (t'.removeGoneItem (listed.list t.icons.keys) window) := by
    refine ht'.removeGoneItem hkeeps (fun window hcurrent => ?_) window
    have hgone := mt (hlisted window).mpr hcurrent
    exact ⟨hgone, Nat.pos_of_ne_zero htimers, hgone⟩
  have hremoved := run_invariant hremoves (order.list added.xembed.keys) hadded
  exact ⟨hremoved.owners, hremoved.kept⟩

theorem Keeps.handlerCreated {item : String} {order : HashOrder Window}
    (hkeeps : Keeps session t (.handlerCreated item order) P) (howned : t.Owned session)
    (h : P t.handlers t.xembed) :
    Owners session (t.handlerCreated session item order).handlers
        (t.handlerCreated session item order).xembed ∧
      P (t.handlerCreated session item order).handlers
        (t.handlerCreated session item order).xembed := by
  rcases t.handlerCreated_cases session item order with
    ⟨-, heq⟩ | ⟨-, -, heq⟩ | ⟨hcompletes, heq⟩ <;> rw [heq]
  · exact ⟨howned.owners, h⟩
  · exact ⟨howned.owners, h⟩
  cases hevicted : t.evicted order (session.itemPid item) with
  | none => exact ⟨howned.owners, h⟩
  | some found =>
    obtain ⟨window, ref⟩ := found
    obtain ⟨-, -, -, hvalue⟩ := evicted_eq_some hevicted
    exact ⟨howned.owners.drop hvalue, hkeeps.drop _ _ window ref howned.owners h hvalue hvalue
      ⟨hcompletes, ref, hevicted⟩⟩

/-- A property that all parts of the step keep is kept by the step. -/
theorem step_keeps (hkeeps : Keeps session t e P) (howned : t.Owned session)
    (h : P t.handlers t.xembed) :
    Owners session (t.step session e).handlers (t.step session e).xembed ∧
      P (t.step session e).handlers (t.step session e).xembed := by
  have howners := howned.owners
  cases e with
  | watcherChanged items => exact ⟨howners, h⟩
  | registedItemChanged order =>
    have hframe := (t.registedItemChanged_spec order).1
    rw [step, hframe.handlers, hframe.xembed]
    exact ⟨howners, h⟩
  | handlerCreated item order => exact hkeeps.handlerCreated howned h
  | registerIcon window pixmapData =>
    rw [step, registerIcon]
    split <;> exact ⟨howners, h⟩
  | unregisterIcon window =>
    rw [step, unregisterIcon]
    split <;> exact ⟨howners, h⟩
  | onTrayIconsChanged =>
    rw [step, onTrayIconsChanged]
    split <;> exact ⟨howners, h⟩
  | syncTrayIcons listed order => exact hkeeps.syncTrayIcons howned h
  | leaveNotify window =>
    rw [step]
    split_ifs with hzero
    · exact ⟨howners, h⟩
    · exact ⟨howners.frame (t.handlers.leaveNotify_frame _ window),
        hkeeps.leaveNotify window rfl hzero⟩
  | destroyNotify window order =>
    rw [step]
    split_ifs with hignored
    · exact ⟨howners, h⟩
    · simp only [Bool.or_eq_true, decide_eq_true_eq, not_or, Bool.not_eq_true] at hignored
      exact ⟨howners.destroyNotify (fun ref => mem_registeredRefs.mp) window,
        hkeeps.destroyNotify window order rfl hignored.1 hignored.2⟩
  | handler handlerEvent =>
    exact ⟨howners.handlerStep handlerEvent, hkeeps.handler handlerEvent rfl⟩
  | indicatorsChanged indicatorPaths order => exact ⟨howners, h⟩
  | indicatorDelayed i => exact ⟨howners, h⟩

/-- An icon that is listed after a step was listed before, or is another client's window. -/
theorem mem_icons_step {window : Window} (hmem : window ∈ (t.step session e).icons) :
    window ∈ t.icons ∨ session.ownId window = false := by
  cases e with
  | registedItemChanged order => exact .inl ((t.registedItemChanged_spec order).1.icons ▸ hmem)
  | handlerCreated item order =>
    rw [step, (t.handlerCreated_frame session item order).1] at hmem
    exact .inl hmem
  | registerIcon added pixmapData =>
    simp only [step, registerIcon] at hmem
    split_ifs at hmem with hguard
    · exact .inl hmem
    · rcases (AList.mem_insert _).mp hmem with hnew | hold
      · simp only [Bool.or_eq_true, decide_eq_true_eq, not_or, Bool.not_eq_true] at hguard
        exact .inr (hnew ▸ hguard.1)
      · exact .inl hold
  | unregisterIcon removed =>
    simp only [step, unregisterIcon] at hmem
    split_ifs at hmem
    · exact .inl (AList.mem_erase.mp hmem).2
    · exact .inl hmem
  | onTrayIconsChanged =>
    simp only [step, onTrayIconsChanged] at hmem
    split_ifs at hmem <;> exact .inl hmem
  | syncTrayIcons listed order =>
    rw [step, (t.syncTrayIcons_frame session listed order).1] at hmem
    exact .inl hmem
  | leaveNotify window =>
    simp only [step] at hmem
    split_ifs at hmem <;> exact .inl hmem
  | destroyNotify window order =>
    simp only [step] at hmem
    split_ifs at hmem <;> exact .inl hmem
  | _ => exact .inl hmem

theorem Owned.step (howned : t.Owned session) (hkeeps : Keeps session t e P)
    (h : P t.handlers t.xembed) :
    (t.step session e).Owned session ∧ P (t.step session e).handlers (t.step session e).xembed := by
  obtain ⟨howners, hP⟩ := step_keeps hkeeps howned h
  refine ⟨⟨fun window hmem => ?_, howners⟩, hP⟩
  exact (mem_icons_step hmem).elim (howned.icons window) id

theorem initial_owned (session : Session) : (initial session).Owned session where
  icons := session.icons_foreign
  owners :=
    { unused := fun _ _ => rfl
      container := fun _ => .inl rfl
      alive := fun _ _ hvalue => (nomatch hvalue)
      windowId := fun _ _ hvalue => (nomatch hvalue)
      foreign := fun window hmem => absurd hmem (Registered.not_mem_keys_empty window) }

theorem run_owned (session : Session) (es : List Event) :
    (run (step session) (initial session) es).Owned session := by
  have hkeeps (t : TraySystem) (e : Event) : Keeps session t e fun _ _ => True :=
    ⟨fun _ _ _ _ _ _ _ _ => trivial, fun _ _ _ _ _ _ _ => trivial,
      fun _ _ _ _ _ _ _ _ _ => trivial, fun _ _ _ => trivial, fun _ _ _ _ _ => trivial,
      fun _ _ => trivial⟩
  exact run_invariant (fun t e howned => (howned.step (hkeeps t e) trivial).1) es
    (initial_owned session)

end TraySystem

end DdeTrayLoader.Tray
