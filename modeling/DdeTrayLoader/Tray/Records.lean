import DdeTrayLoader.Tray.Ownership

/-!
# The owners of the input-shape records

`invalidate` and the destructor of a handler drop the records of its windows, but callbacks
that come later write them again: the queued initialisation and the input events of an
invalidated handler, and the un-shape timers and nested event loops that outlive it. In a
run where a handler sets an input shape only while it exists and owns its windows, every
recorded window is owned by a handler that exists.
-/

namespace DdeTrayLoader.Tray

open Transition

/-- The container of a handler comes with its initialisation, before the icon is enabled. -/
structure XembedProtocolHandler.Staged (handler : XembedProtocolHandler) : Prop where
  queued : handler.initQueued = true → handler.containerWid = 0
  hosted : handler.iconTimer = true ∨ handler.enabled = true → handler.containerWid ≠ 0

namespace TraySystem

variable {session : Session} {t : TraySystem} {e : Event} {h : Handlers}

/-- Every handler that callbacks refer to has its container. -/
structure Hosted (h : Handlers) : Prop where
  staged : ∀ ref, (h.handler ref).Staged
  outstanding : ∀ ref, h.Outstanding ref → (h.handler ref).containerWid ≠ 0

/-- Every recorded window is one of a handler that exists and owns it. -/
structure RecordsOwned (h : Handlers) : Prop where
  none : ¬h.Records 0
  owner : ∀ window, h.Records window → ∃ ref, (h.handler ref).alive = true ∧
    (h.handler ref).ownsX11Window window = true

/-- A window that a handler owns. -/
theorem ownsX11Window_cases {handler : XembedProtocolHandler} {window : Window}
    (howns : handler.ownsX11Window window = true) :
    handler.owned = true ∧ (window = handler.windowId ∨ window = handler.containerWid) := by
  simpa [XembedProtocolHandler.ownsX11Window] using howns

/-- The window is not one of those whose records go with the handler. -/
def Spares (handler : XembedProtocolHandler) (window : Window) : Prop :=
  window ≠ handler.windowId ∧ (handler.containerWid ≠ 0 → window ≠ handler.containerWid)

/-- `invalidate` drops the records of the windows the handler owns. -/
theorem records_invalidate {ref : ℕ} {window : Window}
    (hrecord : (h.invalidate ref).Records window) :
    h.Records window ∧ ((h.handler ref).owned = true → Spares (h.handler ref) window) := by
  unfold Handlers.invalidate at hrecord
  dsimp only at hrecord
  split_ifs at hrecord with hnot hcontainer
  · refine ⟨hrecord, fun howned => ?_⟩
    rw [howned] at hnot
    cases hnot
  · rw [Handlers.records_removeInputShapeRecord, Handlers.records_removeInputShapeRecord]
      at hrecord
    exact ⟨hrecord.2.2, fun _ => ⟨hrecord.2.1, fun _ => hrecord.1⟩⟩
  · rw [Handlers.records_removeInputShapeRecord] at hrecord
    exact ⟨hrecord.2, fun _ => ⟨hrecord.1, fun hnonzero => absurd hnonzero hcontainer⟩⟩

/-- The destructor drops the records of the handler's windows. -/
theorem records_destruct {ref : ℕ} {window : Window} (hrecord : (h.destruct ref).Records window) :
    h.Records window ∧ Spares (h.handler ref) window := by
  unfold Handlers.destruct at hrecord
  dsimp only at hrecord
  split_ifs at hrecord with hcontainer
  · obtain ⟨hwindow, hold⟩ := (Handlers.records_removeInputShapeRecord _).mp hrecord
    obtain ⟨hwid, hold⟩ := (Handlers.records_removeInputShapeRecord _).mp hold
    exact ⟨hold, hwindow, fun _ => hwid⟩
  · obtain ⟨hwindow, hold⟩ := (Handlers.records_removeInputShapeRecord _).mp hrecord
    exact ⟨hold, hwindow, fun hnonzero => absurd hnonzero hcontainer⟩

/-- A handler may change when the records of the windows it owned are dropped. -/
theorem RecordsOwned.cleared {h' : Handlers} (hrecords : RecordsOwned h) {ref : ℕ}
    (hothers : ∀ ref', ref' ≠ ref → h'.handler ref' = h.handler ref')
    (hcleared : ∀ window, h'.Records window → h.Records window ∧
      ((h.handler ref).owned = true → Spares (h.handler ref) window)) : RecordsOwned h' := by
  refine ⟨fun hzero => hrecords.none (hcleared 0 hzero).1, fun window hrecord => ?_⟩
  obtain ⟨hold, hspares⟩ := hcleared window hrecord
  obtain ⟨ref', halive, howns⟩ := hrecords.owner window hold
  have hne : ref' ≠ ref := by
    intro hsame
    subst hsame
    obtain ⟨howned, hwindow⟩ := ownsX11Window_cases howns
    obtain ⟨hicon, hcontainer⟩ := hspares howned
    have hwid := hwindow.resolve_left hicon
    by_cases hzero : (h.handler ref').containerWid = 0
    · exact hrecords.none (hzero ▸ hwid ▸ hold)
    · exact hcontainer hzero hwid
  exact ⟨ref', by rw [hothers ref' hne, halive], by rw [hothers ref' hne, howns]⟩

theorem RecordsOwned.invalidate (hrecords : RecordsOwned h) (ref : ℕ) :
    RecordsOwned (h.invalidate ref) :=
  hrecords.cleared (fun ref' hne => (h.invalidate_handler ref ref').trans (if_neg hne))
    fun _ => records_invalidate

theorem RecordsOwned.destruct (hrecords : RecordsOwned h) (ref : ℕ) :
    RecordsOwned (h.destruct ref) :=
  hrecords.cleared (fun ref' hne => (h.destruct_handler ref ref').trans (if_neg hne))
    fun _ hrecord => (records_destruct hrecord).imp id fun hspares _ => hspares

theorem RecordsOwned.construct (hrecords : RecordsOwned h) {items : Registered Window ℕ}
    (howners : Owners session h items) (window : Window) : RecordsOwned (h.construct window) := by
  refine ⟨hrecords.none, fun other hrecord => ?_⟩
  obtain ⟨ref, halive, howns⟩ := hrecords.owner other hrecord
  have hne : ref ≠ h.next := (howners.alive_lt halive).ne
  refine ⟨ref, ?_⟩
  rw [Handlers.construct_handler, if_neg hne]
  exact ⟨halive, howns⟩

/-- The handler that gives its container an input shape in this callback. -/
def shapes (session : Session) (h : Handlers) : HandlerEvent → Option ℕ
  | .initX11resources ref container =>
    if (h.handler ref).initQueued && session.ownId container && container ≠ 0 then some ref
    else none
  | .iconCaptured _ _ => none
  | .sendHover ref =>
    if (h.handler ref).alive && (h.handler ref).enabled && !session.wayland then some ref
    else none
  | .sendClick ref geometry =>
    if (h.handler ref).alive && (h.handler ref).enabled && geometry && !session.wayland then
      some ref
    else none
  | .loopQuits => h.frames.head?.map Prod.fst
  | .unshape i => h.unshapes[i]?

theorem records_resume {ref : ℕ} {waiting : Waiting} {window : Window}
    (hrecord : (h.resume ref waiting).Records window) :
    h.Records window ∨ window = (h.handler ref).containerWid := by
  cases waiting with
  | sendHover => exact ((h.records_setInputShape).mp hrecord).symm
  | sendClick =>
    rcases (Handlers.records_setInputShape _).mp hrecord with hwindow | hmoved
    · exact .inr hwindow
    · exact ((h.records_setInputShape).mp hmoved).symm

theorem records_wait {wayland : Bool} {ref : ℕ} {waiting : Waiting} {window : Window}
    (hrecord : (h.wait wayland ref waiting).Records window) :
    h.Records window ∨ (wayland = false ∧ window = (h.handler ref).containerWid) := by
  cases wayland with
  | false => exact (records_resume hrecord).imp id fun hwindow => ⟨rfl, hwindow⟩
  | true => exact .inl hrecord

/-- A hover or a click sets the shape at once, unless it waits for the container to move. -/
theorem records_ready {ready wayland : Bool} {ref : ℕ} {waiting : Waiting} {window : Window}
    (hrecord : (if ready then h.wait wayland ref waiting else h).Records window) :
    h.Records window ∨ ∃ ref', (if ready && !wayland then some ref else none) = some ref' ∧
      window = ((if ready then h.wait wayland ref waiting else h).handler ref').containerWid := by
  cases ready with
  | false => exact .inl hrecord
  | true =>
    rcases records_wait hrecord with hold | ⟨hwayland, hwindow⟩
    · exact .inl hold
    · subst hwayland
      refine .inr ⟨ref, rfl, ?_⟩
      rw [if_pos rfl, (h.wait_frame _ ref _).handler, hwindow]

/-- A callback adds a record only for the container of the handler that sets the shape. -/
theorem records_handlerStep {e : HandlerEvent} {window : Window}
    (hrecord : (handlerStep session h e).Records window) :
    h.Records window ∨ ∃ ref, shapes session h e = some ref ∧
      window = ((handlerStep session h e).handler ref).containerWid := by
  cases e with
  | initX11resources ref container =>
    simp only [handlerStep, shapes] at hrecord ⊢
    split_ifs at hrecord ⊢ with hguard
    · rcases (Handlers.records_setInputShape _).mp hrecord with hwindow | hold
      · refine .inr ⟨ref, rfl, ?_⟩
        rw [Handlers.initX11resources_handler, if_pos rfl, hwindow]
      · exact .inl hold
    · exact .inl hrecord
  | iconCaptured ref enable =>
    simp only [handlerStep] at hrecord
    split_ifs at hrecord <;> exact .inl hrecord
  | sendHover ref => exact records_ready hrecord
  | sendClick ref geometry => exact records_ready hrecord
  | loopQuits =>
    have hframe := h.loopQuits_frame
    simp only [handlerStep, shapes] at hrecord ⊢
    rw [hframe.handler]
    unfold Handlers.loopQuits at hrecord
    cases hframes : h.frames with
    | nil =>
      rw [hframes] at hrecord
      exact .inl hrecord
    | cons frame frames =>
      rw [hframes] at hrecord
      exact (records_resume hrecord).imp id fun hwindow => ⟨frame.1, rfl, hwindow⟩
  | unshape i =>
    have hframe := h.unshape_frame i
    simp only [handlerStep, shapes] at hrecord ⊢
    rw [hframe.handler]
    unfold Handlers.unshape at hrecord
    cases hunshape : h.unshapes[i]? with
    | none =>
      rw [hunshape] at hrecord
      exact .inl hrecord
    | some ref =>
      rw [hunshape] at hrecord
      exact ((Handlers.records_setInputShape _).mp hrecord).symm.imp id
        fun hwindow => ⟨ref, rfl, hwindow⟩

/-- A handler keeps its container once it has one. -/
theorem handlerStep_containerWid (session : Session) (hhosted : Hosted h) (e : HandlerEvent)
    {ref : ℕ} (hnonzero : (h.handler ref).containerWid ≠ 0) :
    ((handlerStep session h e).handler ref).containerWid = (h.handler ref).containerWid := by
  rcases handlerStep_cases session h e with hframe |
    ⟨ref', container, -, hqueued, -, -, heq⟩ | ⟨ref', enable, -, -, heq⟩
  · rw [hframe.handler]
  · have href : ref ≠ ref' := by
      intro hsame
      subst hsame
      exact hnonzero ((hhosted.staged ref).queued hqueued)
    rw [heq, Handlers.initX11resources_handler, if_neg href]
  · rw [heq, Handlers.iconCaptured_handler]
    split_ifs with href
    · rw [href]
    · rfl

/-- A handler that sets a shape has its container by then. -/
theorem containerWid_of_shapes (hhosted : Hosted h) {e : HandlerEvent} {ref : ℕ}
    (hshapes : shapes session h e = some ref) :
    ((handlerStep session h e).handler ref).containerWid ≠ 0 := by
  have hkept (hnonzero : (h.handler ref).containerWid ≠ 0) :
      ((handlerStep session h e).handler ref).containerWid ≠ 0 := by
    rw [handlerStep_containerWid session hhosted e hnonzero]
    exact hnonzero
  cases e with
  | initX11resources ref' container =>
    simp only [shapes] at hshapes
    split_ifs at hshapes with hguard
    obtain rfl := Option.some.inj hshapes
    simp only [handlerStep, if_pos hguard]
    rw [Handlers.initX11resources_handler, if_pos rfl]
    simpa using (Bool.and_eq_true_iff.mp hguard).2
  | iconCaptured ref' enable => cases hshapes
  | sendHover ref' =>
    simp only [shapes] at hshapes
    split_ifs at hshapes with hguard
    obtain rfl := Option.some.inj hshapes
    simp only [Bool.and_eq_true] at hguard
    exact hkept ((hhosted.staged _).hosted (.inr hguard.1.2))
  | sendClick ref' geometry =>
    simp only [shapes] at hshapes
    split_ifs at hshapes with hguard
    obtain rfl := Option.some.inj hshapes
    simp only [Bool.and_eq_true] at hguard
    exact hkept ((hhosted.staged _).hosted (.inr hguard.1.1.2))
  | loopQuits =>
    obtain ⟨frame, hhead, rfl⟩ := Option.map_eq_some_iff.mp hshapes
    exact hkept (hhosted.outstanding _ (.inr ⟨frame.2, List.mem_of_mem_head? hhead⟩))
  | unshape i => exact hkept (hhosted.outstanding _ (.inl (List.mem_of_getElem? hshapes)))

theorem Hosted.construct (hhosted : Hosted h) {items : Registered Window ℕ}
    (howners : Owners session h items) (window : Window) : Hosted (h.construct window) := by
  refine ⟨fun ref => ?_, fun ref houtstanding => ?_⟩
  · rw [Handlers.construct_handler]
    split_ifs
    · exact ⟨fun _ => rfl, by simp⟩
    · exact hhosted.staged ref
  · have hold := hhosted.outstanding ref houtstanding
    rw [Handlers.construct_handler, if_neg]
    · exact hold
    · intro hsame
      subst hsame
      exact hold (by rw [howners.unused _ (le_refl _)])

theorem Hosted.destruct (hhosted : Hosted h) (ref : ℕ) : Hosted (h.destruct ref) := by
  refine ⟨fun ref' => ?_, fun ref' houtstanding => ?_⟩
  · rw [Handlers.destruct_handler]
    split_ifs
    · exact ⟨nofun, fun hready => (hhosted.staged ref).hosted (.inr (by simpa using hready))⟩
    · exact hhosted.staged ref'
  · have hold := hhosted.outstanding ref'
      ((Handlers.outstanding_congr (h.destruct_frame ref)).mp houtstanding)
    rw [Handlers.destruct_handler]
    split_ifs with href
    · exact href ▸ hold
    · exact hold

theorem Hosted.invalidate (hhosted : Hosted h) (ref : ℕ) : Hosted (h.invalidate ref) := by
  refine ⟨fun ref' => ?_, fun ref' houtstanding => ?_⟩
  · rw [Handlers.invalidate_handler]
    split_ifs
    · exact { hhosted.staged ref with }
    · exact hhosted.staged ref'
  · have hold := hhosted.outstanding ref'
      ((Handlers.outstanding_congr (h.invalidate_frame ref)).mp houtstanding)
    rw [Handlers.invalidate_handler]
    split_ifs with href
    · exact href ▸ hold
    · exact hold

theorem Hosted.handlerStep (hhosted : Hosted h) (e : HandlerEvent) :
    Hosted (handlerStep session h e) := by
  refine ⟨fun ref => ?_, fun ref houtstanding => ?_⟩
  · rcases handlerStep_cases session h e with hframe |
      ⟨ref', container, -, -, -, hnonzero, heq⟩ | ⟨ref', enable, -, htimer, heq⟩
    · rw [hframe.handler]
      exact hhosted.staged ref
    · rw [heq, Handlers.initX11resources_handler]
      split_ifs
      · exact ⟨nofun, fun _ => hnonzero⟩
      · exact hhosted.staged ref
    · rw [heq, Handlers.iconCaptured_handler]
      split_ifs
      · exact ⟨(hhosted.staged ref').queued, fun _ => (hhosted.staged ref').hosted (.inl htimer)⟩
      · exact hhosted.staged ref
  · have hcontainer : (h.handler ref).containerWid ≠ 0 :=
      (outstanding_handlerStep houtstanding).elim (hhosted.outstanding ref)
        fun hready => (hhosted.staged ref).hosted (.inr hready.2)
    rw [handlerStep_containerWid session hhosted e hcontainer]
    exact hcontainer

theorem hosted_keeps (hhosted : Hosted t.handlers) : Keeps session t e fun h _ => Hosted h where
  dock _ _ window _ howners hkept _ _ := hkept.construct howners window
  suppress _ _ window howners hkept _ _ := (hkept.construct howners window).destruct _
  drop _ _ _ ref _ hkept _ _ _ := (hkept.invalidate ref).destruct ref
  leaveNotify window _ _ := by
    refine ⟨fun ref => ?_, fun ref houtstanding => ?_⟩
    · rw [(t.handlers.leaveNotify_frame _ window).handler]
      exact hhosted.staged ref
    · rw [(t.handlers.leaveNotify_frame _ window).handler]
      exact hhosted.outstanding ref (Handlers.outstanding_leaveNotify.mp houtstanding)
  destroyNotify window order _ _ _ := by
    have hcounted : Hosted { t.handlers with
        destroyed := Function.update t.handlers.destroyed window
          (t.handlers.destroyed window + 1) } := { hhosted with }
    unfold Handlers.destroyNotify
    dsimp only
    split
    · exact hcounted.invalidate _
    · exact hcounted
  handler handlerEvent _ := hhosted.handlerStep handlerEvent

/-- Whenever a handler sets an input shape, it exists and owns its windows. -/
def ShapesOwn (session : Session) (t : TraySystem) : Event → Prop
  | .handler e => ∀ ref, shapes session t.handlers e = some ref →
    (t.handlers.handler ref).alive = true ∧ (t.handlers.handler ref).owned = true
  | _ => True

theorem RecordsOwned.handlerStep (hrecords : RecordsOwned h) (hhosted : Hosted h) {e : HandlerEvent}
    (hshapes : ∀ ref, shapes session h e = some ref →
      (h.handler ref).alive = true ∧ (h.handler ref).owned = true) :
    RecordsOwned (handlerStep session h e) := by
  refine ⟨fun hzero => ?_, fun window hrecord => ?_⟩
  · rcases records_handlerStep hzero with hold | ⟨ref, href, hwindow⟩
    · exact hrecords.none hold
    · exact containerWid_of_shapes hhosted href hwindow.symm
  rcases records_handlerStep hrecord with hold | ⟨ref, href, hwindow⟩
  · obtain ⟨ref, halive, howns⟩ := hrecords.owner window hold
    obtain ⟨howned, hwindow⟩ := ownsX11Window_cases howns
    obtain ⟨hsame, hsame', hicon, -⟩ := handlerStep_members session h e ref
    refine ⟨ref, by rw [hsame, halive], ?_⟩
    unfold XembedProtocolHandler.ownsX11Window
    rw [hsame', howned, hicon]
    rcases hwindow with hwindow | hwindow
    · simp [hwindow]
    · have hnonzero : (h.handler ref).containerWid ≠ 0 := by
        rw [← hwindow]
        intro hsame
        subst hsame
        exact hrecords.none hold
      simp [handlerStep_containerWid session hhosted e hnonzero, hwindow]
  · obtain ⟨halive, howned⟩ := hshapes ref href
    obtain ⟨hsame, hsame', -, -⟩ := handlerStep_members session h e ref
    refine ⟨ref, by rw [hsame, halive], ?_⟩
    unfold XembedProtocolHandler.ownsX11Window
    rw [hsame', howned, ← hwindow]
    simp

theorem RecordsOwned.leaveNotify (hrecords : RecordsOwned h) {items : Registered Window ℕ}
    (howners : Owners session h items) {registered : List ℕ}
    (hregistered : ∀ ref ∈ registered, ∃ window, items.value window = some ref) {window : Window}
    (hzero : window ≠ 0) : RecordsOwned (h.leaveNotify registered window) := by
  unfold Handlers.leaveNotify
  split_ifs with hmanaged
  · refine ⟨fun hrecord => ?_, fun other hrecord => ?_⟩
    · exact ((h.records_setInputShape).mp hrecord).elim hzero.symm hrecords.none
    rcases (h.records_setInputShape).mp hrecord with rfl | hold
    · obtain ⟨ref, hmem, howns⟩ := List.any_eq_true.mp hmanaged
      obtain ⟨icon, hvalue⟩ := hregistered ref hmem
      exact ⟨ref, howners.alive icon ref hvalue, howns⟩
    · exact hrecords.owner other hold
  · exact hrecords

theorem recordsOwned_keeps (howned : t.Owned session) (hhosted : Hosted t.handlers)
    (hrecords : RecordsOwned t.handlers) (hshapes : t.ShapesOwn session e) :
    Keeps session t e fun h _ => RecordsOwned h where
  dock _ _ window _ howners hkept _ _ := hkept.construct howners window
  suppress _ _ window howners hkept _ _ := (hkept.construct howners window).destruct _
  drop _ _ _ ref _ hkept _ _ _ := (hkept.invalidate ref).destruct ref
  leaveNotify _ _ hzero :=
    hrecords.leaveNotify howned.owners (fun _ => mem_registeredRefs.mp) hzero
  destroyNotify window order _ _ _ := by
    have hcounted : RecordsOwned { t.handlers with
        destroyed := Function.update t.handlers.destroyed window
          (t.handlers.destroyed window + 1) } := { hrecords with }
    unfold Handlers.destroyNotify
    dsimp only
    split
    · exact hcounted.invalidate _
    · exact hcounted
  handler handlerEvent heq := by
    subst heq
    exact hrecords.handlerStep hhosted hshapes

theorem initial_hosted (session : Session) : Hosted (initial session).handlers where
  staged _ := ⟨nofun, by simp [initial, Handlers.initial]⟩
  outstanding _ houtstanding := by
    simp [initial, Handlers.initial, Handlers.Outstanding] at houtstanding

theorem initial_recordsOwned (session : Session) : RecordsOwned (initial session).handlers where
  none := Bool.false_ne_true
  owner _ hrecord := absurd hrecord Bool.false_ne_true

/-- In a run whose handlers set input shapes only while they exist and own their windows, every
window with a record is one of a handler that exists and owns it. -/
theorem records_owned (session : Session) (es : List Event)
    (hshapes : Obeys (step session) (ShapesOwn session) (initial session) es) (window : Window)
    (hrecord : (run (step session) (initial session) es).handlers.Records window) :
    ∃ ref, ((run (step session) (initial session) es).handlers.handler ref).alive = true ∧
      ((run (step session) (initial session) es).handlers.handler ref).ownsX11Window window =
        true := by
  have hinvariant := run_invariant_of_obeys (C := ShapesOwn session)
    (I := fun t : TraySystem => (t.Owned session ∧ Hosted t.handlers) ∧ RecordsOwned t.handlers)
    (fun t e ht hshape => ⟨ht.1.1.step (hosted_keeps ht.1.2) ht.1.2,
      (ht.1.1.step (recordsOwned_keeps ht.1.1 ht.1.2 ht.2 hshape) ht.2).2⟩)
    ⟨⟨initial_owned session, initial_hosted session⟩, initial_recordsOwned session⟩ hshapes
  exact hinvariant.2.owner window hrecord

/-- A container gets a record when it is created, and its handler owns it. -/
theorem records_owned_of_container :
    ∃ ref, ((run (step (.empty false (fun _ => 0) fun _ _ => 0))
        (initial (.empty false (fun _ => 0) fun _ _ => 0))
        [.registerIcon 1 [], .onTrayIconsChanged, .syncTrayIcons (.stored _) (.stored _),
          .handler (.initX11resources 0 0x200000)]).handlers.handler ref).alive = true ∧
      ((run (step (.empty false (fun _ => 0) fun _ _ => 0))
        (initial (.empty false (fun _ => 0) fun _ _ => 0))
        [.registerIcon 1 [], .onTrayIconsChanged, .syncTrayIcons (.stored _) (.stored _),
          .handler (.initX11resources 0 0x200000)]).handlers.handler ref).ownsX11Window 0x200000 =
        true := by
  refine records_owned (.empty false (fun _ => 0) fun _ _ => 0) _ ?_ 0x200000 (by decide)
  refine ⟨trivial, trivial, trivial, fun ref href => ?_, trivial⟩
  have hinit : some 0 = some ref := by
    rw [← href]
    decide
  obtain rfl : 0 = ref := Option.some.inj hinit
  decide

/-- The un-shape timer of a click outlives the ownership of the container. -/
theorem not_records_owned_after_unshape :
    ∃ (session : Session) (es : List Event) (window : Window),
      (run (step session) (initial session) es).handlers.Records window ∧
      ¬∃ ref, ((run (step session) (initial session) es).handlers.handler ref).alive = true ∧
        ((run (step session) (initial session) es).handlers.handler ref).ownsX11Window window =
          true := by
  refine ⟨.empty false (fun _ => 0) fun _ _ => 0,
    [.registerIcon 1 [], .onTrayIconsChanged, .syncTrayIcons (.stored _) (.stored _),
      .handler (.initX11resources 0 0x200000), .handler (.iconCaptured 0 true),
      .handler (.sendClick 0 true), .destroyNotify 1 (.stored _), .handler (.unshape 0)],
    0x200000, by decide, ?_⟩
  intro hboth
  obtain ⟨ref, halive, howns⟩ := hboth
  obtain rfl : ref = 0 := Nat.lt_one_iff.mp ((run_owned _ _).owners.alive_lt halive)
  revert howns
  decide

end TraySystem

end DdeTrayLoader.Tray
