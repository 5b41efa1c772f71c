import DdeTrayLoader.Tray.Ownership

/-!
# Recycled window ids

A handler loses its icon window when the X server says the window is destroyed, but stays
registered until a sync finds that TrayManager1 no longer lists the id. A window that takes
over the id and docks before that sync keeps the id listed, so the sync keeps the handler of
the destroyed window. Every sync leaves only handlers that own their windows exactly if it
never meets a listed id whose window was destroyed since its handler was constructed.
-/

namespace DdeTrayLoader.Tray

open Transition

namespace TraySystem

variable {session : Session} {t : TraySystem} {e : Event}

/-- A registered handler owns its window exactly if no window of the id has been destroyed
since its construction. -/
def Current (h : Handlers) (items : Registered Window ℕ) : Prop :=
  ∀ window ref, items.value window = some ref →
    (h.handler ref).incarnation ≤ h.destroyed window ∧
      ((h.handler ref).owned = true ↔ (h.handler ref).incarnation = h.destroyed window)

/-- A registered handler owns, of the windows that can be icons, the one it is registered for. -/
theorem Owners.owns_iff {h : Handlers} {items : Registered Window ℕ}
    (howners : Owners session h items) {window other : Window} {ref : ℕ}
    (hvalue : items.value other = some ref) (hforeign : session.ownId window = false)
    (hzero : window ≠ 0) :
    (h.handler ref).ownsX11Window window = true ↔
      (h.handler ref).owned = true ∧ window = other := by
  unfold XembedProtocolHandler.ownsX11Window
  rw [howners.windowId other ref hvalue]
  have hcontainer : window ≠ (h.handler ref).containerWid := by
    intro heq
    rcases howners.container ref with hnone | hown
    · exact hzero (heq.trans hnone)
    · rw [← heq, hforeign] at hown
      cases hown
  simp [hcontainer]

/-- The handler that is registered for a destroyed window ends up without it, and the handlers
of other windows are left alone. -/
theorem Owners.destroyNotify_handler {h : Handlers} {items : Registered Window ℕ}
    (howners : Owners session h items) {registered : List ℕ}
    (hregistered : ∀ ref, ref ∈ registered ↔ ∃ window, items.value window = some ref)
    {window other : Window} {ref : ℕ} (hzero : window ≠ 0)
    (hforeign : session.ownId window = false) (hvalue : items.value other = some ref) :
    (h.destroyNotify registered window).handler ref =
      if other = window then { h.handler ref with owned := false } else h.handler ref := by
  unfold Handlers.destroyNotify
  dsimp only
  split
  · rename_i found hfound
    obtain ⟨icon, hicon⟩ := (hregistered found).mp (List.mem_of_find?_eq_some hfound)
    have howns : (h.handler found).ownsX11Window window = true := by
      simpa using List.find?_some hfound
    obtain rfl : window = icon := ((howners.owns_iff hicon hforeign hzero).mp howns).2
    rw [Handlers.invalidate_handler]
    by_cases hother : other = window
    · have href : ref = found := Option.some.inj (hvalue.symm.trans (hother ▸ hicon))
      rw [if_pos href, if_pos hother, href]
    · rw [if_neg (howners.ref_ne hicon hvalue hother), if_neg hother]
  · rename_i hnone
    split_ifs with hother
    · have hnot := List.find?_eq_none.mp hnone ref ((hregistered ref).mpr ⟨other, hvalue⟩)
      rw [howners.owns_iff hvalue hforeign hzero, not_and_or] at hnot
      have howned : (h.handler ref).owned = false :=
        Bool.eq_false_iff.mpr (hnot.resolve_right (not_not_intro hother.symm))
      rw [← howned]
    · rfl

theorem current_keeps (howned : t.Owned session) (hcurrent : Current t.handlers t.xembed) :
    Keeps session t e Current where
  dock h items window pid howners hkept _ hnew other ref hvalue := by
    rcases howners.dock_value hvalue with ⟨hother, href⟩ | ⟨-, hold, heq⟩
    · rw [Handlers.construct_handler, if_pos href, hother]
      exact ⟨le_refl _, iff_of_true rfl rfl⟩
    · rw [heq]
      exact hkept other ref hold
  suppress h items window howners hkept _ hnew other ref hvalue := by
    rw [Owners.suppress_handler (howners.registered_lt hvalue).ne,
      (Handlers.destruct_frame _ _).destroyed]
    exact hkept other ref hvalue
  drop h items window ref howners hkept hvalue _ _ other ref' hvalue' := by
    obtain ⟨-, hold, hne⟩ := howners.drop_value hvalue hvalue'
    rw [Owners.drop_handler hne, (Handlers.destruct_frame _ _).destroyed,
      (Handlers.invalidate_frame _ _).destroyed]
    exact hkept other ref' hold
  leaveNotify window _ _ other ref hvalue := by
    have hframe := t.handlers.leaveNotify_frame (t.registeredRefs (.stored _)) window
    rw [hframe.handler, hframe.destroyed]
    exact hcurrent other ref hvalue
  destroyNotify window order _ hzero hforeign other ref hvalue := by
    have hold := hcurrent other ref hvalue
    rw [(t.handlers.destroyNotify_frame _ window).2.2,
      howned.owners.destroyNotify_handler (fun _ => mem_registeredRefs) hzero hforeign hvalue]
    by_cases hother : other = window
    · subst hother
      rw [if_pos rfl, Function.update_self]
      dsimp only
      exact ⟨hold.1.trans (Nat.le_succ _), iff_of_false Bool.false_ne_true (by omega)⟩
    · rw [if_neg hother, Function.update_of_ne hother]
      exact hold
  handler handlerEvent _ other ref hvalue := by
    obtain ⟨-, howned, -, hincarnation⟩ :=
      handlerStep_members session t.handlers handlerEvent ref
    rw [howned, hincarnation, handlerStep_destroyed]
    exact hcurrent other ref hvalue

theorem Owned.current_step (howned : t.Owned session) (hcurrent : Current t.handlers t.xembed)
    (e : Event) :
    (t.step session e).Owned session ∧
      Current (t.step session e).handlers (t.step session e).xembed :=
  howned.step (current_keeps howned hcurrent) hcurrent

/-- What a sync makes of the registered handlers: those of icons that are still listed stay,
and those that join them are constructed for the windows that have the ids now. -/
structure Synced (t : TraySystem) (h : Handlers) (items : Registered Window ℕ) : Prop where
  kept : ∀ window ref, t.xembed.value window = some ref → window ∈ t.icons →
    items.value window = some ref ∧ h.handler ref = t.handlers.handler ref
  joined : ∀ window ref, items.value window = some ref → t.xembed.value window = some ref ∨
    (h.handler ref).incarnation = t.handlers.destroyed window
  destroyed : h.destroyed = t.handlers.destroyed

theorem synced_keeps (session : Session) (t : TraySystem) (listed order : HashOrder Window) :
    Keeps session t (.syncTrayIcons listed order) t.Synced where
  dock h items window pid howners hsynced _ hnew := by
    refine ⟨fun other ref hvalue hicon => ?_, fun other ref hvalue => ?_, hsynced.destroyed⟩
    · obtain ⟨hkept, hhandler⟩ := hsynced.kept other ref hvalue hicon
      have hother : other ≠ window := by
        intro hsame
        subst hsame
        exact hnew ((items.mem_keys_iff).mpr ⟨ref, hkept⟩)
      rw [Registered.value_insert, if_neg hother, Handlers.construct_handler,
        if_neg (howners.registered_lt hkept).ne]
      exact ⟨hkept, hhandler⟩
    · rcases howners.dock_value hvalue with ⟨hother, href⟩ | ⟨-, hold, heq⟩
      · rw [Handlers.construct_handler, if_pos href, hother, ← hsynced.destroyed]
        exact .inr rfl
      · rw [heq]
        exact hsynced.joined other ref hold
  suppress h items window howners hsynced _ _ := by
    refine ⟨fun other ref hvalue hicon => ?_, fun other ref hvalue => ?_, ?_⟩
    · obtain ⟨hkept, hhandler⟩ := hsynced.kept other ref hvalue hicon
      rw [Owners.suppress_handler (howners.registered_lt hkept).ne]
      exact ⟨hkept, hhandler⟩
    · rw [Owners.suppress_handler (howners.registered_lt hvalue).ne]
      exact hsynced.joined other ref hvalue
    · exact (Handlers.destruct_frame _ _).destroyed.trans hsynced.destroyed
  drop h items window ref howners hsynced hvalue _ hdrops := by
    refine ⟨fun other ref' hvalue' hicon => ?_, fun other ref' hvalue' => ?_, ?_⟩
    · obtain ⟨hkept, hhandler⟩ := hsynced.kept other ref' hvalue' hicon
      have hother : other ≠ window := by
        intro hsame
        subst hsame
        exact hdrops.2 hicon
      rw [Registered.value_remove, if_neg hother,
        Owners.drop_handler (howners.ref_ne hvalue hkept hother)]
      exact ⟨hkept, hhandler⟩
    · obtain ⟨-, hold, hne⟩ := howners.drop_value hvalue hvalue'
      rw [Owners.drop_handler hne]
      exact hsynced.joined other ref' hold
    · exact ((Handlers.destruct_frame _ _).destroyed.trans
        (Handlers.invalidate_frame _ _).destroyed).trans hsynced.destroyed
  leaveNotify _ heq := nomatch heq
  destroyNotify _ _ heq := nomatch heq
  handler _ heq := nomatch heq

/-- After the callback of an armed timer every registered handler owns its icon window, and
was constructed for the window that has the id now. -/
def SyncsToOwners (session : Session) (t : TraySystem) : Event → Prop
  | .syncTrayIcons listed order => 0 < t.timers →
    ∀ window ref, (t.syncTrayIcons session listed order).xembed.value window = some ref →
      ((t.syncTrayIcons session listed order).handlers.handler ref).ownsX11Window window = true ∧
      ((t.syncTrayIcons session listed order).handlers.handler ref).incarnation =
        (t.syncTrayIcons session listed order).handlers.destroyed window
  | _ => True

/-- When a sync begins, no window of a registered id that is still listed has been destroyed
since the handler was constructed. -/
def NoneRecycled (t : TraySystem) : Event → Prop
  | .syncTrayIcons _ _ => 0 < t.timers →
    ∀ window ref, t.xembed.value window = some ref → window ∈ t.icons →
      (t.handlers.handler ref).incarnation = t.handlers.destroyed window
  | _ => True

theorem syncsToOwners_iff (howned : t.Owned session) (hcurrent : Current t.handlers t.xembed)
    (e : Event) : t.SyncsToOwners session e ↔ t.NoneRecycled e := by
  cases e with
  | syncTrayIcons listed order =>
    apply forall_congr'
    intro htimers
    obtain ⟨howned', hcurrent'⟩ := howned.current_step hcurrent (.syncTrayIcons listed order)
    have hsynced : t.Synced (t.syncTrayIcons session listed order).handlers
        (t.syncTrayIcons session listed order).xembed :=
      (step_keeps (t.synced_keeps session listed order) howned
        ⟨fun _ _ hvalue _ => ⟨hvalue, rfl⟩, fun _ _ hvalue => .inl hvalue, rfl⟩).2
    rw [step] at howned' hcurrent'
    constructor
    · intro hsync window ref hvalue hicon
      obtain ⟨hkept, hhandler⟩ := hsynced.kept window ref hvalue hicon
      rw [← hhandler, ← hsynced.destroyed]
      exact (hsync window ref hkept).2
    · intro hnone window ref hvalue
      have hkey := ((t.syncTrayIcons session listed order).xembed.mem_keys_iff).mpr ⟨ref, hvalue⟩
      have hicon : window ∈ t.icons :=
        (((t.syncTrayIcons_spec session listed order htimers).2.2.1 window).mp hkey).1
      have hincarnation :
          ((t.syncTrayIcons session listed order).handlers.handler ref).incarnation =
            (t.syncTrayIcons session listed order).handlers.destroyed window := by
        rw [hsynced.destroyed]
        rcases hsynced.joined window ref hvalue with hold | hnew
        · rw [(hsynced.kept window ref hold hicon).2]
          exact hnone window ref hold hicon
        · exact hnew
      refine ⟨?_, hincarnation⟩
      unfold XembedProtocolHandler.ownsX11Window
      rw [((hcurrent' window ref hvalue).2).mpr hincarnation,
        howned'.owners.windowId window ref hvalue]
      simp
  | _ => exact Iff.rfl

/-- Every sync of a run leaves only handlers that own the windows of their ids, exactly if no
sync of the run meets a recycled id. -/
theorem syncsToOwners_iff_noneRecycled (session : Session) (es : List Event) :
    Obeys (step session) (SyncsToOwners session) (initial session) es ↔
      Obeys (step session) NoneRecycled (initial session) es := by
  refine obeys_congr (I := fun t => t.Owned session ∧ Current t.handlers t.xembed)
    (fun t e h => h.1.current_step h.2 e) (fun t e h => syncsToOwners_iff h.1 h.2 e) es ?_
  exact ⟨initial_owned session, fun _ _ hvalue => (nomatch hvalue)⟩

/-- An icon window is destroyed, and its id docked again before the next sync. -/
theorem not_syncsToOwners_after_recycling :
    ¬Obeys (step (.empty false (fun _ => 0) fun _ _ => 0))
      (SyncsToOwners (.empty false (fun _ => 0) fun _ _ => 0))
      (initial (.empty false (fun _ => 0) fun _ _ => 0))
      [.registerIcon 1 [], .onTrayIconsChanged, .syncTrayIcons (.stored _) (.stored _),
        .destroyNotify 1 (.stored _), .unregisterIcon 1, .onTrayIconsChanged, .registerIcon 1 [],
        .syncTrayIcons (.stored _) (.stored _)] := by
  intro hobeys
  have howns := (hobeys.2.2.2.2.2.2.2.1 (by decide) 1 0 (by decide)).1
  revert howns
  decide

end TraySystem

end DdeTrayLoader.Tray
