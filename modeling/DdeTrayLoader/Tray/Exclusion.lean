import DdeTrayLoader.Tray.Steps

/-!
# One process, one protocol

No process should be shown through SNI and XEmbed at once. What keeps the protocols apart is
one mark for each process, and it fails in two ways. An SNI item that is registered drops
one icon of its process, although the process may have several. And removing one of several
SNI items of a process removes the mark of all of them, so that the next sync no longer
suppresses its icons. A run in which neither happens keeps the protocols apart, and only
such a run does.
-/

namespace DdeTrayLoader.Tray

open Transition

namespace TraySystem

variable {session : Session}

/-- No process that `P` picks is shown through both protocols. -/
def Exclusive (P : ℕ → Prop) (t : TraySystem) : Prop :=
  ∀ pid, P pid → t.sni.items.Serves pid → ¬t.xembed.Serves pid

/-- The step drops every icon of a process whose SNI item it registers, and registers no icon
of a process whose mark is gone although it has SNI items. -/
def KeepsApart (session : Session) (P : ℕ → Prop) (t : TraySystem) : Event → Prop
  | .handlerCreated item _ =>
    t.Completes item → P (session.itemPid item) →
      t.registeredMap (session.itemPid item) ≠ .SNI →
        ∀ window ∈ t.xembed.keys, t.xembed.pid window = session.itemPid item →
          ∀ window' ∈ t.xembed.keys, t.xembed.pid window' = session.itemPid item →
            window = window'
  | .syncTrayIcons _ _ =>
    0 < t.timers → ∀ window ∈ t.icons, window ∉ t.xembed.keys →
      P (t.pidNow session window) → t.sni.items.Serves (t.pidNow session window) →
        t.registeredMap (t.pidNow session window) = .SNI
  | _ => True

/-- Only processes with SNI items are marked, and pending items are not registered. -/
structure Marks (t : TraySystem) : Prop where
  marked : ∀ pid, t.registeredMap pid = .SNI → t.sni.items.Serves pid
  pending : ∀ item ∈ t.sni.pendingItems, item ∉ t.sni.items.keys

theorem Marks.registedItemChanged {t : TraySystem} (h : t.Marks) (order : HashOrder String) :
    (t.registedItemChanged order).Marks := by
  obtain ⟨-, hkeys, hpid, hmarked, hpending, -⟩ := t.registedItemChanged_spec order
  constructor
  · intro pid hmark
    obtain ⟨hold, hkept⟩ := (hmarked pid).mp hmark
    obtain ⟨item, hitem, rfl⟩ := h.marked pid hold
    have hlisted : item ∈ t.watcher := by
      by_contra hgone
      exact hkept item hitem hgone rfl
    have hmem := (hkeys item).mpr ⟨hitem, hlisted⟩
    exact ⟨item, hmem, hpid item hmem⟩
  · intro item hitem hmem
    have hold := ((hkeys item).mp hmem).1
    rw [hpending] at hitem
    split_ifs at hitem
    · exact h.pending item hitem hold
    · exact hitem.2.elim (fun hpending => h.pending item hpending hold) fun hnew => hnew hold

theorem Marks.handlerCreated {t : TraySystem} (h : t.Marks) (item : String)
    (order : HashOrder Window) : (t.handlerCreated session item order).Marks := by
  rcases t.handlerCreated_cases session item order with
    ⟨-, heq⟩ | ⟨-, -, heq⟩ | ⟨⟨-, hpending⟩, heq⟩ <;> rw [heq]
  · exact h
  · exact ⟨h.marked, h.pending⟩
  · have hnew := h.pending item hpending
    constructor
    · intro pid hmark
      rw [Registered.serves_insert _ hnew]
      dsimp only at hmark
      rw [Function.update_apply] at hmark
      split_ifs at hmark with hpid
      · exact .inl hpid
      · exact .inr (h.marked pid hmark)
    · intro other hother
      obtain ⟨hne, hold⟩ := Finset.mem_erase.mp hother
      rw [Registered.mem_keys_insert]
      exact fun hmem => hmem.elim hne (h.pending other hold)

/-- Every step keeps the marks truthful. -/
theorem Marks.step {t : TraySystem} (h : t.Marks) (e : Event) : (t.step session e).Marks := by
  cases hregisters : registers e with
  | false =>
    obtain ⟨hmap, hsni, -, -⟩ := step_of_not_registers session hregisters t
    constructor
    · rw [hmap, hsni]
      exact h.marked
    · rw [hsni]
      exact h.pending
  | true =>
    cases e with
    | registedItemChanged order => exact h.registedItemChanged order
    | handlerCreated item order => exact h.handlerCreated item order
    | syncTrayIcons listed order =>
      change (t.syncTrayIcons session listed order).Marks
      rcases Nat.eq_zero_or_pos t.timers with hzero | hpos
      · rw [syncTrayIcons, if_pos hzero]
        exact h
      · obtain ⟨hframe, hmarked, -, -⟩ := t.syncTrayIcons_spec session listed order hpos
        constructor
        · rw [hframe.sni]
          exact fun pid hmark => h.marked pid (hmarked pid hmark)
        · rw [hframe.sni]
          exact h.pending
    | _ => cases hregisters

theorem initial_marks (session : Session) : (initial session).Marks :=
  ⟨nofun, fun _ hitem => absurd hitem (Finset.notMem_empty _)⟩

/-- The end of a creation keeps the protocols apart exactly if it leaves no second icon. -/
theorem exclusive_handlerCreated_iff {P : ℕ → Prop} {t : TraySystem} (hmarks : t.Marks)
    (h : t.Exclusive P) (item : String) (order : HashOrder Window) :
    (t.handlerCreated session item order).Exclusive P ↔
      t.KeepsApart session P (.handlerCreated item order) := by
  rcases t.handlerCreated_cases session item order with
    ⟨hnot, heq⟩ | ⟨-, hnot, heq⟩ | ⟨hcompletes, heq⟩ <;> rw [heq]
  · exact iff_of_true h fun hcompletes => absurd hcompletes.1 hnot
  · exact iff_of_true h fun hcompletes => absurd hcompletes.2 hnot
  have hnew := hmarks.pending item hcompletes.2
  have hsni (pid : ℕ) : (t.sni.items.insert item ⟨item⟩ (session.itemPid item)).Serves pid ↔
      pid = session.itemPid item ∨ t.sni.items.Serves pid := Registered.serves_insert _ hnew
  cases hevicted : t.evicted order (session.itemPid item) with
  | none =>
    -- the process has no icon, or its SNI items kept its icons away
    have hnone : P (session.itemPid item) → ¬t.xembed.Serves (session.itemPid item) := by
      intro hP
      rcases evicted_eq_none hevicted with hmarked | hnone
      · exact h _ hP (hmarks.marked _ hmarked)
      · exact fun ⟨window, hmem, hpid⟩ => hnone window hmem hpid
    refine iff_of_true (fun pid hP hserves => ?_) fun _ hP _ window hmem hpid => ?_
    · rcases (hsni pid).mp hserves with rfl | hold
      · exact hnone hP
      · exact h pid hP hold
    · exact absurd ⟨window, hmem, hpid⟩ (hnone hP)
  | some found =>
    obtain ⟨window, ref⟩ := found
    obtain ⟨hmarked, hmem, hpid, -⟩ := evicted_eq_some hevicted
    have hxembed (pid : ℕ) : (t.xembed.remove window).Serves pid ↔
        ∃ window' ∈ t.xembed.keys, window' ≠ window ∧ t.xembed.pid window' = pid :=
      Registered.serves_remove _
    constructor
    · intro hexclusive _ hP _
      have honly (other : Window) (hother : other ∈ t.xembed.keys)
          (hotherPid : t.xembed.pid other = session.itemPid item) : other = window := by
        by_contra hne
        exact hexclusive _ hP ((hsni _).mpr (.inl rfl))
          ((hxembed _).mpr ⟨other, hother, hne, hotherPid⟩)
      intro first hfirst hfirstPid second hsecond hsecondPid
      rw [honly first hfirst hfirstPid, honly second hsecond hsecondPid]
    · intro hkeeps pid hP hserves hxserves
      obtain ⟨other, hother, hne, hotherPid⟩ := (hxembed pid).mp hxserves
      rcases (hsni pid).mp hserves with rfl | hold
      · exact hne (hkeeps hcompletes hP hmarked other hother hotherPid window hmem hpid)
      · exact h pid hP hold ⟨other, hother, hotherPid⟩

/-- A sync keeps the protocols apart exactly if it registers no icon of a process with SNI
items. -/
theorem exclusive_syncTrayIcons_iff {P : ℕ → Prop} {t : TraySystem} (h : t.Exclusive P)
    (listed order : HashOrder Window) :
    (t.syncTrayIcons session listed order).Exclusive P ↔
      t.KeepsApart session P (.syncTrayIcons listed order) := by
  rcases Nat.eq_zero_or_pos t.timers with hzero | hpos
  · rw [syncTrayIcons, if_pos hzero]
    exact iff_of_true h fun hpos => absurd hzero hpos.ne'
  obtain ⟨hframe, -, hkeys, hpid⟩ := t.syncTrayIcons_spec session listed order hpos
  unfold Exclusive
  rw [hframe.sni]
  constructor
  · intro hexclusive _ window hicon hnew hP hserves
    by_contra hmarked
    have hmem := (hkeys window).mpr ⟨hicon, .inr hmarked⟩
    refine hexclusive _ hP hserves ⟨window, hmem, ?_⟩
    rw [hpid window hmem, if_neg hnew]
  · intro hkeeps pid hP hserves hboth
    obtain ⟨window, hmem, rfl⟩ := hboth
    obtain ⟨hicon, hregistered⟩ := (hkeys window).mp hmem
    rw [hpid window hmem] at hP hserves
    by_cases hold : window ∈ t.xembed.keys
    · rw [if_pos hold] at hP hserves
      exact h _ hP hserves ⟨window, hold, rfl⟩
    · rw [if_neg hold] at hP hserves
      exact (hregistered.resolve_left hold) (hkeeps hpos window hicon hold hP hserves)

/-- A step from a state in which the protocols are apart keeps them apart exactly if it meets
the condition. -/
theorem exclusive_step_iff {P : ℕ → Prop} {t : TraySystem} (hmarks : t.Marks)
    (h : t.Exclusive P) (e : Event) :
    (t.step session e).Exclusive P ↔ t.KeepsApart session P e := by
  cases hregisters : registers e with
  | false =>
    obtain ⟨-, hsni, hxembed, -⟩ := step_of_not_registers session hregisters t
    refine iff_of_true ?_ ?_
    · unfold Exclusive
      rwa [hsni, hxembed]
    · cases e <;> trivial
  | true =>
    cases e with
    | registedItemChanged order =>
      obtain ⟨hframe, hkeys, hpid, -, -, -⟩ := t.registedItemChanged_spec order
      refine iff_of_true (fun pid hP hserves => ?_) trivial
      change ¬(t.registedItemChanged order).xembed.Serves pid
      rw [hframe.xembed]
      obtain ⟨item, hmem, rfl⟩ := hserves
      exact h _ hP ⟨item, ((hkeys item).mp hmem).1, (hpid item hmem).symm⟩
    | handlerCreated item order => exact exclusive_handlerCreated_iff hmarks h item order
    | syncTrayIcons listed order => exact exclusive_syncTrayIcons_iff h listed order
    | _ => cases hregisters

theorem initial_exclusive (session : Session) (P : ℕ → Prop) : (initial session).Exclusive P :=
  fun pid _ hserves => absurd hserves (Registered.not_serves_empty pid)

/-- A run shows no process through both protocols at any time exactly if each of its steps
leaves no second icon of a process whose SNI item it registers, and registers no icon of a
process that lost its mark with one of its SNI items. -/
theorem exclusive_iff_keepsApart (session : Session) (es : List Event) :
    Always (step session) (Exclusive (· ≠ 0)) (initial session) es ↔
      Obeys (step session) (KeepsApart session (· ≠ 0)) (initial session) es :=
  always_iff_obeys (fun _ e h => h.step e) (fun _ e hmarks h => exclusive_step_iff hmarks h e) es
    (initial_marks session) (initial_exclusive session _)

/-- Two icons and an SNI item of process 42: the second icon stays beside the item. -/
theorem not_exclusive_with_two_icons :
    ¬Exclusive (· ≠ 0)
      (run (step (.empty false (fun _ => 42) fun _ _ => 42))
        (initial (.empty false (fun _ => 42) fun _ _ => 42))
        [.registerIcon 1 [], .registerIcon 2 [], .onTrayIconsChanged,
          .syncTrayIcons (.stored _) (.stored _), .watcherChanged [":1.5/StatusNotifierItem"],
          .registedItemChanged (.stored _),
          .handlerCreated ":1.5/StatusNotifierItem" (.stored _)]) := by
  intro h
  exact h 42 (by decide) (by decide) (by decide)

end TraySystem

end DdeTrayLoader.Tray
