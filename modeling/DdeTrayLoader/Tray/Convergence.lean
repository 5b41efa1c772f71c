import DdeTrayLoader.Tray.Steps

/-!
# The SNI items follow the watcher

Creations of handlers cannot be stopped, only their items cancelled, by taking them off the
pending ones. `registedItemChanged` does this last, and not at all when the list it reads is
the same as the registered items. As long as no pending item is gone from such a list, the
registered and the pending items together are the list that was read, and once no creation
is in flight, the registered items are.
-/

namespace DdeTrayLoader.Tray

open Transition

namespace TraySystem

variable {session : Session}

/-- A look at the watcher's list that changes nothing leaves no gone item pending. -/
def CancelsPending (t : TraySystem) : Event → Prop
  | .registedItemChanged order =>
    t.watcher = order.list t.sni.items.keys → ∀ item ∈ t.sni.pendingItems, item ∈ t.watcher
  | _ => True

/-- Every pending item is being created, and the list that was read last consists of the
registered and the pending items. -/
structure Follows (t : TraySystem) : Prop where
  flying : ∀ item ∈ t.sni.pendingItems, item ∈ t.creations
  pending : ∀ item ∈ t.sni.pendingItems, item ∉ t.sni.items.keys
  listed : t.read = true → ∀ item,
    item ∈ t.watcher ↔ item ∈ t.sni.items.keys ∨ item ∈ t.sni.pendingItems

/-- Following the watcher depends on the SNI side only. -/
theorem Follows.of_eq {t t' : TraySystem} (h : t.Follows) (hsni : t'.sni = t.sni)
    (hcreations : t'.creations = t.creations) (hwatcher : t'.watcher = t.watcher)
    (hread : t'.read = t.read) : t'.Follows := by
  constructor
  · rw [hsni, hcreations]
    exact h.flying
  · rw [hsni]
    exact h.pending
  · rw [hsni, hwatcher, hread]
    exact h.listed

theorem Follows.registedItemChanged {t : TraySystem} (h : t.Follows) (order : HashOrder String)
    (hcancels : t.CancelsPending (.registedItemChanged order)) :
    (t.registedItemChanged order).Follows := by
  obtain ⟨hframe, hkeys, -, -, hpending, hcreations⟩ := t.registedItemChanged_spec order
  have hwatcher : (t.registedItemChanged order).watcher = t.watcher := hframe.watcher
  constructor
  · intro item hitem
    apply hcreations item
    by_cases hold : item ∈ t.sni.pendingItems
    · exact .inl (h.flying item hold)
    · exact .inr ⟨hold, hitem⟩
  · intro item hitem hmem
    have hold := ((hkeys item).mp hmem).1
    rw [hpending] at hitem
    split_ifs at hitem
    · exact h.pending item hitem hold
    · exact hitem.2.elim (fun hpending => h.pending item hpending hold) fun hnew => hnew hold
  · intro _ item
    rw [hwatcher, hkeys, hpending]
    split_ifs with hsame
    · -- the list is the registered items, and what is pending must be in it
      have hlist : item ∈ t.watcher ↔ item ∈ t.sni.items.keys := by
        rw [hsame, order.mem_list]
      have hkept := hcancels hsame item
      tauto
    · tauto

theorem Follows.handlerCreated {t : TraySystem} (h : t.Follows) (item : String)
    (order : HashOrder Window) : (t.handlerCreated session item order).Follows := by
  rcases t.handlerCreated_cases session item order with
    ⟨-, heq⟩ | ⟨-, hcancelled, heq⟩ | ⟨⟨-, hitem⟩, heq⟩ <;> rw [heq]
  · exact h
  · refine ⟨fun other hother => ?_, h.pending, h.listed⟩
    have hne : other ≠ item := fun heq => hcancelled (heq ▸ hother)
    exact (List.mem_erase_of_ne hne).mpr (h.flying other hother)
  · have hwatcher : (t.withoutEvicted (t.evicted order (session.itemPid item))).watcher =
        t.watcher := by
      cases t.evicted order (session.itemPid item) <;> rfl
    have hread : (t.withoutEvicted (t.evicted order (session.itemPid item))).read = t.read := by
      cases t.evicted order (session.itemPid item) <;> rfl
    constructor
    · intro other hother
      obtain ⟨hne, hold⟩ := Finset.mem_erase.mp hother
      exact (List.mem_erase_of_ne hne).mpr (h.flying other hold)
    · intro other hother
      obtain ⟨hne, hold⟩ := Finset.mem_erase.mp hother
      rw [Registered.mem_keys_insert]
      exact fun hmem => hmem.elim hne (h.pending other hold)
    · dsimp only
      rw [hwatcher, hread]
      intro hlisted other
      rw [h.listed hlisted, Registered.mem_keys_insert, Finset.mem_erase]
      by_cases hother : other = item
      · simp [hother, hitem]
      · simp [hother]

/-- Every step that meets the condition follows the watcher. -/
theorem Follows.step {t : TraySystem} (h : t.Follows) (e : Event) (hcancels : t.CancelsPending e) :
    (t.step session e).Follows := by
  cases e with
  | watcherChanged items => exact ⟨h.flying, h.pending, nofun⟩
  | registedItemChanged order => exact h.registedItemChanged order hcancels
  | handlerCreated item order => exact h.handlerCreated item order
  | registerIcon window pixmapData =>
    simp only [TraySystem.step, registerIcon]
    split <;> exact h.of_eq rfl rfl rfl rfl
  | unregisterIcon window =>
    simp only [TraySystem.step, unregisterIcon]
    split <;> exact h.of_eq rfl rfl rfl rfl
  | onTrayIconsChanged =>
    simp only [TraySystem.step, onTrayIconsChanged]
    split <;> exact h.of_eq rfl rfl rfl rfl
  | syncTrayIcons listed order =>
    change (t.syncTrayIcons session listed order).Follows
    rcases Nat.eq_zero_or_pos t.timers with hzero | hpos
    · rw [syncTrayIcons, if_pos hzero]
      exact h
    · have hframe := (t.syncTrayIcons_spec session listed order hpos).1
      exact h.of_eq hframe.sni hframe.creations hframe.watcher hframe.read
  | leaveNotify window =>
    simp only [TraySystem.step]
    split <;> exact h.of_eq rfl rfl rfl rfl
  | destroyNotify window order =>
    simp only [TraySystem.step]
    split <;> exact h.of_eq rfl rfl rfl rfl
  | handler e => exact h.of_eq rfl rfl rfl rfl
  | indicatorsChanged indicatorPaths order => exact h.of_eq rfl rfl rfl rfl
  | indicatorDelayed i => exact h.of_eq rfl rfl rfl rfl

theorem initial_follows (session : Session) : (initial session).Follows :=
  ⟨fun _ hitem => absurd hitem (Finset.notMem_empty _),
    fun _ hitem => absurd hitem (Finset.notMem_empty _), nofun⟩

/-- In a run in which no unchanged list leaves a gone item pending, the registered items are
the watcher's list whenever no creation is in flight and the list has been read since it
changed. -/
theorem registered_iff_listed (session : Session) (es : List Event)
    (hcancels : Obeys (step session) CancelsPending (initial session) es)
    (hcreations : (run (step session) (initial session) es).creations = [])
    (hread : (run (step session) (initial session) es).read = true) (item : String) :
    item ∈ (run (step session) (initial session) es).sni.items.keys ↔
      item ∈ (run (step session) (initial session) es).watcher := by
  have hfollows := run_invariant_of_obeys (I := Follows) (fun _ e h hC => h.step e hC)
    (initial_follows session) hcancels
  rw [hfollows.listed hread]
  refine (or_iff_left fun hpending => ?_).symm
  have hflying := hfollows.flying item hpending
  rw [hcreations] at hflying
  exact List.not_mem_nil hflying

/-- Of two items, one is gone again while its handler is created; then the list is read once more,
when it is that of the registered items. -/
theorem registered_iff_listed_cancelled :
    let s := run (step (.empty false (fun _ => 42) fun _ _ => 7))
      (initial (.empty false (fun _ => 42) fun _ _ => 7))
      [.watcherChanged [":1.5/StatusNotifierItem", ":1.6/StatusNotifierItem"],
        .registedItemChanged (.stored _), .watcherChanged [":1.5/StatusNotifierItem"],
        .registedItemChanged (.stored _), .handlerCreated ":1.5/StatusNotifierItem" (.stored _),
        .handlerCreated ":1.6/StatusNotifierItem" (.stored _), .registedItemChanged (.stored _)]
    ":1.5/StatusNotifierItem" ∈ s.sni.items.keys ∧
      ":1.6/StatusNotifierItem" ∉ s.sni.items.keys := by
  intro s
  have hlisted (item : String) : item ∈ s.sni.items.keys ↔ item ∈ s.watcher := by
    refine registered_iff_listed _ _ ?_ (by decide) (by decide) item
    exact ⟨trivial, fun hsame => absurd hsame (by decide), trivial,
      fun hsame => absurd hsame (by decide), trivial, trivial, fun _ => by decide, trivial⟩
  exact ⟨(hlisted _).mpr (by decide), fun hmem => absurd ((hlisted _).mp hmem) (by decide)⟩

/-- An item that is gone again while its handler is created: the list is empty like the
registered items, so nothing cancels it, and it stays registered. -/
theorem registered_after_unregistering :
    ∃ es : List Event,
      (run (step (.empty false (fun _ => 42) fun _ _ => 7))
        (initial (.empty false (fun _ => 42) fun _ _ => 7)) es).creations = [] ∧
      (run (step (.empty false (fun _ => 42) fun _ _ => 7))
        (initial (.empty false (fun _ => 42) fun _ _ => 7)) es).read = true ∧
      (run (step (.empty false (fun _ => 42) fun _ _ => 7))
        (initial (.empty false (fun _ => 42) fun _ _ => 7)) es).watcher = [] ∧
      ":1.5/StatusNotifierItem" ∈ (run (step (.empty false (fun _ => 42) fun _ _ => 7))
        (initial (.empty false (fun _ => 42) fun _ _ => 7)) es).sni.items.keys :=
  ⟨[.watcherChanged [":1.5/StatusNotifierItem"], .registedItemChanged (.stored _),
    .watcherChanged [], .registedItemChanged (.stored _),
    .handlerCreated ":1.5/StatusNotifierItem" (.stored _)],
    by decide, by decide, by decide, by decide⟩

end TraySystem

end DdeTrayLoader.Tray
