import DdeTrayLoader.Plugin.WidgetPlugin

/-!
# The card of a plugin

The card is shown while the dock is in fashion mode and the plugin has added its item. Four entry
points of `WidgetPlugin` share the work: adding and removing an item, and entering and leaving
fashion mode. Hiding the card drops its binding, and the plugin may drop its window meanwhile, so
whoever shows it makes what is missing anew.
-/

namespace DdeTrayLoader.Plugin

open Transition Qt EmbedPlugin

/-- The plugin has a card, with a key, and can always make its window. -/
structure PluginsItemInterface.ProvidesCard (inter : PluginsItemInterface) (card : CardInterface) :
    Prop where
  flag : hasFlag inter.getPluginFlags attributeHasCard = true
  interface : inter.cardInterface = some card
  key : card.cardItemKey ≠ ""
  window : card.hasWindow = true

namespace WidgetPlugin

variable {inter : PluginsItemInterface} {card : CardInterface}

/-- Fashion mode after an event, as the messages of the dock have it. -/
def fashionAfter (fashion : Bool) : PluginEvent → Bool
  | .onDockEventMessageArrived msgType msgData =>
    if msgType = msgDockFashionMode then msgData else fashion
  | _ => fashion

/-- An item was added last, rather than removed. -/
def addedAfter (added : Bool) : PluginEvent → Bool
  | .itemAdded _ => true
  | .itemRemoved _ => false
  | _ => added

/-- The card window is visible. -/
def CardVisible (s : WidgetPlugin) : Prop :=
  ∃ w, s.cardWindow = some w ∧ (s.plugins.window w).visible = true

/-- A card window that is visible is bound to an `EmbedPlugin` with type `Card`, the id of the
plugin and the key of the card. -/
def CardBound (inter : PluginsItemInterface) (card : CardInterface) (s : WidgetPlugin) : Prop :=
  ∀ w, s.cardWindow = some w → (s.plugins.window w).visible = true →
    ∃ plugin, dataAt s.plugins w = some plugin ∧ plugin.pluginType = some .card ∧
      plugin.pluginId = inter.pluginName ∧ plugin.itemKey = card.cardItemKey

/-- The dock does not close the surface of the card. -/
def LeavesCardOpen (s : WidgetPlugin) : PluginEvent → Prop
  | .plugin_close w => s.cardWindow ≠ some w
  | _ => True

/-- The state of the card, with the two flags, and whether it is shown. `m_cardItem` has the card
window of the plugin, and no widget is in that. -/
structure CardState (inter : PluginsItemInterface) (card : CardInterface)
    (fashion added shown : Bool) (s : WidgetPlugin) : Prop where
  plugins : s.plugins.Consistent
  fashionMode : s.m_fashionMode = fashion
  itemAdded : s.m_itemAdded = added
  window : s.cardItemWindow = s.cardWindow
  item : ∀ item, s.m_cardItem = some item →
    item.itemKey = card.cardItemKey ∧ item.window < s.plugins.windows
  host : ∀ widget w, s.host widget = some w → w < s.plugins.windows ∧ s.cardWindow ≠ some w
  visible : s.CardVisible ↔ shown = true
  bound : CardBound inter card s

variable {fashion added shown : Bool} {s : WidgetPlugin}

/-- A card without a window is not visible. -/
theorem not_cardVisible_of_none (hnone : s.cardWindow = none) : ¬s.CardVisible := by
  intro hvisible
  obtain ⟨w, hw, -⟩ := hvisible
  rw [hnone] at hw
  simp at hw

/-- The card is as visible as its window. -/
theorem cardVisible_iff_of_some {w : ℕ} (hcard : s.cardWindow = some w) :
    s.CardVisible ↔ (s.plugins.window w).visible = true := by
  simp [CardVisible, hcard]

/-- The card window is alive and known to `m_cardItem`. -/
theorem CardState.cardWindow_spec (h : CardState inter card fashion added shown s) {w : ℕ}
    (hwindow : s.cardWindow = some w) :
    s.m_cardItem = some ⟨w, card.cardItemKey⟩ ∧ (s.plugins.window w).alive = true ∧
      w < s.plugins.windows := by
  rw [← h.window, cardItemWindow_eq_some] at hwindow
  obtain ⟨item, hitem, halive, rfl⟩ := hwindow
  obtain ⟨hkey, hlt⟩ := h.item item hitem
  exact ⟨by rw [hitem, ← hkey], halive, hlt⟩

/-- A change of the registry in which no window dies or comes to life. -/
theorem CardState.replace (h : CardState inter card fashion added shown s) {r : SMap}
    {shown' : Bool} (hconsistent : r.Consistent) (hle : s.plugins.windows ≤ r.windows)
    (halive : ∀ w < s.plugins.windows, (r.window w).alive = (s.plugins.window w).alive)
    (hvisible : ({ s with plugins := r } : WidgetPlugin).CardVisible ↔ shown' = true)
    (hbound : CardBound inter card { s with plugins := r }) :
    CardState inter card fashion added shown' { s with plugins := r } where
  plugins := hconsistent
  fashionMode := h.fashionMode
  itemAdded := h.itemAdded
  window := by
    rw [← h.window]
    unfold cardItemWindow
    cases hitem : s.m_cardItem with
    | none => rfl
    | some item => simp [halive _ (h.item item hitem).2]
  item item hitem := ⟨(h.item item hitem).1, (h.item item hitem).2.trans_le hle⟩
  host widget w hhost := ⟨(h.host widget w hhost).1.trans_le hle, (h.host widget w hhost).2⟩
  visible := hvisible
  bound := hbound

/-- A change of the registry that leaves the card window alone. -/
theorem CardState.setPlugins (h : CardState inter card fashion added shown s) {r : SMap}
    (hconsistent : r.Consistent) (hle : s.plugins.windows ≤ r.windows)
    (halive : ∀ w < s.plugins.windows, (r.window w).alive = (s.plugins.window w).alive)
    (hcard : ∀ w, s.cardWindow = some w →
      r.window w = s.plugins.window w ∧ dataAt r w = dataAt s.plugins w) :
    CardState inter card fashion added shown { s with plugins := r } := by
  apply h.replace hconsistent hle halive
  · rw [← h.visible]
    apply exists_congr
    intro w
    apply and_congr_right
    intro hwindow
    rw [(hcard w hwindow).1]
  · intro w hwindow hvisible
    obtain ⟨hsame, hdata⟩ := hcard w hwindow
    rw [hdata]
    exact h.bound w hwindow (hsame ▸ hvisible)

/-- Another window is shown. -/
theorem CardState.showWindow (h : CardState inter card fashion added shown s) {w : ℕ}
    (hother : s.cardWindow ≠ some w) :
    CardState inter card fashion added shown { s with plugins := s.plugins.showWindow w } := by
  apply h.setPlugins (h.plugins.showWindow w)
  · simp
  · intro w' _
    exact Registry.showWindow_alive s.plugins w w'
  · intro w' hcard
    have hne : w' ≠ w := by
      intro hw
      exact hother (hw ▸ hcard)
    rw [Registry.showWindow_window, Function.update_of_ne hne, dataAt_showWindow]
    exact ⟨rfl, rfl⟩

/-- Another window is hidden. -/
theorem CardState.hideWindow (h : CardState inter card fashion added shown s) {w : ℕ}
    (hother : s.cardWindow ≠ some w) :
    CardState inter card fashion added shown
      { s with plugins := s.plugins.hideWindow callbacks w } := by
  apply h.setPlugins (h.plugins.hideWindow callbacks w)
  · simp
  · intro w' _
    exact Registry.hideWindow_window_alive callbacks s.plugins w w'
  · intro w' hcard
    have hne : w' ≠ w := by
      intro hw
      exact hother (hw ▸ hcard)
    rw [dataAt_hideWindow h.plugins, if_neg fun hboth => hne hboth.1]
    exact ⟨by simp [hne], rfl⟩

/-- A new window is not the card window. -/
theorem CardState.addWindow (h : CardState inter card fashion added shown s)
    (set : EmbedPluginPrivate → EmbedPluginPrivate) :
    CardState inter card fashion added shown
      { s with plugins := WidgetPlugin.addWindow s.plugins set } := by
  apply h.setPlugins (addWindow_consistent h.plugins set)
  · rw [addWindow_windows]
    exact Nat.le_succ _
  · intro w hlt
    simp [addWindow_window, Nat.ne_of_lt hlt]
  · intro w hcard
    have hne : w ≠ s.plugins.windows := Nat.ne_of_lt (h.cardWindow_spec hcard).2.2
    rw [dataAt_addWindow h.plugins, if_neg hne, addWindow_window, Function.update_of_ne hne]
    exact ⟨rfl, rfl⟩

/-- A new item is put into a window of its own. -/
theorem CardState.addItem (h : CardState inter card fashion added shown s) (widgetKey : String)
    (set : EmbedPluginPrivate → EmbedPluginPrivate) :
    CardState inter card fashion added shown (s.addItem inter widgetKey set) := by
  have hadded := h.addWindow set
  refine ⟨hadded.plugins, hadded.fashionMode, hadded.itemAdded, hadded.window, hadded.item, ?_,
    hadded.visible, hadded.bound⟩
  intro widget w hhost
  simp only [WidgetPlugin.addItem] at hhost ⊢
  split at hhost
  · obtain rfl := Option.some.inj hhost
    constructor
    · rw [addWindow_windows]
      exact Nat.lt_succ_self _
    · intro hcard
      exact Nat.lt_irrefl _ (h.cardWindow_spec hcard).2.2
  · exact hadded.host widget w hhost

/-- The window of an item is not the card window. -/
theorem CardState.itemWindow_ne (h : CardState inter card fashion added shown s) {key : String}
    {w : ℕ} (hitem : s.itemWindow inter key = some w) : s.cardWindow ≠ some w := by
  obtain ⟨widget, -, hhost⟩ := Option.bind_eq_some_iff.mp hitem
  exact (h.host widget w hhost).2

theorem CardState.showItem (h : CardState inter card fashion added shown s) (key : String) :
    CardState inter card fashion added shown (s.showItem inter key) := by
  unfold WidgetPlugin.showItem
  split
  · rename_i hitem
    exact h.showWindow (h.itemWindow_ne hitem)
  · exact h

theorem CardState.hideItem (h : CardState inter card fashion added shown s) (key : String) :
    CardState inter card fashion added shown (s.hideItem inter key) := by
  unfold WidgetPlugin.hideItem
  split
  · rename_i hitem
    exact h.hideWindow (h.itemWindow_ne hitem)
  · exact h

theorem CardState.addQuickItem (h : CardState inter card fashion added shown s) :
    CardState inter card fashion added shown (s.addQuickItem inter) := by
  unfold WidgetPlugin.addQuickItem
  split
  · exact h.addItem _ _
  · exact h.showItem _

theorem CardState.addDockItems (h : CardState inter card fashion added shown s) (key : String) :
    CardState inter card fashion added shown (s.addDockItems inter key) := by
  have htray : CardState inter card fashion added shown (s.addTrayItem inter key) := by
    unfold WidgetPlugin.addTrayItem
    split
    · exact h.addItem _ _
    · exact h.showItem _
  have hfixed {s : WidgetPlugin} (h : CardState inter card fashion added shown s) :
      CardState inter card fashion added shown (s.addFixedItem inter key) := by
    unfold WidgetPlugin.addFixedItem
    split
    · exact h.addItem _ _
    · exact h
  unfold WidgetPlugin.addDockItems
  dsimp only
  split
  · exact h
  · split
    · apply hfixed
      split
      · exact htray
      · exact h
    · split
      · exact htray
      · exact h

theorem CardState.deferredDelete (h : CardState inter card fashion added shown s) (p : ℕ) :
    CardState inter card fashion added shown
      { s with plugins := s.plugins.deferredDelete callbacks p } := by
  apply h.setPlugins (h.plugins.deferredDelete callbacks p)
  · simp
  · intro w _
    rw [Registry.deferredDelete_window]
  · intro w _
    rw [Registry.deferredDelete_window, dataAt_deferredDelete h.plugins]
    exact ⟨rfl, rfl⟩

/-- The card is hidden. -/
theorem CardState.hideCardItem (h : CardState inter card fashion added shown s) :
    CardState inter card fashion added false s.hideCardItem := by
  unfold WidgetPlugin.hideCardItem
  split
  · rename_i w hitem
    have hcard : s.cardWindow = some w := h.window ▸ hitem
    apply h.replace (h.plugins.hideWindow callbacks w)
    · simp
    · intro w' _
      exact Registry.hideWindow_window_alive callbacks s.plugins w w'
    · refine Iff.trans (cardVisible_iff_of_some hcard) ?_
      simp
    · intro w' hw hvisible
      obtain rfl : w' = w := Option.some.inj (hw.symm.trans hcard)
      simp at hvisible
  · rename_i hitem
    have hcard : s.cardWindow = none := h.window ▸ hitem
    exact ⟨h.plugins, h.fashionMode, h.itemAdded, h.window, h.item, h.host,
      iff_of_false (not_cardVisible_of_none hcard) (by simp), h.bound⟩

/-- The card is bound and shown. -/
theorem CardState.presentCardItem (h : CardState inter card fashion added shown s) {w : ℕ}
    (hcard : s.cardWindow = some w) :
    CardState inter card fashion added true (s.presentCardItem inter) := by
  obtain ⟨hitem, halive, -⟩ := h.cardWindow_spec hcard
  rw [presentCardItem_eq inter hitem halive]
  dsimp only
  apply h.replace ((bind_consistent h.plugins halive _).showWindow w)
  · simp
  · intro w' _
    rw [Registry.showWindow_alive, bind_window]
  · refine Iff.trans (cardVisible_iff_of_some hcard) ?_
    simp [halive]
  · intro w' hw _
    obtain rfl : w' = w := Option.some.inj (hw.symm.trans hcard)
    rw [dataAt_showWindow, dataAt_bind h.plugins halive, if_pos rfl]
    exact ⟨_, rfl, rfl, rfl, rfl⟩

/-- A new card window is known to `m_cardItem`, and hidden. -/
theorem CardState.createWindow (h : CardState inter card fashion added shown s) :
    CardState inter card fashion added false
      { s with
        plugins := s.plugins.createWindow
        cardWindow := some s.plugins.windows
        m_cardItem := some ⟨s.plugins.windows, card.cardItemKey⟩ } := by
  have hhidden {w : ℕ} (hw : some s.plugins.windows = some w) :
      ¬(s.plugins.createWindow.window w).visible = true := by
    obtain rfl := Option.some.inj hw
    simp [Registry.createWindow]
  constructor
  · exact h.plugins.createWindow
  · exact h.fashionMode
  · exact h.itemAdded
  · simp [cardItemWindow, Registry.createWindow]
  · intro item hitem
    obtain rfl := Option.some.inj hitem
    exact ⟨rfl, Nat.lt_succ_self _⟩
  · intro widget w hhost
    have hlt := (h.host widget w hhost).1
    refine ⟨Nat.lt_succ_of_lt hlt, ?_⟩
    intro hsame
    exact Nat.ne_of_gt hlt (Option.some.inj hsame)
  · refine iff_of_false ?_ (by simp)
    intro hvisible
    obtain ⟨w, hw, hvisible⟩ := hvisible
    exact hhidden hw hvisible
  · intro w hw hvisible
    exact absurd hvisible (hhidden hw)

/-- The card is shown, in a new window if it has none. -/
theorem CardState.createCardItemIfNeeded (h : CardState inter card fashion added shown s)
    (hcard : inter.ProvidesCard card) :
    CardState inter card fashion added true (s.createCardItemIfNeeded inter) := by
  unfold WidgetPlugin.createCardItemIfNeeded
  rw [hcard.interface]
  dsimp only
  cases hitem : s.cardItemWindow with
  | some w =>
    have hcreated : s.createCardItem card = some s := by
      simp [createCardItem, hitem]
    rw [hcreated]
    exact h.presentCardItem (h.window ▸ hitem)
  | none =>
    have hnone : s.cardWindow = none := h.window ▸ hitem
    have hcreated : s.createCardItem card = some { s with
        plugins := s.plugins.createWindow
        cardWindow := some s.plugins.windows
        m_cardItem := some ⟨s.plugins.windows, card.cardItemKey⟩ } := by
      simp [createCardItem, hitem, hcard.key, getCardWindow, hnone, hcard.window]
    rw [hcreated]
    exact h.createWindow.presentCardItem rfl

/-- The flags are set. -/
theorem CardState.setFlags (h : CardState inter card fashion added shown s)
    (fashion' added' : Bool) :
    CardState inter card fashion' added' shown
      { s with m_fashionMode := fashion', m_itemAdded := added' } :=
  ⟨h.plugins, rfl, rfl, h.window, h.item, h.host, h.visible, h.bound⟩

theorem CardState.itemAdded_step (h : CardState inter card fashion added (fashion && added) s)
    (hcard : inter.ProvidesCard card) (key : String) :
    CardState inter card fashion true fashion (s.itemAdded inter key) := by
  have hadded : CardState inter card fashion true (fashion && added)
      { s with m_itemAdded := true } := h.fashionMode ▸ h.setFlags s.m_fashionMode true
  apply CardState.addDockItems
  have hpanel : CardState inter card fashion true fashion
      (if hasFlag inter.getPluginFlags attributeHasCard && s.m_fashionMode then
        ({ s with m_itemAdded := true } : WidgetPlugin).createCardItemIfNeeded inter
      else { s with m_itemAdded := true }) := by
    rw [hcard.flag, Bool.true_and]
    split
    · rename_i hfashion
      rw [h.fashionMode] at hfashion
      subst hfashion
      exact hadded.createCardItemIfNeeded hcard
    · rename_i hclassic
      rw [h.fashionMode, Bool.not_eq_true] at hclassic
      subst hclassic
      exact hadded
  unfold WidgetPlugin.addPanelItems
  dsimp only
  split
  · exact hpanel.addQuickItem
  · exact hpanel

theorem CardState.itemRemoved_step (h : CardState inter card fashion added shown s) (key : String) :
    CardState inter card fashion false false (s.itemRemoved inter key) := by
  have hremoved : CardState inter card fashion false shown
      { s with m_itemAdded := false } := h.fashionMode ▸ h.setFlags s.m_fashionMode false
  exact (hremoved.hideCardItem.hideItem key).hideItem quickItemKey

theorem CardState.setFashionMode (h : CardState inter card fashion added (fashion && added) s)
    (hcard : inter.ProvidesCard card) (fashionMode : Bool) :
    CardState inter card fashionMode added (fashionMode && added)
      (s.setFashionMode inter fashionMode) := by
  have hset : CardState inter card fashionMode added (fashion && added)
      { s with m_fashionMode := fashionMode } := h.itemAdded ▸ h.setFlags fashionMode s.m_itemAdded
  unfold WidgetPlugin.setFashionMode
  split
  · rename_i hsame
    rw [← hsame, h.fashionMode]
    exact h
  · rename_i hchanged
    rw [h.fashionMode] at hchanged
    rw [hcard.flag]
    dsimp only
    rw [if_neg (by simp)]
    split
    · rename_i hclassic
      rw [Bool.not_eq_true'] at hclassic
      subst hclassic
      exact hset.hideCardItem
    · rename_i hfashion
      rw [Bool.not_eq_true', Bool.not_eq_false] at hfashion
      subst hfashion
      rw [Bool.not_eq_true] at hchanged
      subst hchanged
      split
      · rename_i hadded
        rw [h.itemAdded] at hadded
        subst hadded
        exact hset.createCardItemIfNeeded hcard
      · rename_i hremoved
        rw [h.itemAdded, Bool.not_eq_true] at hremoved
        subst hremoved
        exact hset

/-- A hidden card window is deleted. -/
theorem CardState.dropCardWindow (h : CardState inter card fashion added shown s) :
    CardState inter card fashion added shown s.dropCardWindow := by
  unfold WidgetPlugin.dropCardWindow
  split
  · rename_i w hcard
    split
    · exact h
    · rename_i hhidden
      obtain ⟨hitem, -, hlt⟩ := h.cardWindow_spec hcard
      constructor
      · exact h.plugins.destroyWindow callbacks w
      · exact h.fashionMode
      · exact h.itemAdded
      · simp [cardItemWindow, hitem]
      · intro item hitem
        simpa using h.item item hitem
      · intro widget w' hhost
        simpa using (h.host widget w' hhost).1
      · rw [← h.visible, cardVisible_iff_of_some hcard]
        exact iff_of_false (not_cardVisible_of_none rfl) hhidden
      · intro w' hw
        simp at hw
  · exact h

/-- Whatever happens, short of the dock closing the card, it is shown as the flags say. -/
theorem CardState.step (h : CardState inter card fashion added (fashion && added) s)
    (hcard : inter.ProvidesCard card) {e : PluginEvent} (hopen : s.LeavesCardOpen e) :
    CardState inter card (fashionAfter fashion e) (addedAfter added e)
      (fashionAfter fashion e && addedAfter added e) (s.step inter e) := by
  cases e with
  | itemAdded key =>
    simp only [fashionAfter, addedAfter, Bool.and_true]
    exact h.itemAdded_step hcard key
  | itemRemoved key =>
    simp only [fashionAfter, addedAfter, Bool.and_false]
    exact h.itemRemoved_step key
  | onDockEventMessageArrived msgType msgData =>
    simp only [fashionAfter, addedAfter, WidgetPlugin.step, onDockEventMessageArrived]
    split
    · exact h.setFashionMode hcard msgData
    · exact h
  | deferredDelete p => exact h.deferredDelete p
  | plugin_close w => exact h.hideWindow hopen
  | dropCardWindow => exact h.dropCardWindow
  | otherItem plugin =>
    simp only [fashionAfter, addedAfter, WidgetPlugin.step]
    split
    · exact h
    · exact h.addWindow _

theorem initial_cardState (inter : PluginsItemInterface) (card : CardInterface) :
    CardState inter card false false false initial where
  plugins := Registry.initial_consistent _
  fashionMode := rfl
  itemAdded := rfl
  window := rfl
  item item hitem := by simp [initial] at hitem
  host widget w hhost := by simp [initial] at hhost
  visible := by simp [CardVisible, initial]
  bound w hw := by simp [initial] at hw

/-- In a run the state of the card follows the events. -/
theorem CardState.run (h : CardState inter card fashion added (fashion && added) s)
    (hcard : inter.ProvidesCard card) {es : List PluginEvent}
    (hopen : Obeys (WidgetPlugin.step inter) LeavesCardOpen s es) :
    CardState inter card (Transition.run fashionAfter fashion es)
      (Transition.run addedAfter added es)
      (Transition.run fashionAfter fashion es && Transition.run addedAfter added es)
      (Transition.run (WidgetPlugin.step inter) s es) := by
  induction es generalizing s fashion added with
  | nil => exact h
  | cons e es ih => exact ih (h.step hcard hopen.1) hopen.2

/-- In every run in which the dock does not close the card, the card window is visible exactly when
fashion mode is on and an item was added last, and then it is bound as the card of the plugin. -/
theorem card_visible_iff (es : List PluginEvent) (hcard : inter.ProvidesCard card)
    (hopen : Obeys (step inter) LeavesCardOpen initial es) :
    ((run (step inter) initial es).CardVisible ↔
      run fashionAfter false es = true ∧ run addedAfter false es = true) ∧
    CardBound inter card (run (step inter) initial es) := by
  have hstate := (initial_cardState inter card).run hcard hopen
  rw [hstate.visible, Bool.and_eq_true]
  exact ⟨Iff.rfl, hstate.bound⟩

/-- A plugin on the quick panel that has a card. -/
def media : PluginsItemInterface where
  pluginName := "media"
  pluginDisplayName := "Media"
  pluginSizePolicy := 0
  isV2 := true
  flags := typeQuick ||| attributeHasCard
  itemWidget := some
  cardInterface := some ⟨"media-card", true⟩

/-- The plugin drops the window of its card while its item is removed. -/
theorem card_visible_iff_dropped :
    let es := [PluginEvent.itemAdded "media-key", .onDockEventMessageArrived "dockFashionMode" true,
      .itemRemoved "media-key", .dropCardWindow, .deferredDelete 0, .itemAdded "media-key"]
    ((run (step media) initial es).CardVisible ↔
      run fashionAfter false es = true ∧ run addedAfter false es = true) ∧
    CardBound media ⟨"media-card", true⟩ (run (step media) initial es) :=
  card_visible_iff _ ⟨by decide, rfl, by decide, rfl⟩
    ⟨trivial, trivial, trivial, trivial, trivial, trivial, trivial⟩

end WidgetPlugin

end DdeTrayLoader.Plugin
