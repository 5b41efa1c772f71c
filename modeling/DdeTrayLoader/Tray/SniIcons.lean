import DdeTrayLoader.Tray.SniHandler
import DdeTrayLoader.Transition.Run

/-!
# The icons of a StatusNotifierItem

The pixmaps of an icon are read when the item announces a new icon and has no name for it. So
what is cached is right when no announcement is on its way, but for the icon for attention, whose
first announcement is dropped.
-/

namespace DdeTrayLoader.Tray.Sni

open DdeTrayLoader.Transition

/-- A change of the icon of a role is announced. -/
def SniEvent.AnnouncesIcon (role : IconRole) : SniEvent → Prop
  | .setIcon role' _ _ announced => role' = role → announced = true
  | _ => True

namespace SniSystem

variable {qt : QtBuild} {s : SniSystem} {role : IconRole} {start : List DBusImage}

/-- What is cached for a role is right when no announcement is on its way, but for the icon for
attention before its second announcement, which is the one of the start. -/
structure Caches (qt : QtBuild) (role : IconRole) (start : List DBusImage) (s : SniSystem) :
    Prop where
  ignores : s.handler.ignoreFirstAttention = true ↔ s.heard .attention = 0
  first : role = .attention → s.heard role ≤ 1 →
    s.handler.cachedIcon role = dbusImageList2QIcon qt start
  fresh : .newIcon role ∉ s.signals → (role = .attention → 1 < s.heard role) →
    s.item.iconName role = "" →
      s.handler.cachedIcon role = dbusImageList2QIcon qt (s.item.iconPixmap role)

theorem Caches.of_same {s' : SniSystem} (hs : s.Caches qt role start) (h : SameIcons s s') :
    s'.Caches qt role start := by
  obtain ⟨hitem, hsignals, hheard, hcached, hfirst⟩ := h
  refine ⟨?_, ?_, ?_⟩
  · rw [hfirst, hheard]
    exact hs.ignores
  · rw [hcached, hheard]
    exact hs.first
  · rw [hcached, hheard, hsignals, hitem]
    exact hs.fresh

/-- The first announcement of the icon for attention is the one that is dropped. -/
theorem Caches.arrive_ignores (hs : s.Caches qt role start) {role' : IconRole}
    {rest : List ItemSignal} {s' : SniSystem} (h : Arrived qt role' rest s s') :
    s'.handler.ignoreFirstAttention = true ↔ s'.heard .attention = 0 := by
  rw [h.ignoreFirstAttention, h.heard]
  by_cases hrole : role' = .attention
  · rw [if_pos hrole, hrole, Function.update_self]
    exact iff_of_false Bool.false_ne_true (Nat.succ_ne_zero _)
  · rw [if_neg hrole, Function.update_of_ne (Ne.symm hrole)]
    exact hs.ignores

/-- An arrival that is not for the role leaves what is cached for it. -/
theorem Caches.arrive_other {role' : IconRole} (hs : s.Caches qt role start) (hne : role' ≠ role)
    {rest : List ItemSignal} (hsignals : s.signals = .newIcon role' :: rest) {s' : SniSystem}
    (h : Arrived qt role' rest s s') : s'.Caches qt role start := by
  have hheard : s'.heard role = s.heard role := by
    rw [h.heard, Function.update_of_ne hne.symm]
  have hcached : s'.handler.cachedIcon role = s.handler.cachedIcon role := by
    rw [h.cachedIcon, Function.update_of_ne hne.symm]
  refine ⟨hs.arrive_ignores h, ?_, ?_⟩
  · rw [hheard, hcached]
    exact hs.first
  · rw [hheard, hcached, h.signals, h.item]
    intro hsettled
    apply hs.fresh
    rw [hsignals, List.mem_cons]
    rintro (heq | hmem)
    · exact hne (ItemSignal.newIcon.inj heq).symm
    · exact hsettled hmem

/-- An arrival for the role. -/
theorem Caches.arrive (hs : s.Caches qt role start) {rest : List ItemSignal} {s' : SniSystem}
    (h : Arrived qt role rest s s') : s'.Caches qt role start := by
  have hheard : s'.heard role = s.heard role + 1 := by
    rw [h.heard, Function.update_self]
  refine ⟨hs.arrive_ignores h, ?_, ?_⟩
  · intro hrole hle
    have hnone : s.heard role = 0 := by omega
    have hignored : s.handler.ignoreFirstAttention = true := hs.ignores.mpr (hrole ▸ hnone)
    rw [h.cachedIcon, Function.update_self,
      if_neg fun hkept => Bool.false_ne_true ((hkept.1 hrole).symm.trans hignored)]
    exact hs.first hrole (hnone ▸ Nat.zero_le 1)
  · intro _ hsecond hname
    rw [h.item] at hname
    have hkept : role = .attention → s.handler.ignoreFirstAttention = false := by
      intro hrole
      have hsome : s.heard .attention ≠ 0 := by
        have hlt := hsecond hrole
        rw [hheard, hrole] at hlt
        omega
      exact Bool.eq_false_iff.mpr fun hignored => hsome (hs.ignores.mp hignored)
    rw [h.cachedIcon, Function.update_self, if_pos ⟨hkept, hname⟩, h.item]

theorem Caches.deliver (hs : s.Caches qt role start) : (s.deliver qt).Caches qt role start := by
  obtain heq | ⟨role', rest, hsignals, h⟩ | ⟨rest, hsignals, heq⟩ := deliver_cases qt s
  · rw [heq]
    exact hs
  · by_cases hrole : role' = role
    · subst hrole
      exact hs.arrive h
    · exact hs.arrive_other hrole hsignals h
  · rw [heq]
    refine ⟨hs.ignores, hs.first, fun hsettled => hs.fresh ?_⟩
    rw [hsignals, List.mem_cons]
    exact fun h => h.elim nofun hsettled

/-- A change of the icon of another role, or one that is announced. -/
theorem Caches.setIcon (hs : s.Caches qt role start) (role' : IconRole) (iconName : String)
    (iconPixmap : List DBusImage) {announced : Bool} (he : role' = role → announced = true) :
    (s.step qt (.setIcon role' iconName iconPixmap announced)).Caches qt role start := by
  change (announce _ (.newIcon role') announced).Caches qt role start
  rw [announce_eq]
  by_cases hrole : role' = role
  · rw [he hrole, if_pos rfl, hrole]
    refine ⟨hs.ignores, hs.first, fun hsettled => absurd ?_ hsettled⟩
    exact List.mem_append_right _ (List.mem_singleton_self _)
  · have hname : Function.update s.item.iconName role' iconName role = s.item.iconName role :=
      Function.update_of_ne (Ne.symm hrole) _ _
    have hpixmap : Function.update s.item.iconPixmap role' iconPixmap role =
        s.item.iconPixmap role := Function.update_of_ne (Ne.symm hrole) _ _
    refine ⟨hs.ignores, hs.first, fun hsettled => ?_⟩
    dsimp only
    rw [hname, hpixmap]
    exact hs.fresh fun hmem => hsettled (List.mem_append_left _ hmem)

theorem Caches.step (hs : s.Caches qt role start) {e : SniEvent} (he : e.AnnouncesIcon role) :
    (s.step qt e).Caches qt role start := by
  cases e with
  | setIcon role' iconName iconPixmap announced => exact hs.setIcon role' iconName iconPixmap he
  | setIconThemePath iconThemePath => exact ⟨hs.ignores, hs.first, hs.fresh⟩
  | setMenu menu announced =>
    change (announce _ .newMenu announced).Caches qt role start
    rw [announce_eq]
    exact ⟨hs.ignores, hs.first, fun h => hs.fresh fun hmem => h (List.mem_append_left _ hmem)⟩
  | deliver => exact hs.deliver
  | leftReleased handle => exact hs.of_same (same_leftReleased s handle).1
  | rightReleased handle => exact hs.of_same (sameIcons_rightReleased s handle)
  | tokenDone i token => exact hs.of_same (same_tokenDone s i token).1
  | themeTypeChanged => exact hs.of_same (sameIcons_themeTypeChanged s)
  | setActive active => exact ⟨hs.ignores, hs.first, hs.fresh⟩

/-- The theme has the icon of the name, or there is a file of the name under the item's own path. -/
def Found (item : StatusNotifierItem) (theme : IconTheme) : Prop :=
  theme.fromTheme (item.iconName .icon) ≠ [] ∨
    item.iconThemePath ≠ "" ∧
      theme.fromFile (item.iconThemePath ++ "/" ++ item.iconName .icon) ≠ []

/-- The pixmaps of an icon that has a name are not read. -/
theorem cachedIcon_step (hname : s.item.iconName role ≠ "") (e : SniEvent) :
    (s.step qt e).handler.cachedIcon role = s.handler.cachedIcon role := by
  cases e with
  | setIcon role' iconName iconPixmap announced =>
    change (announce _ (.newIcon role') announced).handler.cachedIcon role = _
    rw [announce_eq]
  | setIconThemePath iconThemePath => rfl
  | setMenu menu announced =>
    change (announce _ .newMenu announced).handler.cachedIcon role = _
    rw [announce_eq]
  | deliver =>
    change (s.deliver qt).handler.cachedIcon role = _
    obtain heq | ⟨role', rest, -, h⟩ | ⟨rest, -, heq⟩ := deliver_cases qt s
    · rw [heq]
    · rw [h.cachedIcon]
      by_cases hrole : role' = role
      · subst hrole
        rw [Function.update_self, if_neg fun hread => hname hread.2]
      · rw [Function.update_of_ne (Ne.symm hrole)]
    · rw [heq]
      rfl
  | leftReleased handle => exact congrFun (same_leftReleased s handle).1.cachedIcon role
  | rightReleased handle => exact congrFun (sameIcons_rightReleased s handle).cachedIcon role
  | tokenDone i token => exact congrFun (same_tokenDone s i token).1.cachedIcon role
  | themeTypeChanged => exact congrFun (sameIcons_themeTypeChanged s).cachedIcon role
  | setActive active => rfl

/-- In every run in which the item has a name for its icon throughout, an icon that neither the
theme nor a file under the item's own path has is shown with the pixmaps of the start, whatever
pixmaps the item has announced since. -/
theorem named_icon_not_renewed (qt : QtBuild) (item : StatusNotifierItem) (active : Bool)
    {es : List SniEvent}
    (hes : Always (step qt) (fun s => s.item.iconName .icon ≠ "") (create qt item active) es)
    (theme : IconTheme)
    (hfound : ¬Found (run (step qt) (create qt item active) es).item theme) :
    (run (step qt) (create qt item active) es).shownIcon theme .icon =
      dbusImageList2QIcon qt (item.iconPixmap .icon) := by
  have hnamed : Obeys (step qt) (fun s _ => s.item.iconName .icon ≠ "") (create qt item active)
      es := obeys_of_always (fun _ _ h => h) hes
  have hcached : (run (step qt) (create qt item active) es).handler.cachedIcon .icon =
      dbusImageList2QIcon qt (item.iconPixmap .icon) :=
    run_invariant_of_obeys
      (I := fun s : SniSystem => s.handler.cachedIcon .icon =
        dbusImageList2QIcon qt (item.iconPixmap .icon))
      (fun s e hs hname => (cachedIcon_step hname e).trans hs) rfl hnamed
  have hname := hes.last
  unfold Found at hfound
  rw [not_or, not_and] at hfound
  obtain ⟨htheme, hfile⟩ := hfound
  change StatusNotifierItem.icon _ theme _ = _
  unfold StatusNotifierItem.icon
  dsimp only
  rw [if_pos hname, if_neg htheme, if_neg, hcached]
  rw [not_not]
  split_ifs with hpath
  · exact not_not.mp (hfile hpath)
  · rfl

/-- A theme with one icon, and one file. -/
def otherIcons : IconTheme where
  fromTheme name := if name = "other" then [⟨[], 1, 1⟩] else []
  fromFile path := if path = "/icons/other" then [⟨[], 1, 1⟩] else []

/-- Pixmaps that are announced under a name. -/
theorem named_icon_not_renewed_pixmap :
    (run (step sizedBuild) (create sizedBuild ⟨fun _ => "app", fun _ => [], "/icons", ""⟩ true)
      [.setIcon .icon "app" [⟨1, 1, [0, 0, 0, 0]⟩] true, .deliver]).shownIcon otherIcons .icon =
        [] := by
  have hnamed : Always (step sizedBuild) (fun s => s.item.iconName .icon ≠ "")
      (create sizedBuild ⟨fun _ => "app", fun _ => [], "/icons", ""⟩ true)
      [.setIcon .icon "app" [⟨1, 1, [0, 0, 0, 0]⟩] true, .deliver] :=
    ⟨by decide, by decide, show "app" ≠ "" by decide⟩
  have htheme : otherIcons.fromTheme "app" = [] := by decide
  have hfile : otherIcons.fromFile ("/icons" ++ "/" ++ "app") = [] := by decide
  refine named_icon_not_renewed sizedBuild _ true hnamed otherIcons ?_
  rintro (hfound | ⟨-, hfound⟩)
  · exact hfound htheme
  · exact hfound hfile

end SniSystem

end DdeTrayLoader.Tray.Sni
