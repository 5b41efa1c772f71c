import DdeTrayLoader.Tray.SniHandler
import DdeTrayLoader.Transition.Run

/-!
# The clicks on a StatusNotifierItem

A right click shows the menu of the item, whose importer is made when it is first needed and
dropped when the item announces another menu. A left click is passed on to the item when its
activation token has come.
-/

namespace DdeTrayLoader.Tray.Sni

open DdeTrayLoader.Transition DdeTrayLoader.Plugin

/-- A change of the menu is announced. -/
def SniEvent.AnnouncesMenu : SniEvent → Prop
  | .setMenu _ announced => announced = true
  | _ => True

namespace SniSystem

variable {qt : QtBuild} {s : SniSystem}

/-! ## The menu -/

/-- The path that the handler knows is the item's when no announcement is on its way, and the
importer is the one for it. -/
structure Linked (s : SniSystem) : Prop where
  known : .newMenu ∉ s.signals → s.handler.menuPath = "" ∨ s.handler.menuPath = s.item.menu
  importer : ∀ path, s.handler.dbusMenuImporter = some path →
    path = s.handler.menuPath ∧ ¬NoMenu path

theorem Linked.of_same {s' : SniSystem} (hs : s.Linked) (h : SameMenu s s') : s'.Linked := by
  refine ⟨?_, ?_⟩
  · rw [h.signals, h.menuPath, h.item]
    exact hs.known
  · rw [h.dbusMenuImporter, h.menuPath]
    exact hs.importer

/-- The path is the item's when no announcement is on its way. -/
theorem Linked.knownPath_eq (hs : s.Linked) (hsettled : .newMenu ∉ s.signals) :
    s.knownPath = s.item.menu := by
  unfold knownPath
  split_ifs with hempty
  · rfl
  · exact (hs.known hsettled).resolve_left hempty

theorem Linked.menuImporter (hs : s.Linked) : s.menuImporter.1.Linked := by
  have hknown (hsettled : .newMenu ∉ s.signals) : s.knownPath = "" ∨ s.knownPath = s.item.menu :=
    .inr (hs.knownPath_eq hsettled)
  obtain ⟨path, -, heq⟩ | ⟨hnone, -, heq⟩ | ⟨-, hmenu, heq⟩ := menuImporter_cases s
  · rw [heq]
    exact hs
  · rw [heq]
    refine ⟨hknown, fun path hpath => ?_⟩
    exact nomatch hnone.symm.trans hpath
  · rw [heq]
    refine ⟨hknown, fun path hpath => ?_⟩
    obtain rfl : s.knownPath = path := Option.some.inj hpath
    exact ⟨rfl, hmenu⟩

theorem Linked.call (hs : s.Linked) (c : HandlerCall) : (s.call c).Linked :=
  ⟨hs.known, hs.importer⟩

theorem Linked.deliver (hs : s.Linked) : (s.deliver qt).Linked := by
  obtain heq | ⟨role, rest, hsignals, h⟩ | ⟨rest, hsignals, heq⟩ := deliver_cases qt s
  · rw [heq]
    exact hs
  · refine ⟨?_, ?_⟩
    · rw [h.signals, h.menuPath, h.item]
      intro hsettled
      apply hs.known
      rw [hsignals, List.mem_cons]
      exact fun hmem => hmem.elim nofun hsettled
    · rw [h.dbusMenuImporter, h.menuPath]
      exact hs.importer
  · rw [heq]
    exact ⟨fun _ => .inr rfl, nofun⟩

theorem Linked.step (hs : s.Linked) {e : SniEvent} (he : e.AnnouncesMenu) :
    (s.step qt e).Linked := by
  cases e with
  | setIcon role iconName iconPixmap announced =>
    change (announce _ (.newIcon role) announced).Linked
    rw [announce_eq]
    exact ⟨fun h => hs.known fun hmem => h (List.mem_append_left _ hmem), hs.importer⟩
  | setIconThemePath iconThemePath => exact ⟨hs.known, hs.importer⟩
  | setMenu menu announced =>
    change (announce _ .newMenu announced).Linked
    have hannounced : announced = true := he
    rw [announce_eq, if_pos hannounced]
    refine ⟨fun hsettled => absurd ?_ hsettled, hs.importer⟩
    exact List.mem_append_right _ (List.mem_singleton_self _)
  | deliver => exact hs.deliver
  | leftReleased handle => exact hs.of_same (same_leftReleased s handle).2
  | rightReleased handle =>
    have himporter := hs.menuImporter
    change (s.rightReleased handle).Linked
    unfold rightReleased
    dsimp only
    split
    · exact himporter.call _
    · split_ifs
      · exact (himporter.call _).call _
      · exact himporter.call _
  | tokenDone i token => exact hs.of_same (same_tokenDone s i token).2
  | themeTypeChanged =>
    have himporter := hs.menuImporter
    change s.themeTypeChanged.Linked
    unfold themeTypeChanged
    dsimp only
    split
    · exact himporter
    · exact himporter.call _
  | setActive active => exact ⟨hs.known, hs.importer⟩

/-- What a right click should lead to, for the menu of the item. -/
def rightCalls (menu : String) (handle : Bool) : List HandlerCall :=
  if NoMenu menu then [.ContextMenu 0 0]
  else if handle then [.updateMenu menu, .showMenu menu]
  else [.updateMenu menu]

/-- In every run that announces the changes of the menu, a right click with no announcement on its
way is for the menu that the item has now, whatever menus it had before: it is updated and shown,
or the item is asked when it has none. -/
theorem right_click_current (qt : QtBuild) (item : StatusNotifierItem) (active : Bool)
    {es : List SniEvent} (hes : ∀ e ∈ es, e.AnnouncesMenu)
    (hsettled : .newMenu ∉ (run (step qt) (create qt item active) es).signals) (handle : Bool) :
    let s := run (step qt) (create qt item active) es
    (s.step qt (.rightReleased handle)).calls = s.calls ++ rightCalls s.item.menu handle := by
  intro s
  have hs : s.Linked := run_invariant_of_mem (I := Linked)
    (fun e he s hs => hs.step (hes e he)) ⟨fun _ => .inl rfl, nofun⟩
  have hknown : s.knownPath = s.item.menu := hs.knownPath_eq hsettled
  change (s.rightReleased handle).calls = _
  unfold rightReleased rightCalls
  obtain ⟨path, hpath, heq⟩ | ⟨-, hnone, heq⟩ | ⟨-, hmenu, heq⟩ := menuImporter_cases s
  · obtain ⟨hlinked, hmenu⟩ := hs.importer path hpath
    have hcurrent : path = s.item.menu := by
      have hne : s.handler.menuPath ≠ "" := fun hempty => hmenu (.inl (hlinked.trans hempty))
      exact hlinked.trans ((hs.known hsettled).resolve_left hne)
    rw [heq, ← hcurrent, if_neg hmenu]
    cases handle with
    | false => rfl
    | true => exact List.append_assoc s.calls [.updateMenu path] [.showMenu path]
  · rw [heq, ← hknown, if_pos hnone]
    rfl
  · rw [heq, ← hknown, if_neg hmenu]
    cases handle with
    | false => rfl
    | true =>
      exact List.append_assoc s.calls [.updateMenu s.knownPath] [.showMenu s.knownPath]

/-- An item that gets another menu between two clicks. -/
theorem right_click_current_changed :
    let s := run (step sizedBuild) (create sizedBuild ⟨fun _ => "", fun _ => [], "", "/old"⟩ true)
      [.rightReleased true, .setMenu "/new" true, .themeTypeChanged, .deliver]
    (s.step sizedBuild (.rightReleased true)).calls =
      s.calls ++ [.updateMenu "/new", .showMenu "/new"] :=
  right_click_current sizedBuild ⟨fun _ => "", fun _ => [], "", "/old"⟩ true
    (by simp [SniEvent.AnnouncesMenu]) (by decide) true

/-! ## Left clicks -/

/-- What passes a click on. -/
def passesOn : HandlerCall → Bool
  | .ProvideXdgActivationToken _ => true
  | .Activate _ _ => true
  | _ => false

/-- The calls for a click, by its token. -/
def callsFor (answer : Unit × String) : List HandlerCall :=
  if answer.2 ≠ "" then [.ProvideXdgActivationToken answer.2, .Activate 0 0] else [.Activate 0 0]

/-- The clicks that are not dropped for want of a handle. -/
def clicked (s : SniSystem) : SniEvent → Option Unit
  | .leftReleased handle =>
    if s.handler.activation.active = true ∧ handle = false then none else some ()
  | _ => none

/-- Each click has been passed on, or its token is outstanding. -/
structure Passes (requested : List Unit) (s : SniSystem) : Prop where
  accounts : s.handler.activation.tokens.Accounts requested
  passed : s.calls.filter passesOn = s.handler.activation.tokens.answered.flatMap callsFor

/-- The requests for tokens and what was passed on are the same. -/
structure SameClicks (s s' : SniSystem) : Prop where
  tokens : s'.handler.activation.tokens = s.handler.activation.tokens
  passed : s'.calls.filter passesOn = s.calls.filter passesOn

theorem SameClicks.trans {s' s'' : SniSystem} (h : SameClicks s s') (h' : SameClicks s' s'') :
    SameClicks s s'' := ⟨h'.tokens.trans h.tokens, h'.passed.trans h.passed⟩

theorem sameClicks_call (s : SniSystem) {c : HandlerCall} (hc : passesOn c = false) :
    SameClicks s (s.call c) := by
  refine ⟨rfl, ?_⟩
  change (s.calls ++ [c]).filter passesOn = s.calls.filter passesOn
  rw [List.filter_append, List.filter_cons_of_neg (Bool.eq_false_iff.mp hc), List.filter_nil,
    List.append_nil]

theorem sameClicks_menuImporter (s : SniSystem) : SameClicks s s.menuImporter.1 := by
  obtain ⟨path, -, heq⟩ | ⟨-, -, heq⟩ | ⟨-, -, heq⟩ := menuImporter_cases s
  · rw [heq]
    exact ⟨rfl, rfl⟩
  · rw [heq]
    exact ⟨rfl, rfl⟩
  · rw [heq]
    exact ⟨rfl, rfl⟩

theorem sameClicks_deliver (s : SniSystem) : SameClicks s (s.deliver qt) := by
  obtain heq | ⟨role, rest, -, h⟩ | ⟨rest, -, heq⟩ := deliver_cases qt s
  · rw [heq]
    exact ⟨rfl, rfl⟩
  · exact ⟨congrArg (·.tokens) h.activation, congrArg (List.filter passesOn) h.calls⟩
  · rw [heq]
    exact ⟨rfl, rfl⟩

section
variable {requested : List Unit}

theorem Passes.of_same {s' : SniSystem} (hs : s.Passes requested) (h : SameClicks s s') :
    s'.Passes requested := by
  refine ⟨?_, ?_⟩
  · rw [h.tokens]
    exact hs.accounts
  · rw [h.passed, h.tokens]
    exact hs.passed

/-- The callback of a token passes the click on. -/
theorem tokenReady_spec (s : SniSystem) (token : String) :
    (s.tokenReady token).handler = s.handler ∧
      (s.tokenReady token).calls = s.calls ++ callsFor ((), token) := by
  unfold tokenReady callsFor
  dsimp only
  split_ifs
  · exact ⟨rfl, List.append_assoc s.calls [_] [_]⟩
  · exact ⟨rfl, rfl⟩

/-- The calls for a click are all kept. -/
theorem filter_callsFor (answer : Unit × String) :
    (callsFor answer).filter passesOn = callsFor answer := by
  unfold callsFor
  split_ifs
  · rfl
  · rfl

/-- One more answer, whose click is passed on. -/
theorem Passes.answered {s' : SniSystem} {token : String}
    (haccounts : s'.handler.activation.tokens.Accounts requested)
    (hanswered : s'.handler.activation.tokens.answered =
      s.handler.activation.tokens.answered ++ [((), token)])
    (hcalls : s'.calls = s.calls ++ callsFor ((), token))
    (hpassed : s.calls.filter passesOn = s.handler.activation.tokens.answered.flatMap callsFor) :
    s'.Passes requested := by
  refine ⟨haccounts, ?_⟩
  rw [hcalls, hanswered, List.filter_append, hpassed, filter_callsFor, List.flatMap_append,
    List.flatMap_singleton]

theorem Passes.leftReleased (hs : s.Passes requested) (handle : Bool) :
    (s.leftReleased handle).Passes
      (requested ++ (s.clicked (.leftReleased handle)).toList) := by
  obtain ⟨hactive, hhandle, heq⟩ | ⟨hactive, hhandle, heq⟩ | ⟨hactive, heq⟩ :=
    leftReleased_cases s handle
  · have hclicked : s.clicked (.leftReleased handle) = none := if_pos ⟨hactive, hhandle⟩
    rw [heq, hclicked, Option.toList_none, List.append_nil]
    exact hs
  · have hclicked : s.clicked (.leftReleased handle) = some () :=
      if_neg fun h => Bool.false_ne_true (h.2.symm.trans hhandle)
    rw [heq, hclicked, Option.toList_some]
    exact ⟨hs.accounts.wait (), hs.passed⟩
  · have hclicked : s.clicked (.leftReleased handle) = some () :=
      if_neg fun h => Bool.false_ne_true (hactive.symm.trans h.1)
    rw [heq, hclicked, Option.toList_some]
    exact Passes.answered (hs.accounts.answerNow () "") rfl rfl hs.passed

theorem Passes.tokenDone (hs : s.Passes requested) (i : ℕ) (token : String) :
    (s.tokenDone i token).Passes requested := by
  have haccounts := hs.accounts.answer i token
  unfold SniSystem.tokenDone XdgActivation.done
  dsimp only
  cases hget : s.handler.activation.tokens.pending[i]? with
  | none =>
    rw [Outstanding.answer_of_none hget]
    exact hs
  | some purpose =>
    rw [Outstanding.answer_of_get hget] at haccounts ⊢
    obtain ⟨hhandler, hcalls⟩ := tokenReady_spec { s with handler := { s.handler with
      activation := { s.handler.activation with tokens :=
        { pending := s.handler.activation.tokens.pending.eraseIdx i
          answered := s.handler.activation.tokens.answered ++ [(purpose, token)] } } } } token
    exact @Passes.answered s _ _ token (hhandler ▸ haccounts) (by rw [hhandler]) hcalls hs.passed

theorem Passes.step (hs : s.Passes requested) (e : SniEvent) :
    (s.step qt e).Passes (requested ++ (s.clicked e).toList) := by
  have hsame {s' : SniSystem} (hnone : s.clicked e = none) (h : SameClicks s s') :
      s'.Passes (requested ++ (s.clicked e).toList) := by
    rw [hnone, Option.toList_none, List.append_nil]
    exact hs.of_same h
  cases e with
  | setIcon role iconName iconPixmap announced =>
    apply hsame rfl
    change SameClicks s (announce _ (.newIcon role) announced)
    rw [announce_eq]
    exact ⟨rfl, rfl⟩
  | setIconThemePath iconThemePath => exact hsame rfl ⟨rfl, rfl⟩
  | setMenu menu announced =>
    apply hsame rfl
    change SameClicks s (announce _ .newMenu announced)
    rw [announce_eq]
    exact ⟨rfl, rfl⟩
  | deliver => exact hsame rfl (sameClicks_deliver s)
  | leftReleased handle => exact hs.leftReleased handle
  | rightReleased handle =>
    apply hsame rfl
    have himporter := sameClicks_menuImporter s
    change SameClicks s (s.rightReleased handle)
    unfold rightReleased
    dsimp only
    split
    · exact himporter.trans (sameClicks_call _ rfl)
    · split_ifs
      · exact himporter.trans ((sameClicks_call _ rfl).trans (sameClicks_call _ rfl))
      · exact himporter.trans (sameClicks_call _ rfl)
  | tokenDone i token => exact (List.append_nil requested).symm ▸ hs.tokenDone i token
  | themeTypeChanged =>
    apply hsame rfl
    have himporter := sameClicks_menuImporter s
    change SameClicks s s.themeTypeChanged
    unfold themeTypeChanged
    dsimp only
    split
    · exact himporter
    · exact himporter.trans (sameClicks_call _ rfl)
  | setActive active => exact hsame rfl ⟨rfl, rfl⟩

end

/-- In every run, each left click is passed on to the item once, in the order of the compositor's
answers and right behind its token if that is not empty, or its token is outstanding. Only a click
on a window without a handle is dropped, and only while tokens are to be had. -/
theorem clicks_passed_on (qt : QtBuild) (item : StatusNotifierItem) (active : Bool)
    (es : List SniEvent) :
    let s := run (step qt) (create qt item active) es
    s.handler.activation.tokens.Accounts
        (asked (step qt) clicked (create qt item active) es) ∧
      s.calls.filter passesOn = s.handler.activation.tokens.answered.flatMap callsFor := by
  have hstart : (create qt item active).Passes [] := ⟨Outstanding.accounts_none, rfl⟩
  have hstep (requested : List Unit) (s : SniSystem) (e : SniEvent)
      (hs : s.Passes requested) :
      (s.step qt e).Passes (requested ++ (s.clicked e).toList) := hs.step e
  have hpasses := run_asked hstep es hstart
  exact ⟨hpasses.accounts, hpasses.passed⟩

end SniSystem

end DdeTrayLoader.Tray.Sni
