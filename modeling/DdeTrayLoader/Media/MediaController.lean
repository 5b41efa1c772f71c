import DdeTrayLoader.Transition.Run
import Mathlib.Data.Finset.Basic
import Mathlib.Data.List.Perm.Basic

/-!
# The active media player

`MediaController` learns from the bus which MPRIS players appear and vanish. A player that
appears is asked whether it can be shown, and becomes the active one when it answers yes or with
an error. When the active player vanishes, the last one of `m_mediaPaths` is asked again.

The answers take their time. A player can vanish while it is being asked, and it is the active
player that `m_path` names until another one has answered.
-/

namespace DdeTrayLoader.Media

open Transition

/-- A `CanShowInUI` query whose reply is outstanding. -/
structure Query where
  path : String
  /-- The player has vanished since it was asked. -/
  lost : Bool := false
  deriving DecidableEq, Repr

/-- `MediaController` and the bus. -/
structure MediaController where
  /-- The names of players that have an owner. -/
  bus : Finset String
  /-- The players on the bus whose last answer was yes or an error. -/
  visible : Finset String
  path : String
  mediaPaths : List String
  /-- The service of `m_mediaPlayer2`. -/
  mediaPlayer2 : Option String
  queries : List Query
  deriving DecidableEq

/-- What happens on the bus. -/
inductive MediaEvent where
  | nameOwnerChanged (name newOwner : String)
  /-- The reply to a query, where `none` is an error. -/
  | finished (n : ℕ) (showInUI : Option Bool)
  deriving DecidableEq, Repr

/-- The reply counts as a yes. -/
def shows (showInUI : Option Bool) : Bool := showInUI.getD true

/-- The name is one of an MPRIS player. -/
def isPlayer (name : String) : Bool := "org.mpris.MediaPlayer2.".toList.isPrefixOf name.toList

/-- A player has a name. -/
theorem ne_empty_of_isPlayer {name : String} (h : isPlayer name = true) : name ≠ "" := by
  rintro rfl
  simp [isPlayer] at h

namespace MediaController

def initial : MediaController := ⟨∅, ∅, "", [], none, []⟩

/-- `loadMediaPath`, up to the reply. -/
def loadMediaPath (s : MediaController) (path : String) : MediaController :=
  { s with queries := s.queries ++ [⟨path, false⟩] }

def finishLoadMediaPath (s : MediaController) (path : String) : MediaController :=
  { s with
    path := path
    mediaPaths := if path ∈ s.mediaPaths then s.mediaPaths else s.mediaPaths ++ [path]
    mediaPlayer2 := some path }

def removeMediaPath (s : MediaController) (path : String) : MediaController :=
  let s := { s with mediaPaths := s.mediaPaths.erase path }
  if s.path ≠ path ∨ s.mediaPlayer2 = none then s
  else
    match s.mediaPaths.getLast? with
    | some last => s.loadMediaPath last
    | none => { s with mediaPlayer2 := none, path := "" }

/-- The bus, and what is known of its players, once a name has lost its owner. -/
def vanish (s : MediaController) (name : String) : MediaController :=
  { s with
    bus := s.bus.erase name
    visible := s.visible.erase name
    queries := s.queries.map fun q => if q.path = name then { q with lost := true } else q }

/-- `onNameOwnerChanged`, with what it tells the controller. -/
def onNameOwnerChanged (s : MediaController) (name newOwner : String) : MediaController :=
  if isPlayer name then
    if newOwner = "" then (s.vanish name).removeMediaPath name
    else { s with bus := insert name s.bus }.loadMediaPath name
  else s

/-- The `finished` handler of a query. -/
def finished (s : MediaController) (n : ℕ) (showInUI : Option Bool) : MediaController :=
  match s.queries[n]? with
  | none => s
  | some q =>
    let s := { s with queries := s.queries.eraseIdx n }
    if shows showInUI then
      { s with
        visible := if q.lost then s.visible else insert q.path s.visible
      }.finishLoadMediaPath q.path
    else { s with visible := if q.lost then s.visible else s.visible.erase q.path }

def step (s : MediaController) : MediaEvent → MediaController
  | .nameOwnerChanged name newOwner => s.onNameOwnerChanged name newOwner
  | .finished n showInUI => s.finished n showInUI

/-- The controller agrees with the bus. -/
structure Agrees (s : MediaController) : Prop where
  onBus : ∀ path ∈ s.mediaPaths, path ∈ s.bus
  path_eq_empty : s.path = "" ↔ s.visible = ∅
  path_mem : s.path ≠ "" → s.path ∈ s.mediaPaths

instance (s : MediaController) : Decidable s.Agrees :=
  decidable_of_iff
    ((∀ path ∈ s.mediaPaths, path ∈ s.bus) ∧ (s.path = "" ↔ s.visible = ∅) ∧
      (s.path ≠ "" → s.path ∈ s.mediaPaths))
    ⟨fun h => ⟨h.1, h.2.1, h.2.2⟩, fun h => ⟨h.1, h.2, h.3⟩⟩

/-- The reply of a player that has vanished since does not change the active player. -/
def KeepsActive (s : MediaController) : MediaEvent → Prop
  | .finished n showInUI => ∀ q ∈ s.queries[n]?, q.lost = true →
      (s.finished n showInUI).path = s.path
  | _ => True

/-- Without the answers of `queries` and with only `visible` to be seen, there is no active
player, or it is listed and some player visible, or a player on the bus is still to answer. -/
def Settles (s : MediaController) (visible : Finset String) (queries : List Query) : Prop :=
  s.path = "" ∨ (s.path ∈ s.mediaPaths ∧ visible.Nonempty) ∨ ∃ q ∈ queries, q.lost = false

/-- A player that has vanished since it was asked answers yes only if it is the active player
again. A no, and the loss of a player that is not the active one, leave a visible player beside
the listed active one, or a player that is still to answer, unless there is no active player. -/
def InTime (s : MediaController) : MediaEvent → Prop
  | .nameOwnerChanged name newOwner => isPlayer name = true → newOwner = "" → name ≠ s.path →
      s.Settles (s.visible.erase name) (s.queries.filter fun q => q.path ≠ name)
  | .finished n showInUI => ∀ q ∈ s.queries[n]?,
      if shows showInUI then q.lost = true → q.path = s.path ∧ q.path ∈ s.mediaPaths
      else q.lost = false → s.Settles (s.visible.erase q.path) (s.queries.eraseIdx n)

/-- What holds in every state of a run whose events come in time. -/
structure Sound (s : MediaController) : Prop where
  onBus : ∀ path ∈ s.mediaPaths, path ∈ s.bus
  nodup : s.mediaPaths.Nodup
  visible : ∀ path ∈ s.visible, path ∈ s.mediaPaths
  named : ∀ path ∈ s.mediaPaths, path ≠ ""
  asked : ∀ q ∈ s.queries, q.path ≠ "" ∧ (q.lost = false → q.path ∈ s.bus)
  idle : s.path = "" → s.mediaPaths = []
  player : s.mediaPlayer2 = none ↔ s.path = ""
  settled : s.Settles s.visible s.queries

theorem sound_initial : initial.Sound := by
  constructor
  case settled => exact .inl rfl
  all_goals simp [initial]

/-- Once all players have answered, the controller agrees with the bus. -/
theorem Sound.agrees {s : MediaController} (h : s.Sound) (hqueries : s.queries = []) :
    s.Agrees := by
  have hactive : s.path ≠ "" → s.path ∈ s.mediaPaths ∧ s.visible.Nonempty := by
    intro hpath
    obtain hempty | hlisted | ⟨q, hmem, -⟩ := h.settled
    · exact absurd hempty hpath
    · exact hlisted
    · rw [hqueries] at hmem
      exact absurd hmem List.not_mem_nil
  constructor
  · exact h.onBus
  · constructor
    · intro hpath
      apply Finset.eq_empty_of_forall_notMem
      intro path hmem
      have hlisted := h.visible path hmem
      rw [h.idle hpath] at hlisted
      exact absurd hlisted List.not_mem_nil
    · intro hvisible
      by_contra hpath
      exact (hactive hpath).2.ne_empty hvisible
  · intro hpath
    exact (hactive hpath).1

/-- What is outstanding when a player has vanished. -/
theorem mem_vanish_queries {s : MediaController} {name : String} {q : Query}
    (h : q ∈ (s.vanish name).queries) :
    ∃ q' ∈ s.queries, q.path = q'.path ∧
      (q.lost = false → q'.lost = false ∧ q'.path ≠ name) := by
  obtain ⟨q', hmem, rfl⟩ := List.mem_map.mp h
  refine ⟨q', hmem, ?_⟩
  split
  · simp
  · rename_i hpath
    exact ⟨rfl, fun hlost => ⟨hlost, hpath⟩⟩

/-- The part of soundness that does not depend on the active player. -/
structure Listed (s : MediaController) : Prop where
  onBus : ∀ path ∈ s.mediaPaths, path ∈ s.bus
  nodup : s.mediaPaths.Nodup
  visible : ∀ path ∈ s.visible, path ∈ s.mediaPaths
  named : ∀ path ∈ s.mediaPaths, path ≠ ""
  asked : ∀ q ∈ s.queries, q.path ≠ "" ∧ (q.lost = false → q.path ∈ s.bus)

theorem Sound.listed {s : MediaController} (h : s.Sound) : s.Listed :=
  ⟨h.onBus, h.nodup, h.visible, h.named, h.asked⟩

theorem Listed.sound {s : MediaController} (h : s.Listed) (hidle : s.path = "" → s.mediaPaths = [])
    (hplayer : s.mediaPlayer2 = none ↔ s.path = "") (hsettled : s.Settles s.visible s.queries) :
    s.Sound :=
  ⟨h.onBus, h.nodup, h.visible, h.named, h.asked, hidle, hplayer, hsettled⟩

/-- The bus without a player, and what is known of the others. -/
def without (s : MediaController) (name : String) : MediaController :=
  { s.vanish name with mediaPaths := s.mediaPaths.erase name }

/-- The loss of a player leaves no trace of it. -/
theorem Listed.without {s : MediaController} (h : s.Listed) (name : String) :
    (s.without name).Listed := by
  have hmem : ∀ path ∈ s.mediaPaths.erase name, path ≠ name ∧ path ∈ s.mediaPaths := by
    intro path hpath
    exact (h.nodup.mem_erase_iff).mp hpath
  constructor
  · intro path hpath
    obtain ⟨hne, hlisted⟩ := hmem path hpath
    exact Finset.mem_erase.mpr ⟨hne, h.onBus path hlisted⟩
  · exact h.nodup.erase name
  · intro path hpath
    obtain ⟨hne, hseen⟩ := Finset.mem_erase.mp hpath
    exact (h.nodup.mem_erase_iff).mpr ⟨hne, h.visible path hseen⟩
  · intro path hpath
    exact h.named path (hmem path hpath).2
  · intro q hq
    obtain ⟨q', hq', hpath, hlost⟩ := mem_vanish_queries hq
    rw [hpath]
    refine ⟨(h.asked q' hq').1, ?_⟩
    intro hlive
    obtain ⟨hlive', hne⟩ := hlost hlive
    exact Finset.mem_erase.mpr ⟨hne, (h.asked q' hq').2 hlive'⟩

/-- The loss of a player that is not the active one settles the rest. -/
theorem Sound.without {s : MediaController} (h : s.Sound) {name : String}
    (hname : isPlayer name = true) (htime : s.InTime (.nameOwnerChanged name ""))
    (hother : s.path ≠ name ∨ s.mediaPlayer2 = none) : (s.without name).Sound := by
  refine (h.listed.without name).sound ?_ h.player ?_
  · intro hpath
    change s.mediaPaths.erase name = []
    rw [h.idle hpath, List.erase_nil]
  · by_cases hpath : s.path = ""
    · exact .inl hpath
    · have hne : s.path ≠ name := hother.resolve_right fun hnone => hpath (h.player.mp hnone)
      obtain hempty | ⟨hlisted, hseen⟩ | ⟨q, hq, hlive⟩ := htime hname rfl hne.symm
      · exact .inl hempty
      · exact .inr (.inl ⟨(h.nodup.mem_erase_iff).mpr ⟨hne, hlisted⟩, hseen⟩)
      · obtain ⟨hq, hkept⟩ := List.mem_filter.mp hq
        refine .inr (.inr ⟨q, List.mem_map.mpr ⟨q, hq, ?_⟩, hlive⟩)
        rw [if_neg (by simpa using hkept)]

/-- After the loss of the active player another one is asked. -/
theorem Sound.without_loadMediaPath {s : MediaController} (h : s.Sound) {name last : String}
    (hactive : s.path ≠ "") (hlast : last ∈ s.mediaPaths.erase name) :
    ((s.without name).loadMediaPath last).Sound := by
  have hrest := h.listed.without name
  refine Listed.sound { hrest with asked := ?_ } (fun hempty => absurd hempty hactive) h.player ?_
  · intro q hq
    obtain hq | hq := List.mem_append.mp hq
    · exact hrest.asked q hq
    · obtain rfl := List.mem_singleton.mp hq
      exact ⟨hrest.named last hlast, fun _ => hrest.onBus last hlast⟩
  · exact .inr (.inr ⟨⟨last, false⟩, List.mem_append_right _ (List.mem_singleton_self _), rfl⟩)

/-- The loss of a player leaves no trace of it, and settles the rest. -/
theorem Sound.vanish {s : MediaController} (h : s.Sound) {name : String}
    (hname : isPlayer name = true) (htime : s.InTime (.nameOwnerChanged name "")) :
    ((s.vanish name).removeMediaPath name).Sound := by
  unfold removeMediaPath
  dsimp only
  split_ifs with hother
  · exact h.without hname htime hother
  · obtain ⟨-, hplayer⟩ := not_or.mp hother
    have hactive : s.path ≠ "" := fun hempty => hplayer (h.player.mpr hempty)
    split
    · next last hlast => exact h.without_loadMediaPath hactive (List.mem_of_getLast? hlast)
    · next hnone =>
      refine Listed.sound ?_ (fun _ => List.getLast?_eq_none_iff.mp hnone)
        (iff_of_true rfl rfl) (.inl rfl)
      have hrest := h.listed.without name
      exact ⟨hrest.onBus, hrest.nodup, hrest.visible, hrest.named, hrest.asked⟩

/-- A player that appears is asked. -/
theorem Sound.appear {s : MediaController} (h : s.Sound) {name : String}
    (hname : isPlayer name = true) :
    ({ s with bus := insert name s.bus }.loadMediaPath name).Sound := by
  constructor
  · intro path hpath
    exact Finset.mem_insert_of_mem (h.onBus path hpath)
  · exact h.nodup
  · exact h.visible
  · exact h.named
  · intro q hq
    obtain hq | hq := List.mem_append.mp hq
    · exact ⟨(h.asked q hq).1, fun hlive => Finset.mem_insert_of_mem ((h.asked q hq).2 hlive)⟩
    · obtain rfl := List.mem_singleton.mp hq
      exact ⟨ne_empty_of_isPlayer hname, fun _ => Finset.mem_insert_self _ _⟩
  · exact h.idle
  · exact h.player
  · exact .inr (.inr ⟨⟨name, false⟩, List.mem_append_right _ (List.mem_singleton_self _), rfl⟩)

/-- A reply of a vanished player takes away none that is still to come. -/
theorem Settles.eraseIdx {s : MediaController} {visible : Finset String}
    (h : s.Settles visible s.queries) {n : ℕ} {q : Query} (hq : s.queries[n]? = some q)
    (hlost : q.lost = true) : s.Settles visible (s.queries.eraseIdx n) := by
  obtain hempty | hlisted | ⟨q', hmem, hlive⟩ := h
  · exact .inl hempty
  · exact .inr (.inl hlisted)
  · obtain ⟨i, hi⟩ := List.mem_iff_getElem?.mp hmem
    have hne : i ≠ n := by
      rintro rfl
      obtain rfl := Option.some.inj (hi.symm.trans hq)
      rw [hlost] at hlive
      exact Bool.noConfusion hlive
    exact .inr (.inr ⟨q', List.mem_eraseIdx_iff_getElem?.mpr ⟨i, hne, hi⟩, hlive⟩)

/-- A player that answers no is not visible, and the active one stays. -/
theorem Sound.refuse {s : MediaController} (h : s.Sound) {n : ℕ} {visible : Finset String}
    (hvisible : visible ⊆ s.visible) (hsettled : s.Settles visible (s.queries.eraseIdx n)) :
    { s with queries := s.queries.eraseIdx n, visible := visible }.Sound := by
  constructor
  · exact h.onBus
  · exact h.nodup
  · exact fun path hpath => h.visible path (hvisible hpath)
  · exact h.named
  · exact fun q hq => h.asked q (List.mem_of_mem_eraseIdx hq)
  · exact h.idle
  · exact h.player
  · exact hsettled

/-- A player on the bus that answers yes becomes the active one. -/
theorem Sound.accept {s : MediaController} (h : s.Sound) {n : ℕ} {path : String}
    (hname : path ≠ "") (honBus : path ∈ s.bus) :
    ({ s with
      queries := s.queries.eraseIdx n
      visible := insert path s.visible }.finishLoadMediaPath path).Sound := by
  have hmem : ∀ path', path' ∈ (s.finishLoadMediaPath path).mediaPaths ↔
      path' = path ∨ path' ∈ s.mediaPaths := by
    intro path'
    unfold finishLoadMediaPath
    dsimp only
    split_ifs with hlisted
    · constructor
      · exact .inr
      · rintro (rfl | hpath')
        · exact hlisted
        · exact hpath'
    · rw [List.mem_append, List.mem_singleton, or_comm]
  constructor
  · intro path' hpath'
    obtain rfl | hpath' := (hmem path').mp hpath'
    · exact honBus
    · exact h.onBus path' hpath'
  · simp only [finishLoadMediaPath]
    split_ifs with hlisted
    · exact h.nodup
    · exact h.nodup.append (List.nodup_singleton path) (by simpa using hlisted)
  · intro path' hpath'
    apply (hmem path').mpr
    obtain hsame | hpath' := Finset.mem_insert.mp hpath'
    · exact .inl hsame
    · exact .inr (h.visible path' hpath')
  · intro path' hpath'
    obtain rfl | hpath' := (hmem path').mp hpath'
    · exact hname
    · exact h.named path' hpath'
  · exact fun q hq => h.asked q (List.mem_of_mem_eraseIdx hq)
  · intro hempty
    exact absurd hempty hname
  · exact iff_of_false (Option.some_ne_none path) hname
  · exact .inr (.inl ⟨(hmem path).mpr (.inl rfl), ⟨path, Finset.mem_insert_self _ _⟩⟩)

/-- The active player, when it answers yes once more, stays the active one. -/
theorem finishLoadMediaPath_eq {s : MediaController} {path : String} (hactive : path = s.path)
    (h : path ∈ s.mediaPaths) :
    s.finishLoadMediaPath path = { s with mediaPlayer2 := some path } := by
  rw [finishLoadMediaPath, if_pos h, hactive]

/-- A reply that comes in time keeps the controller sound. -/
theorem Sound.finished {s : MediaController} (h : s.Sound) {n : ℕ} {showInUI : Option Bool}
    (htime : s.InTime (.finished n showInUI)) : (s.finished n showInUI).Sound := by
  unfold MediaController.finished
  split
  · exact h
  · rename_i q hq
    have hasked := h.asked q (List.mem_of_getElem? hq)
    have htime := htime q hq
    dsimp only
    split_ifs at htime ⊢ with hshows hlost hlost
    · -- the active player, which has vanished and come back
      obtain ⟨hactive, hlisted⟩ := htime hlost
      rw [hactive] at hlisted ⊢
      have hrest := h.refuse (Finset.Subset.refl _) (h.settled.eraseIdx hq hlost)
      have hplayer : s.mediaPlayer2 ≠ none := fun hnone =>
        h.named s.path hlisted (h.player.mp hnone)
      have hstays := finishLoadMediaPath_eq (s := { s with queries := s.queries.eraseIdx n })
        rfl hlisted
      rw [hstays]
      refine { hrest with player := iff_of_false (Option.some_ne_none _) ?_ }
      exact fun hempty => hplayer (h.player.mpr hempty)
    · have hlive : q.lost = false := by simpa using hlost
      exact h.accept hasked.1 (hasked.2 hlive)
    · exact h.refuse (Finset.Subset.refl _) (h.settled.eraseIdx hq hlost)
    · have hlive : q.lost = false := by simpa using hlost
      exact h.refuse (Finset.erase_subset _ _) (htime hlive)

/-- An event that comes in time keeps the controller sound. -/
theorem Sound.step {s : MediaController} (h : s.Sound) {e : MediaEvent} (htime : s.InTime e) :
    (s.step e).Sound := by
  cases e with
  | nameOwnerChanged name newOwner =>
    simp only [MediaController.step, onNameOwnerChanged]
    split_ifs with hname howner
    · rw [howner] at htime
      exact h.vanish hname htime
    · exact h.appear hname
    · exact h
  | finished n showInUI => exact h.finished htime

/-- A reply that comes in time and is of a vanished player leaves the active player. -/
theorem InTime.keepsActive {s : MediaController} {e : MediaEvent} (htime : s.InTime e) :
    s.KeepsActive e := by
  cases e with
  | nameOwnerChanged name newOwner => trivial
  | finished n showInUI =>
    intro q hq hlost
    have htime := htime q hq
    have hq : s.queries[n]? = some q := hq
    simp only [MediaController.finished, hq]
    split_ifs at htime ⊢ with hshows
    · exact (htime hlost).1
    · rfl

/-- When the answers come in time, the controller agrees with the bus in every state where all
players have answered, and no player that has vanished since it was asked becomes active. -/
theorem agrees_of_inTime (es : List MediaEvent) (htime : Obeys step InTime initial es) :
    Always step (fun s => s.queries = [] → s.Agrees) initial es ∧
      Obeys step KeepsActive initial es := by
  constructor
  · exact always_of_obeys (fun s e h => h.step) (fun s h => h.agrees) sound_initial htime
  · exact obeys_of_invariant (I := fun _ => True) (fun _ _ _ _ => trivial)
      (fun _ _ _ => InTime.keepsActive) trivial htime

/-- Two players appear and answer, the active one vanishes, and the other one answers again. -/
theorem agrees_of_inTime_fallback :
    Always step (fun s => s.queries = [] → s.Agrees) initial
        [.nameOwnerChanged "org.mpris.MediaPlayer2.a" ":1.1", .finished 0 (some true),
          .nameOwnerChanged "org.mpris.MediaPlayer2.b" ":1.2", .finished 0 none,
          .nameOwnerChanged "org.mpris.MediaPlayer2.b" "", .finished 0 (some true)] ∧
      Obeys step KeepsActive initial
        [.nameOwnerChanged "org.mpris.MediaPlayer2.a" ":1.1", .finished 0 (some true),
          .nameOwnerChanged "org.mpris.MediaPlayer2.b" ":1.2", .finished 0 none,
          .nameOwnerChanged "org.mpris.MediaPlayer2.b" "", .finished 0 (some true)] := by
  apply agrees_of_inTime
  simp [Obeys, InTime, MediaController.step, onNameOwnerChanged, MediaController.finished,
    loadMediaPath, finishLoadMediaPath, shows, initial, removeMediaPath, isPlayer,
    MediaController.vanish]

/-- A player that vanishes while it is being asked becomes the active one by its error. -/
theorem not_agrees_lost :
    ¬(Always step (fun s => s.queries = [] → s.Agrees) initial
        [.nameOwnerChanged "org.mpris.MediaPlayer2.a" ":1.1",
          .nameOwnerChanged "org.mpris.MediaPlayer2.a" "", .finished 0 none] ∧
      Obeys step KeepsActive initial
        [.nameOwnerChanged "org.mpris.MediaPlayer2.a" ":1.1",
          .nameOwnerChanged "org.mpris.MediaPlayer2.a" "", .finished 0 none]) := by
  intro hboth
  have hlast := hboth.1.2.2.2 rfl
  revert hlast
  decide

end MediaController

end DdeTrayLoader.Media
