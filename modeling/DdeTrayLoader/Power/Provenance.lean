import DdeTrayLoader.Power.Positions

/-!
# Where cached values come from

The position `shown p` is honest: the cached value of `p` is the value that stands there in
the history of the service, and as long as it is zero the cache still holds the value the
proxy was constructed with. Together with the order of positions this says that the cache
never goes back to an older value.
-/

namespace DdeTrayLoader.Power

open Transition

/-- A service whose histories continue those of another. -/
def PowerService.Extends (service later : PowerService) : Prop :=
  ∀ p, service.history p <+: later.history p

theorem PowerService.Extends.valueAt {service later : PowerService} (h : service.Extends later)
    {p : Property} {k : ℕ} {value : QVariant} (hvalue : service.valueAt p k = some value) :
    later.valueAt p k = some value := by
  cases k with
  | zero => cases hvalue
  | succ k =>
    obtain ⟨rest, hrest⟩ := h p
    obtain ⟨hk, -⟩ := List.getElem?_eq_some_iff.mp hvalue
    change (later.history p)[k]? = some value
    rw [← hrest, List.getElem?_append_left hk]
    exact hvalue

theorem PowerService.extends_append (service : PowerService) (p : Property) (value : QVariant) :
    service.Extends (service.append p value) := by
  intro q
  unfold PowerService.append
  dsimp only
  split_ifs
  · exact List.prefix_append _ _
  · exact List.prefix_rfl

/-- The value a property has just been given is the one at its new position. -/
theorem PowerService.valueAt_append (service : PowerService) (p : Property) (value : QVariant) :
    (service.append p value).valueAt p (service.position p + 1) = some value := by
  simp [PowerService.valueAt, PowerService.append, PowerService.position]

/-- A property that has had a value has a current one. -/
theorem PowerService.exists_current (service : PowerService) {p : Property}
    (h : 0 < service.position p) : ∃ value, service.current p = some value := by
  unfold PowerService.current PowerService.position PowerService.valueAt at *
  cases hlength : (service.history p).length with
  | zero => omega
  | succ k => exact ⟨_, List.getElem?_eq_getElem (by omega)⟩

namespace PowerSystem

/-- The cached value of `p` is the one at the position `shown p`. -/
def Shows (s : PowerSystem) (p : Property) : Prop :=
  (s.shown p = 0 ∧ s.power.read p = DBusPower.read {} p) ∨
    ∃ value, s.service.valueAt p (s.shown p) = some value ∧ s.power.read p = p.decode value

/-- Every value in flight stands in the history where its position says. -/
structure Genuine (s : PowerSystem) : Prop where
  shows : ∀ p, s.Shows p
  notes : ∀ (p : Property) (value : QVariant) (k : ℕ), .changed p.name value k ∈ s.queue →
    s.service.valueAt p k = some value
  replies : ∀ serial snapshot, s.InFlight serial snapshot → ∀ p : Property, ∃ value,
    snapshot.values p.name = some value ∧
      s.service.valueAt p (snapshot.positions p) = some value
  owned : s.service.owner.isSome → ∀ p, 0 < s.service.position p

/-- Changing the proxy keeps values genuine if it keeps or correctly updates the cache. -/
theorem Genuine.write {s : PowerSystem} (h : s.Genuine) {power : DBusPower}
    {shown : Property → ℕ}
    (hshows : ∀ p, PowerSystem.Shows { s with power := power, shown := shown } p) :
    Genuine { s with power := power, shown := shown } :=
  { h with shows := hshows }

theorem Shows.withPower {s : PowerSystem} {p : Property} (h : s.Shows p) {power : DBusPower}
    (hread : power.read p = s.power.read p) : Shows { s with power := power } p := by
  unfold Shows at *
  rwa [hread]

/-- Asking for a snapshot writes nothing to the cache, and adds no captured value. -/
theorem Genuine.getAllProperties {s : PowerSystem} (h : s.Genuine) :
    s.getAllProperties.Genuine := by
  rcases s.getAllProperties_cases with ⟨-, heq⟩ | ⟨-, -, heq⟩ | ⟨-, -, heq⟩ <;> rw [heq]
  · exact h.write fun p => (h.shows p).withPower (by cases p <;> rfl)
  · exact h
  · refine
      { shows := fun p => (h.shows p).withPower (by cases p <;> rfl), notes := h.notes,
        replies := ?_, owned := h.owned }
    intro serial snapshot hcase
    rcases hcase with hcall | hreply
    · rcases List.mem_append.mp hcall with hold | hnew
      · exact h.replies serial snapshot (.inl hold)
      · cases List.mem_singleton.mp hnew
    · exact h.replies serial snapshot (.inr hreply)

theorem Genuine.pop {s : PowerSystem} (h : s.Genuine) {message : Message}
    {rest : List Message} (hqueue : s.queue = message :: rest) :
    Genuine { s with queue := rest } where
  shows := h.shows
  notes p value k hmem := h.notes p value k (hqueue ▸ List.mem_cons_of_mem _ hmem)
  replies serial snapshot hflight :=
    h.replies serial snapshot <| hflight.imp id fun hreply =>
      hqueue ▸ List.mem_cons_of_mem _ hreply
  owned := h.owned

theorem Genuine.receive {s : PowerSystem} (h : s.Genuine) {message : Message}
    {rest : List Message} (hqueue : s.queue = message :: rest) :
    ({ s with queue := rest }.receive message).Genuine := by
  have hpop := h.pop hqueue
  have hmem : message ∈ s.queue := hqueue ▸ List.mem_cons_self
  cases message with
  | changed name value position =>
    apply hpop.write
    intro p
    by_cases hname : p.name = name
    · subst hname
      refine .inr ⟨value, ?_, ?_⟩
      · dsimp only
        rw [showing_single, if_pos rfl]
        exact h.notes p value position hmem
      · exact DBusPower.updateProperties_read_of_some _ (by simp [QVariantMap.single])
    · unfold Shows
      dsimp only
      rw [showing_single, if_neg hname, s.power.propertyChanged_read_of_ne value hname]
      exact h.shows p
  | invalidated name =>
    exact Genuine.getAllProperties (s := { s with
      queue := rest, power := s.power.markLive name })
      (hpop.write fun p => (hpop.shows p).withPower (DBusPower.read_markLive s.power name p))
  | finished serial reply =>
    simp only [PowerSystem.receive]
    split_ifs with hserial
    swap
    · exact hpop
    cases reply with
    | none =>
      apply hpop.write
      intro p
      exact (hpop.shows p).withPower (s.power.finished_none_read s.isValid p)
    | some snapshot =>
      apply hpop.write
      intro p
      obtain ⟨value, hvalue, hat⟩ := h.replies serial snapshot (.inr hmem) p
      -- the reply is applied to what did not change while the call was pending
      by_cases hlive : p.name ∈ s.power.liveProperties
      · unfold Shows
        dsimp only [Option.map_some]
        rw [showing_withoutLive, if_neg (fun hnot => hnot.1 hlive),
          s.power.finished_read_of_live s.isValid snapshot.values hlive]
        exact h.shows p
      · refine .inr ⟨value, ?_, s.power.finished_read_of_not_live s.isValid hlive hvalue⟩
        dsimp only
        rw [showing_withoutLive, if_pos ⟨hlive, by simp [hvalue]⟩]
        exact hat
  | ownerChanged newOwner =>
    have hdropped : Genuine { s with
        queue := rest, power := s.power.serviceOwnerChanged newOwner } :=
      hpop.write fun p => (hpop.shows p).withPower (by cases p <;> rfl)
    exact { hdropped with }

/-- Values stay genuine when the service goes on and a genuine message is sent. -/
theorem Genuine.send {s : PowerSystem} (h : s.Genuine) {service : PowerService}
    {calls : List Call} {message : Message} (hservice : s.service.Extends service)
    (howned : service.owner.isSome → ∀ p, 0 < service.position p)
    (hcalls : ∀ call ∈ calls, call ∈ s.calls)
    (hnotes : ∀ (p : Property) value k, message = .changed p.name value k →
      service.valueAt p k = some value)
    (hreply : ∀ serial snapshot, message = .finished serial (some snapshot) →
      s.InFlight serial snapshot) :
    Genuine { s with
      service := service, calls := calls, queue := s.queue ++ [message] } where
  shows p := (h.shows p).imp id fun ⟨value, hvalue, hread⟩ =>
    ⟨value, hservice.valueAt hvalue, hread⟩
  notes p value k hmem := by
    rcases List.mem_append.mp hmem with hold | hnew
    · exact hservice.valueAt (h.notes p value k hold)
    · exact hnotes p value k (List.mem_singleton.mp hnew).symm
  replies serial snapshot hflight p := by
    have hold : s.InFlight serial snapshot := by
      rcases hflight with hcall | hqueue
      · exact .inl (hcalls _ hcall)
      · rcases List.mem_append.mp hqueue with hold | hnew
        · exact .inr hold
        · exact hreply serial snapshot (List.mem_singleton.mp hnew).symm
    obtain ⟨value, hvalue, hat⟩ := h.replies serial snapshot hold p
    exact ⟨value, hvalue, hservice.valueAt hat⟩
  owned := howned

theorem Genuine.changeOne {s : PowerSystem} (h : s.Genuine) (update : Update) :
    (s.changeOne update).Genuine := by
  unfold PowerSystem.changeOne
  cases hname : Property.ofName? update.name with
  | none =>
    refine h.send (fun _ => List.prefix_rfl) h.owned (fun _ => id) (fun p value k heq => ?_)
      fun _ _ heq => (notification_ne_finished _ _ _ _ heq).elim
    unfold Update.notification at heq
    split at heq
    · obtain ⟨hp, -⟩ := Message.changed.inj heq
      rw [hp, Property.ofName?_name] at hname
      cases hname
    · cases heq
  | some p =>
    rw [Property.ofName?_eq_some] at hname
    refine h.send (s.service.extends_append p update.value) (fun howner q => ?_)
      (fun _ => id) (fun q value k heq => ?_)
      fun _ _ heq => (notification_ne_finished _ _ _ _ heq).elim
    · have := h.owned howner q
      rw [position_append]
      split_ifs <;> omega
    · unfold Update.notification at heq
      split at heq
      · obtain ⟨hq, rfl, rfl⟩ := Message.changed.inj heq
        obtain rfl := Property.name_injective (hname.trans hq)
        exact s.service.valueAt_append p update.value
      · cases heq

theorem Genuine.handle {s : PowerSystem} (h : s.Genuine) (serial : ℕ) :
    (s.handle serial).Genuine := by
  unfold PowerSystem.handle
  split_ifs with howner
  swap
  · exact h
  refine { h with replies := ?_ }
  intro serial' snapshot hcase p
  rcases hcase with hcall | hreply
  · obtain ⟨old, hold, heq⟩ := List.mem_map.mp hcall
    split_ifs at heq
    · obtain ⟨-, rfl⟩ : serial = serial' ∧ s.snapshot = snapshot := by simpa using heq
      obtain ⟨value, hvalue⟩ := s.service.exists_current (h.owned howner p)
      exact ⟨value, by simp [PowerSystem.snapshot, hvalue], hvalue⟩
    · exact h.replies serial' snapshot (.inl (heq ▸ hold)) p
  · exact h.replies serial' snapshot (.inr hreply) p

/-- Every step keeps values genuine. -/
theorem Genuine.step {s : PowerSystem} (h : s.Genuine) (e : Event) : (s.step e).Genuine := by
  have hstep := s.stepTo e
  generalize s.step e = t at hstep
  cases hstep with
  | idle => exact h
  | request => exact h.getAllProperties
  | timeout =>
    exact Genuine.getAllProperties (s := { s with
      power := { s.power with refreshTimer := none } })
      (h.write fun p => (h.shows p).withPower (by cases p <;> rfl))
  | deliver hqueue => exact h.receive hqueue
  | interfaceUpdate => exact { h with }
  | interfaceFirst => exact { h with }
  | change updates => exact run_invariant (fun _ update hs => hs.changeOne update) updates h
  | handle serial => exact h.handle serial
  | fail =>
    exact h.send (fun _ => List.prefix_rfl) h.owned (fun c hc => List.mem_of_mem_filter hc)
      (by simp) (by simp)
  | succeed hcall =>
    refine h.send (fun _ => List.prefix_rfl) h.owned
      (fun c hc => List.mem_of_mem_filter hc) (by simp) ?_
    intro _ _ hsame
    cases hsame
    exact .inl hcall
  | start owner initial =>
    refine h.send (fun p => List.prefix_append _ _) (fun _ p => ?_) (fun _ => id) (by simp)
      (by simp)
    simp [PowerService.position]
  | stop => exact h.send (fun _ => List.prefix_rfl) (by simp) (fun _ => id) (by simp) (by simp)

/-- A proxy that has just been constructed has cached nothing, whatever the service is doing. -/
theorem initial_ordered_genuine (running : Option (Property → QVariant)) :
    (initial running).Ordered ∧ (initial running).Genuine := by
  refine ⟨Ordered.getAllProperties ?_, Genuine.getAllProperties ?_⟩
  · exact
      { calls := nofun, queue := nofun, shown_le := fun _ => Nat.zero_le _, queue_le := nofun,
        calls_le := nofun, sorted := .nil, shown_le_notes := nofun, pending := nofun }
  · refine
      { shows := fun _ => .inl ⟨rfl, rfl⟩, notes := nofun, replies := ?_, owned := ?_ }
    · intro _ _ hcase
      rcases hcase with hcall | hreply
      · cases hcall
      · cases hreply
    · cases running with
      | none => nofun
      | some values => exact fun _ _ => Nat.one_pos

theorem run_ordered_genuine (running : Option (Property → QVariant)) (es : List Event) :
    (run step (initial running) es).Ordered ∧ (run step (initial running) es).Genuine :=
  run_invariant (I := fun s : PowerSystem => s.Ordered ∧ s.Genuine)
    (fun _ e h => ⟨h.1.step e, h.2.step e⟩) es (initial_ordered_genuine running)

/-- Receiving a message writes no value older than the cached one. -/
theorem Ordered.shown_le_receive {s : PowerSystem} (h : s.Ordered) {message : Message}
    {rest : List Message} (hqueue : s.queue = message :: rest) (p : Property) :
    s.shown p ≤ ({ s with queue := rest }.receive message).shown p := by
  have hmem : message ∈ s.queue := hqueue ▸ List.mem_cons_self
  cases message with
  | changed name value position =>
    change s.shown p ≤ showing (.single name value) (fun _ => position) s.shown p
    rw [showing_single]
    split_ifs with hname
    · exact h.shown_le_notes _ hmem p position ⟨hname.symm, rfl⟩
    · exact le_refl _
  | invalidated name => exact le_refl _
  | finished serial reply =>
    simp only [PowerSystem.receive]
    split_ifs with hserial
    · cases reply with
      | none => exact le_refl _
      | some snapshot =>
        dsimp only
        rw [showing_withoutLive]
        split_ifs with happlied
        · exact h.pending serial hserial snapshot (.inr hmem) p happlied.1
        · exact le_refl _
    · exact le_refl _
  | ownerChanged newOwner => exact le_refl _

theorem changeOne_shown (s : PowerSystem) (update : Update) :
    (s.changeOne update).shown = s.shown := by
  unfold PowerSystem.changeOne
  split <;> rfl

theorem handle_shown (s : PowerSystem) (serial : ℕ) : (s.handle serial).shown = s.shown := by
  unfold PowerSystem.handle
  split <;> rfl

/-- No step takes the cache back. -/
theorem Ordered.shown_le_step {s : PowerSystem} (h : s.Ordered) (e : Event) (p : Property) :
    s.shown p ≤ (s.step e).shown p := by
  have hstep := s.stepTo e
  generalize s.step e = t at hstep
  cases hstep with
  | deliver hqueue => exact h.shown_le_receive hqueue p
  | change updates =>
    refine run_invariant (I := fun t : PowerSystem => s.shown p ≤ t.shown p) ?_ updates le_rfl
    intro t update ht
    rwa [changeOne_shown]
  | handle serial => rw [handle_shown]
  | _ => exact le_refl _

/-- Along every run each cached property is the one at its position in the history of the
service, and this position never decreases, whatever the service, the bus and the timer do. -/
theorem cached_position_never_decreases (running : Option (Property → QVariant))
    (es es' : List Event) (p : Property) :
    (run step (initial running) es).Shows p ∧
      (run step (initial running) es).shown p ≤
        (run step (initial running) (es ++ es')).shown p := by
  obtain ⟨hordered, hgenuine⟩ := run_ordered_genuine running es
  refine ⟨hgenuine.shows p, ?_⟩
  rw [run_append]
  exact run_monotone (I := Ordered) (fun s => s.shown p) (fun _ e h => h.step e)
    (fun _ e h => h.shown_le_step e p) es' hordered

end PowerSystem

end DdeTrayLoader.Power
