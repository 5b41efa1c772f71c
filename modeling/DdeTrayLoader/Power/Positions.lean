import DdeTrayLoader.Power.PowerSystem

/-!
# Cached properties never go back

Three clocks are compared through history positions: the service's, that of every value in
flight, and that of the cached value. Notifications travel in the order of the history, and
nothing that was captured before a notification was sent arrives behind it with a newer
value. While a call is pending, a property either was notified since the call was sent, and
then the reply is not applied to it, or is still cached at a position the call captured
later.
-/

namespace DdeTrayLoader.Power

open Transition

namespace Message

/-- The message is a notification with the value of `p` at position `k`. -/
def Notes (p : Property) (k : ℕ) : Message → Prop
  | .changed name _ position => name = p.name ∧ position = k
  | _ => False

/-- The message contains the value of `p` at position `k`, as a notification or a reply. -/
def Carries (p : Property) (k : ℕ) : Message → Prop
  | .changed name _ position => name = p.name ∧ position = k
  | .finished _ (some snapshot) => snapshot.positions p = k
  | _ => False

theorem Notes.carries {p : Property} {k : ℕ} {message : Message} (h : message.Notes p k) :
    message.Carries p k := by
  cases message <;> first | exact h | exact h.elim

end Message

namespace PowerSystem

/-- A snapshot the call with this serial captured is with the service or on its way back. -/
def InFlight (s : PowerSystem) (serial : ℕ) (snapshot : Snapshot) : Prop :=
  ⟨serial, some snapshot⟩ ∈ s.calls ∨ .finished serial (some snapshot) ∈ s.queue

/-- `getAllProperties` coalesces with the pending call, does nothing while the service is
down, or sends a call. -/
theorem getAllProperties_cases (s : PowerSystem) :
    (s.power.pendingSnapshot.isSome ∧
      s.getAllProperties = { s with power := { s.power with refreshPending := true } }) ∨
    (s.power.pendingSnapshot = none ∧ s.isValid = false ∧ s.getAllProperties = s) ∨
    (s.power.pendingSnapshot = none ∧ s.isValid = true ∧
      s.getAllProperties =
        { s with
          power := { s.power with
            refreshTimer := none
            liveProperties := []
            pendingSnapshot := some s.nextSerial }
          calls := s.calls ++ [⟨s.nextSerial, none⟩]
          nextSerial := s.nextSerial + 1 }) := by
  unfold getAllProperties DBusPower.getAllProperties
  split_ifs with hpending hvalid
  · exact .inl ⟨hpending, rfl⟩
  · exact .inr (.inl ⟨by simpa using hpending, by simpa using hvalid, rfl⟩)
  · exact .inr (.inr ⟨by simpa using hpending, by simpa using hvalid, rfl⟩)

/-- No reply or capture in flight belongs to a call that is not sent yet. -/
structure SerialsKnown (s : PowerSystem) : Prop where
  calls : ∀ call ∈ s.calls, call.serial < s.nextSerial
  queue : ∀ serial reply, .finished serial reply ∈ s.queue → serial < s.nextSerial

/-- How the history positions of the service, the values in flight and the cache compare. -/
structure Ordered (s : PowerSystem) : Prop extends SerialsKnown s where
  shown_le : ∀ p, s.shown p ≤ s.service.position p
  queue_le : ∀ message ∈ s.queue, ∀ p k, message.Carries p k → k ≤ s.service.position p
  calls_le : ∀ serial snapshot, ⟨serial, some snapshot⟩ ∈ s.calls →
    ∀ p, snapshot.positions p ≤ s.service.position p
  sorted : s.queue.Pairwise fun message later =>
    ∀ p k k', message.Carries p k → later.Notes p k' → k ≤ k'
  shown_le_notes : ∀ message ∈ s.queue, ∀ p k, message.Notes p k → s.shown p ≤ k
  pending : ∀ serial, s.power.pendingSnapshot = some serial → ∀ snapshot,
    s.InFlight serial snapshot → ∀ p, p.name ∉ s.power.liveProperties →
      s.shown p ≤ snapshot.positions p

/-- The order of positions does not depend on the proxy's timer, flag or cached values. -/
theorem Ordered.withPower {s : PowerSystem} (h : s.Ordered) {power : DBusPower}
    (hpending : ∀ serial, power.pendingSnapshot = some serial →
      s.power.pendingSnapshot = some serial)
    (hlive : ∀ p : Property, power.pendingSnapshot.isSome →
      p.name ∈ s.power.liveProperties → p.name ∈ power.liveProperties) :
    Ordered { s with power := power } where
  toSerialsKnown := ⟨h.calls, h.queue⟩
  shown_le := h.shown_le
  queue_le := h.queue_le
  calls_le := h.calls_le
  sorted := h.sorted
  shown_le_notes := h.shown_le_notes
  pending serial hserial snapshot hflight p hp :=
    h.pending serial (hpending serial hserial) snapshot hflight p fun hold =>
      hp (hlive p (by simp [show power.pendingSnapshot = some serial from hserial]) hold)

theorem Ordered.getAllProperties {s : PowerSystem} (h : s.Ordered) :
    s.getAllProperties.Ordered := by
  rcases s.getAllProperties_cases with ⟨-, heq⟩ | ⟨-, -, heq⟩ | ⟨-, -, heq⟩ <;> rw [heq]
  · exact h.withPower (fun _ => id) fun _ _ => id
  · exact h
  · refine
      { calls := ?_, queue := ?_, shown_le := h.shown_le, queue_le := h.queue_le,
        calls_le := ?_, sorted := h.sorted, shown_le_notes := h.shown_le_notes, pending := ?_ }
    · intro call hcall
      rcases List.mem_append.mp hcall with hold | hnew
      · exact (h.calls call hold).trans (Nat.lt_succ_self _)
      · rw [List.mem_singleton.mp hnew]
        exact Nat.lt_succ_self _
    · exact fun serial reply hreply => (h.queue serial reply hreply).trans (Nat.lt_succ_self _)
    · intro serial snapshot hcall
      rcases List.mem_append.mp hcall with hold | hnew
      · exact h.calls_le serial snapshot hold
      · cases List.mem_singleton.mp hnew
    · -- a call that has just been sent has captured nothing
      intro serial hserial snapshot hflight
      obtain rfl : s.nextSerial = serial := Option.some.inj hserial
      rcases hflight with hcall | hreply
      · rcases List.mem_append.mp hcall with hold | hnew
        · exact absurd (h.calls _ hold) (Nat.lt_irrefl _)
        · cases List.mem_singleton.mp hnew
      · exact absurd (h.queue _ _ hreply) (Nat.lt_irrefl _)

/-- The positions in flight after the oldest message is taken off the queue. -/
theorem Ordered.pop {s : PowerSystem} (h : s.Ordered) {message : Message}
    {rest : List Message} (hqueue : s.queue = message :: rest) :
    Ordered { s with queue := rest } where
  calls := h.calls
  queue serial reply hreply := h.queue serial reply (hqueue ▸ List.mem_cons_of_mem _ hreply)
  shown_le := h.shown_le
  queue_le later hlater := h.queue_le later (hqueue ▸ List.mem_cons_of_mem _ hlater)
  calls_le := h.calls_le
  sorted := (List.pairwise_cons.mp (hqueue ▸ h.sorted)).2
  shown_le_notes later hlater :=
    h.shown_le_notes later (hqueue ▸ List.mem_cons_of_mem _ hlater)
  pending serial hserial snapshot hflight :=
    h.pending serial hserial snapshot <| hflight.imp id fun hreply =>
      hqueue ▸ List.mem_cons_of_mem _ hreply

/-- A message that is received was sent before every notification behind it. -/
theorem Ordered.head_le {s : PowerSystem} (h : s.Ordered) {message : Message}
    {rest : List Message} (hqueue : s.queue = message :: rest) {p : Property} {k : ℕ}
    (hk : message.Carries p k) : ∀ later ∈ rest, ∀ k', later.Notes p k' → k ≤ k' := by
  have hsorted := h.sorted
  rw [hqueue] at hsorted
  exact fun later hlater k' hk' =>
    (List.pairwise_cons.mp hsorted).1 later hlater p k k' hk hk'

/-- Writing values whose positions lie between the cached ones and those of the
notifications in flight keeps the order, once no call is waiting for these properties. -/
theorem Ordered.write {s : PowerSystem} (h : s.Ordered) {power : DBusPower}
    {shown : Property → ℕ} (hle : ∀ p, shown p ≤ s.service.position p)
    (hnotes : ∀ message ∈ s.queue, ∀ p k, message.Notes p k → shown p ≤ k)
    (hpending : ∀ serial, power.pendingSnapshot = some serial →
      s.power.pendingSnapshot = some serial ∧ ∀ p : Property, p.name ∉ power.liveProperties →
        p.name ∉ s.power.liveProperties ∧ shown p = s.shown p) :
    Ordered { s with power := power, shown := shown } where
  calls := h.calls
  queue := h.queue
  shown_le := hle
  queue_le := h.queue_le
  calls_le := h.calls_le
  sorted := h.sorted
  shown_le_notes := hnotes
  pending serial hserial snapshot hflight p hp := by
    obtain ⟨hold, hkept⟩ := hpending serial hserial
    obtain ⟨hlive, hshown⟩ := hkept p hp
    change shown p ≤ _
    rw [hshown]
    exact h.pending serial hold snapshot hflight p hlive

theorem markLive_pendingSnapshot (power : DBusPower) (name : String) :
    (power.markLive name).pendingSnapshot = power.pendingSnapshot := by
  unfold DBusPower.markLive
  split <;> rfl

theorem mem_markLive (power : DBusPower) (name other : String) :
    other ∈ (power.markLive name).liveProperties ↔
      (power.pendingSnapshot.isSome ∧ other = name) ∨ other ∈ power.liveProperties := by
  unfold DBusPower.markLive
  split <;> simp_all

theorem showing_single (name : String) (value : QVariant) (position : ℕ)
    (shown : Property → ℕ) (p : Property) :
    showing (.single name value) (fun _ => position) shown p =
      if p.name = name then position else shown p := by
  unfold showing QVariantMap.single
  split_ifs <;> simp_all

theorem showing_withoutLive (power : DBusPower) (values : QVariantMap)
    (positions shown : Property → ℕ) (p : Property) :
    showing (power.withoutLive values) positions shown p =
      if p.name ∉ power.liveProperties ∧ (values p.name).isSome then positions p
      else shown p := by
  unfold showing
  rw [DBusPower.withoutLive_apply]
  split_ifs <;> simp_all

/-- A finished call is not pending any more. -/
theorem finished_pendingSnapshot (power : DBusPower) (isValid : Bool)
    (reply : Option QVariantMap) : (power.finished isValid reply).pendingSnapshot = none := by
  cases reply with
  | none => unfold DBusPower.finished; dsimp only; split <;> rfl
  | some snapshot => unfold DBusPower.finished; dsimp only; split <;> rfl

/-- Receiving a message keeps the order of positions. -/
theorem Ordered.receive {s : PowerSystem} (h : s.Ordered) {message : Message}
    {rest : List Message} (hqueue : s.queue = message :: rest) :
    ({ s with queue := rest }.receive message).Ordered := by
  have hpop := h.pop hqueue
  have hmem : message ∈ s.queue := hqueue ▸ List.mem_cons_self
  cases message with
  | changed name value position =>
    refine hpop.write (fun p => ?_) (fun later hlater p k hk => ?_) fun serial hserial => ?_
    · rw [showing_single]
      split_ifs with hname
      · exact h.queue_le _ hmem p position ⟨hname.symm, rfl⟩
      · exact h.shown_le p
    · rw [showing_single]
      split_ifs with hname
      · exact h.head_le hqueue (p := p) ⟨hname.symm, rfl⟩ later hlater k hk
      · exact hpop.shown_le_notes later hlater p k hk
    · have hold : s.power.pendingSnapshot = some serial :=
        (markLive_pendingSnapshot s.power name).symm.trans hserial
      refine ⟨hold, fun p hp => ?_⟩
      have hnot : ¬(_ ∨ _) := fun hlive => hp ((mem_markLive s.power name p.name).mpr hlive)
      simp only [hold, Option.isSome_some, true_and, not_or] at hnot
      rw [showing_single, if_neg hnot.1]
      exact ⟨hnot.2, rfl⟩
  | invalidated name =>
    refine Ordered.getAllProperties (s := { s with
      queue := rest, power := s.power.markLive name }) (hpop.withPower ?_ ?_)
    · exact fun serial hserial => (markLive_pendingSnapshot s.power name).symm.trans hserial
    · exact fun p _ hp => (mem_markLive s.power name p.name).mpr (.inr hp)
  | finished serial reply =>
    simp only [PowerSystem.receive]
    split_ifs with hserial
    · have hdone (serial' : ℕ) (hserial' :
          (s.power.finished s.isValid (reply.map (·.values))).pendingSnapshot = some serial') :
          False := by
        rw [finished_pendingSnapshot] at hserial'
        cases hserial'
      cases reply with
      | none =>
        exact hpop.write hpop.shown_le hpop.shown_le_notes fun _ hs => (hdone _ hs).elim
      | some snapshot =>
        refine hpop.write (fun p => ?_) (fun later hlater p k hk => ?_)
          fun _ hs => (hdone _ hs).elim
        · dsimp only
          rw [showing_withoutLive]
          split_ifs
          · exact h.queue_le _ hmem p _ rfl
          · exact h.shown_le p
        · dsimp only
          rw [showing_withoutLive]
          split_ifs
          · exact h.head_le hqueue (p := p) rfl later hlater k hk
          · exact hpop.shown_le_notes later hlater p k hk
    · exact hpop
  | ownerChanged newOwner =>
    have hdropped : Ordered { s with
        queue := rest, power := s.power.serviceOwnerChanged newOwner } :=
      hpop.withPower nofun nofun
    exact { hdropped with }

/-- Sending a message keeps the order, if a notification in it is newer than everything so
far and a reply in it answers a call. -/
theorem Ordered.send {s : PowerSystem} (h : s.Ordered) {service : PowerService}
    {calls : List Call} {message : Message}
    (hposition : ∀ p, s.service.position p ≤ service.position p)
    (hcalls : ∀ call ∈ calls, call ∈ s.calls)
    (hcarries : ∀ p k, message.Carries p k → k ≤ service.position p)
    (hnotes : ∀ p k, message.Notes p k → s.service.position p ≤ k)
    (hserial : ∀ serial reply, message = .finished serial reply → serial < s.nextSerial)
    (hreply : ∀ serial snapshot, message = .finished serial (some snapshot) →
      s.InFlight serial snapshot) :
    Ordered { s with
      service := service, calls := calls, queue := s.queue ++ [message] } where
  calls call hcall := h.calls call (hcalls call hcall)
  queue serial reply hmem := by
    rcases List.mem_append.mp hmem with hold | hnew
    · exact h.queue serial reply hold
    · exact hserial serial reply (List.mem_singleton.mp hnew).symm
  shown_le p := (h.shown_le p).trans (hposition p)
  queue_le m hm p k hk := by
    rcases List.mem_append.mp hm with hold | hnew
    · exact (h.queue_le m hold p k hk).trans (hposition p)
    · exact hcarries p k (List.mem_singleton.mp hnew ▸ hk)
  calls_le serial snapshot hcall p :=
    (h.calls_le serial snapshot (hcalls _ hcall) p).trans (hposition p)
  sorted := by
    refine List.pairwise_append.mpr ⟨h.sorted, List.pairwise_singleton _ _, ?_⟩
    intro m hm later hlater p k k' hk hk'
    rw [List.mem_singleton.mp hlater] at hk'
    exact (h.queue_le m hm p k hk).trans (hnotes p k' hk')
  shown_le_notes m hm p k hk := by
    rcases List.mem_append.mp hm with hold | hnew
    · exact h.shown_le_notes m hold p k hk
    · exact (h.shown_le p).trans (hnotes p k (List.mem_singleton.mp hnew ▸ hk))
  pending serial hpending snapshot hflight := by
    apply h.pending serial hpending snapshot
    rcases hflight with hcall | hqueue
    · exact .inl (hcalls _ hcall)
    · rcases List.mem_append.mp hqueue with hold | hnew
      · exact .inr hold
      · exact hreply serial snapshot (List.mem_singleton.mp hnew).symm

theorem position_append (service : PowerService) (p q : Property) (value : QVariant) :
    (service.append p value).position q =
      if q = p then service.position q + 1 else service.position q := by
  unfold PowerService.append PowerService.position
  split_ifs with h <;> simp [h]

theorem notification_carries (update : Update) (position : ℕ) {p : Property} {k : ℕ}
    (h : (update.notification position).Carries p k) : update.name = p.name ∧ position = k := by
  unfold Update.notification at h
  split at h
  · exact h
  · exact h.elim

theorem notification_ne_finished (update : Update) (position serial : ℕ)
    (reply : Option Snapshot) : update.notification position ≠ .finished serial reply := by
  unfold Update.notification
  split <;> nofun

theorem Ordered.changeOne {s : PowerSystem} (h : s.Ordered) (update : Update) :
    (s.changeOne update).Ordered := by
  unfold PowerSystem.changeOne
  cases hname : Property.ofName? update.name with
  | none =>
    have hcarries (p : Property) (k : ℕ) (hk : (update.notification 0).Carries p k) : False := by
      rw [(notification_carries update 0 hk).1, Property.ofName?_name] at hname
      cases hname
    have hnotes (p : Property) (k : ℕ) (hk : (update.notification 0).Notes p k) : False :=
      hcarries p k hk.carries
    exact h.send (fun _ => le_refl _) (fun _ => id) (fun p k hk => (hcarries p k hk).elim)
      (fun p k hk => (hnotes p k hk).elim)
      (fun _ _ heq => (notification_ne_finished _ _ _ _ heq).elim)
      (fun _ _ heq => (notification_ne_finished _ _ _ _ heq).elim)
  | some p =>
    rw [Property.ofName?_eq_some] at hname
    have hcarries (q : Property) (k : ℕ)
        (hk : (update.notification (s.service.position p + 1)).Carries q k) :
        q = p ∧ k = s.service.position q + 1 := by
      obtain ⟨hq, rfl⟩ := notification_carries update _ hk
      obtain rfl := Property.name_injective (hname.trans hq)
      exact ⟨rfl, rfl⟩
    have hnotes (q : Property) (k : ℕ)
        (hk : (update.notification (s.service.position p + 1)).Notes q k) :
        s.service.position q ≤ k := by
      obtain ⟨-, rfl⟩ := hcarries q k hk.carries
      exact Nat.le_succ _
    refine h.send (fun q => ?_) (fun _ => id) (fun q k hk => ?_) hnotes
      (fun _ _ heq => (notification_ne_finished _ _ _ _ heq).elim)
      (fun _ _ heq => (notification_ne_finished _ _ _ _ heq).elim)
    · rw [position_append]
      split_ifs <;> omega
    · obtain ⟨rfl, rfl⟩ := hcarries q k hk
      rw [position_append, if_pos rfl]

theorem Ordered.handle {s : PowerSystem} (h : s.Ordered) (serial : ℕ) :
    (s.handle serial).Ordered := by
  unfold PowerSystem.handle
  split_ifs
  swap
  · exact h
  -- a call in the new list is an old one or has just captured the current positions
  have hcases (call : Call) (hcall : call ∈ s.calls.map fun call =>
      if call.serial = serial ∧ call.captured.isNone then ⟨serial, some s.snapshot⟩ else call) :
      ∃ old ∈ s.calls, old.serial = call.serial ∧
        (call = old ∨ call.captured = some s.snapshot) := by
    obtain ⟨old, hold, rfl⟩ := List.mem_map.mp hcall
    refine ⟨old, hold, ?_⟩
    split_ifs with hcaptured
    · exact ⟨hcaptured.1, .inr rfl⟩
    · exact ⟨rfl, .inl rfl⟩
  refine { h with calls := fun call hcall => ?_, calls_le := ?_, pending := ?_ }
  · obtain ⟨old, hold, hserial, -⟩ := hcases call hcall
    exact hserial ▸ h.calls old hold
  · intro serial' snapshot hcall p
    obtain ⟨old, hold, -, rfl | hnew⟩ := hcases _ hcall
    · exact h.calls_le serial' snapshot hold p
    · cases hnew
      exact le_refl _
  · intro serial' hserial' snapshot hcase p hp
    rcases hcase with hcall | hreply
    · obtain ⟨old, hold, -, rfl | hnew⟩ := hcases _ hcall
      · exact h.pending serial' hserial' snapshot (.inl hold) p hp
      · cases hnew
        exact h.shown_le p
    · exact h.pending serial' hserial' snapshot (.inr hreply) p hp

theorem Ordered.reply {s : PowerSystem} (h : s.Ordered) {serial : ℕ} {reply : Option Snapshot}
    (hserial : serial < s.nextSerial)
    (hreply : ∀ snapshot, reply = some snapshot → ⟨serial, some snapshot⟩ ∈ s.calls) :
    (s.reply serial reply).Ordered := by
  have hcarries (p : Property) (k : ℕ) (hk : (Message.finished serial reply).Carries p k) :
      k ≤ s.service.position p := by
    cases reply with
    | none => exact hk.elim
    | some snapshot => exact hk ▸ h.calls_le serial snapshot (hreply snapshot rfl) p
  refine h.send (fun _ => le_refl _) (fun c hc => List.mem_of_mem_filter hc) hcarries nofun ?_ ?_
  · intro _ _ hsame
    cases hsame
    exact hserial
  · intro _ snapshot heq
    obtain ⟨rfl, hsnapshot⟩ := Message.finished.inj heq
    exact .inl (hreply snapshot hsnapshot)

/-- Nothing in flight or cached is newer than a service that has gained values. -/
theorem Ordered.owner {s : PowerSystem} (h : s.Ordered) {service : PowerService}
    (newOwner : Option ℕ) (hposition : ∀ p, s.service.position p ≤ service.position p) :
    Ordered { s with service := service, queue := s.queue ++ [.ownerChanged newOwner] } :=
  h.send hposition (fun _ => id) (fun _ _ hk => hk.elim) (fun _ _ hk => hk.elim) nofun nofun

/-- Every step keeps the order of positions. -/
theorem Ordered.step {s : PowerSystem} (h : s.Ordered) (e : Event) : (s.step e).Ordered := by
  have hstep := s.stepTo e
  generalize s.step e = t at hstep
  cases hstep with
  | idle => exact h
  | request => exact h.getAllProperties
  | timeout =>
    refine Ordered.getAllProperties (s := { s with
      power := { s.power with refreshTimer := none } }) (h.withPower ?_ ?_)
    · exact fun _ => id
    · exact fun _ _ => id
  | deliver hqueue => exact h.receive hqueue
  | interfaceUpdate => exact { h with }
  | interfaceFirst => exact { h with }
  | change updates => exact run_invariant (fun _ update hs => hs.changeOne update) updates h
  | handle serial => exact h.handle serial
  | fail hcall => exact h.reply (h.calls _ hcall) nofun
  | succeed hcall =>
    apply h.reply (h.calls _ hcall)
    intro _ hsame
    cases hsame
    exact hcall
  | start owner initial =>
    apply h.owner (some owner)
    intro p
    simp [PowerService.position]
  | stop => exact h.owner none fun p => le_refl _

end PowerSystem

end DdeTrayLoader.Power
