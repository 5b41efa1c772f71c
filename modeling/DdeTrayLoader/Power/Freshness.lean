import DdeTrayLoader.Power.Provenance

/-!
# No update is lost

While the service has an owner, a property whose cached value is not current has a
successor: a message in flight that concerns it, a pending call, or the armed timer. The
invariant also follows what these successors will bring. The last message about a property
carries its current value unless it makes the proxy ask again, the last owner change in
flight tells the truth, and a pending call that no message has spoiled brings the current
values of the properties that were not notified meanwhile.
-/

namespace DdeTrayLoader.Power

open Transition

/-- The message makes the proxy write the property or ask for it. -/
def Message.Concerns (p : Property) : Message → Prop
  | .changed name _ _ => name = p.name
  | .invalidated name => name = p.name
  | .ownerChanged _ => True
  | .finished _ _ => False

/-- A decomposition of a queue at one element, after one more message was sent. -/
theorem concat_eq_append_cons {α : Type} {queue pre post : List α} {message m : α}
    (h : queue ++ [message] = pre ++ m :: post) :
    (post = [] ∧ m = message ∧ pre = queue) ∨
      ∃ post', post = post' ++ [message] ∧ queue = pre ++ m :: post' := by
  rcases List.eq_nil_or_concat post with rfl | ⟨post', last, rfl⟩
  · obtain ⟨hqueue, hlast⟩ := List.append_inj' h rfl
    exact .inl ⟨rfl, (List.singleton_inj.mp hlast).symm, hqueue.symm⟩
  · rw [List.concat_eq_append, ← List.cons_append, ← List.append_assoc] at h
    obtain ⟨hqueue, hlast⟩ := List.append_inj' h rfl
    rw [List.singleton_inj] at hlast
    exact .inr ⟨post', by rw [List.concat_eq_append, hlast], hqueue⟩

namespace PowerSystem

/-- An owner change is in flight. -/
def OwnerInFlight (s : PowerSystem) : Prop := ∃ newOwner, .ownerChanged newOwner ∈ s.queue

/-- What the messages in flight, and `isValid()`, say about the service. -/
structure Informed (s : PowerSystem) : Prop where
  last_value : ∀ (p : Property) pre value k post,
    s.queue = pre ++ .changed p.name value k :: post → (∀ m ∈ post, ¬m.Concerns p) →
      k = s.service.position p
  last_owner : ∀ pre newOwner post, s.queue = pre ++ .ownerChanged newOwner :: post →
    (∀ owner, .ownerChanged owner ∉ post) → newOwner.isSome = s.service.owner.isSome
  lag : ∀ isValid, s.lag = some isValid → ¬s.OwnerInFlight → isValid = s.service.owner.isSome
  valid : s.lag = none → ¬s.OwnerInFlight → s.isValid = s.service.owner.isSome

/-- A message in flight concerns the property. -/
def Awaited (s : PowerSystem) (p : Property) : Prop := ∃ m ∈ s.queue, m.Concerns p

theorem OwnerInFlight.awaited {s : PowerSystem} (h : s.OwnerInFlight) (p : Property) :
    s.Awaited p := by
  obtain ⟨newOwner, hmem⟩ := h
  exact ⟨_, hmem, trivial⟩

/-- The cached value is current, or something is under way that will bring the current one. -/
def Repaired (s : PowerSystem) (p : Property) : Prop :=
  s.Awaited p ∨ s.power.pendingSnapshot.isSome ∨ s.power.refreshTimer.isSome ∨
    s.shown p = s.service.position p

/-- The pending call, or a message in flight, leaves the property current. -/
def Covered (s : PowerSystem) (serial : ℕ) (p : Property) : Prop :=
  s.Awaited p ∨
    (p.name ∈ s.power.liveProperties → s.shown p = s.service.position p) ∧
    (p.name ∉ s.power.liveProperties → ∀ snapshot, s.InFlight serial snapshot →
      snapshot.positions p = s.service.position p)

structure Recovering (s : PowerSystem) : Prop extends Informed s where
  repaired : s.service.owner.isSome → ∀ p, s.Repaired p
  covered : ∀ serial, s.power.pendingSnapshot = some serial → s.power.refreshPending = false →
    s.service.owner.isSome → ∀ p, s.Covered serial p

/-- While the proxy is told the truth, an invalid interface means the service is down or an
owner change is on its way. -/
theorem Informed.repaired_of_invalid {s : PowerSystem} (h : s.Informed) (hlag : s.lag = none)
    (hvalid : s.isValid = false) (howner : s.service.owner.isSome) (p : Property) :
    s.Awaited p := by
  by_contra hnone
  have := h.valid hlag fun hflight => hnone (hflight.awaited p)
  rw [hvalid, howner] at this
  cases this

/-- Asking for a snapshot repairs everything, if what it cannot repair is under repair. -/
theorem Informed.getAllProperties {s : PowerSystem} (h : s.Informed) (hserials : s.SerialsKnown)
    (hinvalid : s.power.pendingSnapshot = none → s.isValid = false →
      s.service.owner.isSome → ∀ p, s.Repaired p) :
    s.getAllProperties.Recovering := by
  rcases s.getAllProperties_cases with ⟨hpending, heq⟩ | ⟨hpending, hvalid, heq⟩ |
    ⟨-, -, heq⟩ <;> rw [heq]
  · exact
      { h with
        repaired := fun _ _ => .inr (.inl hpending)
        covered := fun _ _ (hrefresh : true = false) => nomatch hrefresh }
  · refine { h with repaired := hinvalid hpending hvalid, covered := ?_ }
    intro serial hserial
    rw [hpending] at hserial
    cases hserial
  · refine { h with repaired := fun _ _ => .inr (.inl rfl), covered := ?_ }
    -- the new call has captured nothing yet, and every property counts on it
    intro serial hserial _ _ p
    obtain rfl : s.nextSerial = serial := Option.some.inj hserial
    refine .inr ⟨fun hlive => absurd hlive List.not_mem_nil, fun _ snapshot hflight => ?_⟩
    rcases hflight with hcall | hreply
    · rcases List.mem_append.mp hcall with hold | hnew
      · exact absurd (hserials.calls _ hold) (Nat.lt_irrefl _)
      · cases List.mem_singleton.mp hnew
    · exact absurd (hserials.queue _ _ hreply) (Nat.lt_irrefl _)

/-- Taking a message off the queue that is no owner change keeps what the others say. -/
theorem Informed.pop {s : PowerSystem} (h : s.Informed) {message : Message}
    {rest : List Message} (hqueue : s.queue = message :: rest)
    (hmessage : ∀ newOwner, message ≠ .ownerChanged newOwner) :
    Informed { s with queue := rest } := by
  have hflight : s.OwnerInFlight → OwnerInFlight { s with queue := rest } := by
    intro hboth
    obtain ⟨newOwner, hmem⟩ := hboth
    rw [hqueue] at hmem
    rcases List.mem_cons.mp hmem with heq | hrest
    · exact absurd heq.symm (hmessage newOwner)
    · exact ⟨newOwner, hrest⟩
  exact
    { last_value := fun p pre value k post heq =>
        h.last_value p (message :: pre) value k post (hqueue ▸ congrArg (message :: ·) heq)
      last_owner := fun pre newOwner post heq =>
        h.last_owner (message :: pre) newOwner post (hqueue ▸ congrArg (message :: ·) heq)
      lag := fun isValid hlag hnone => h.lag isValid hlag (hnone ∘ hflight)
      valid := fun hlag hnone => h.valid hlag (hnone ∘ hflight) }

/-- What is under way for a property that the oldest message does not concern. -/
theorem Awaited.pop {s : PowerSystem} {p : Property} (h : s.Awaited p) {message : Message}
    {rest : List Message} (hqueue : s.queue = message :: rest) (hmessage : ¬message.Concerns p) :
    ∃ m ∈ rest, m.Concerns p := by
  obtain ⟨m, hmem, hm⟩ := h
  rw [hqueue] at hmem
  rcases List.mem_cons.mp hmem with rfl | hrest
  · exact absurd hm hmessage
  · exact ⟨m, hrest, hm⟩

/-- Changing the proxy alone changes nothing it is told. -/
theorem Informed.withPower {s : PowerSystem} (h : s.Informed) (power : DBusPower)
    (shown : Property → ℕ) : Informed { s with power := power, shown := shown } :=
  { h with }

/-- A value that is received is written, and it is current if nothing else is on its way. -/
theorem Recovering.changed {s : PowerSystem} (h : s.Recovering) {name : String}
    {value : QVariant} {position : ℕ} {rest : List Message}
    (hqueue : s.queue = .changed name value position :: rest) :
    ({ s with queue := rest }.receive (.changed name value position)).Recovering := by
  have hinformed := (h.toInformed.pop hqueue nofun).withPower
    (s.power.propertyChanged name value)
    (showing (.single name value) (fun _ => position) s.shown)
  have hshown (p : Property) : showing (.single name value) (fun _ => position) s.shown p =
      if p.name = name then position else s.shown p := showing_single name value position s.shown p
  have hcurrent (p : Property) (hname : p.name = name) (hnone : ¬∃ m ∈ rest, m.Concerns p) :
      showing (.single name value) (fun _ => position) s.shown p = s.service.position p := by
    subst hname
    rw [hshown, if_pos rfl]
    exact h.last_value p [] value position rest hqueue fun m hm hc => hnone ⟨m, hm, hc⟩
  refine { hinformed with repaired := fun howner p => ?_, covered := ?_ }
  · by_cases hnone : ∃ m ∈ rest, m.Concerns p
    · exact .inl hnone
    by_cases hname : p.name = name
    · exact .inr (.inr (.inr (hcurrent p hname hnone)))
    · rcases h.repaired howner p with hawaited | hpending | htimer | hold
      · exact .inl (hawaited.pop hqueue fun hc => hname hc.symm)
      · exact .inr (.inl (markLive_pendingSnapshot s.power name ▸ hpending))
      · refine .inr (.inr (.inl ?_))
        change (s.power.markLive name).refreshTimer.isSome
        unfold DBusPower.markLive
        split <;> exact htimer
      · exact .inr (.inr (.inr ((hshown p).trans ((if_neg hname).trans hold))))
  · intro serial hserial hrefresh howner p
    replace hserial : s.power.pendingSnapshot = some serial :=
      (markLive_pendingSnapshot s.power name).symm.trans hserial
    replace hrefresh : s.power.refreshPending = false := by
      rw [← hrefresh]
      change _ = (s.power.markLive name).refreshPending
      unfold DBusPower.markLive
      split <;> rfl
    have hlive : p.name ∈ (s.power.markLive name).liveProperties ↔
        p.name = name ∨ p.name ∈ s.power.liveProperties := by
      rw [mem_markLive, hserial]
      simp
    by_cases hnone : ∃ m ∈ rest, m.Concerns p
    · exact .inl hnone
    by_cases hname : p.name = name
    · exact .inr ⟨fun _ => hcurrent p hname hnone,
        fun hnot => absurd (hlive.mpr (.inl hname)) hnot⟩
    rcases h.covered serial hserial hrefresh howner p with hawaited | ⟨hold, hnew⟩
    · exact absurd (hawaited.pop hqueue fun hc => hname hc.symm) hnone
    · refine .inr ⟨fun hmem => ?_, fun hnot snapshot hflight => ?_⟩
      · exact (hshown p).trans
          ((if_neg hname).trans (hold ((hlive.mp hmem).resolve_left hname)))
      · apply hnew (fun hmem => hnot (hlive.mpr (.inr hmem))) snapshot
        exact hflight.imp id fun hreply => hqueue ▸ List.mem_cons_of_mem _ hreply

/-- A reply leaves every property current that no later message concerns, or arms the timer. -/
theorem Recovering.finished {s : PowerSystem} (h : s.Recovering) (hgenuine : s.Genuine)
    (hlag : s.lag = none) {serial : ℕ} {reply : Option Snapshot} {rest : List Message}
    (hqueue : s.queue = .finished serial reply :: rest) :
    ({ s with queue := rest }.receive (.finished serial reply)).Recovering := by
  have hinformed := h.toInformed.pop hqueue nofun
  simp only [PowerSystem.receive]
  split_ifs with hserial
  swap
  · refine { hinformed with repaired := fun howner p => ?_, covered := ?_ }
    · exact (h.repaired howner p).imp (fun hawaited => hawaited.pop hqueue id) id
    · intro serial' hserial' hrefresh howner p
      refine (h.covered serial' hserial' hrefresh howner p).imp
        (fun hawaited => hawaited.pop hqueue id) fun hcovered => ⟨hcovered.1, ?_⟩
      intro hnot snapshot hflight
      exact hcovered.2 hnot snapshot <| hflight.imp id fun hreply =>
        hqueue ▸ List.mem_cons_of_mem _ hreply
  refine { hinformed with repaired := fun howner p => ?_, covered := ?_ }
  swap
  · intro serial' hserial'
    dsimp only at hserial'
    rw [finished_pendingSnapshot] at hserial'
    cases hserial'
  cases reply with
  | none =>
    cases hvalid : s.isValid with
    | false => exact .inl (hinformed.repaired_of_invalid hlag hvalid howner p)
    | true => exact .inr (.inr (.inl rfl))
  | some snapshot =>
    cases hrefresh : s.power.refreshPending with
    | true =>
      refine .inr (.inr (.inl ?_))
      simp [DBusPower.finished, hrefresh]
    | false =>
      have hmem : .finished serial (some snapshot) ∈ s.queue := hqueue ▸ List.mem_cons_self
      obtain ⟨value, hvalue, -⟩ := hgenuine.replies serial snapshot (.inr hmem) p
      rcases h.covered serial hserial hrefresh howner p with hawaited | ⟨hold, hnew⟩
      · exact .inl (hawaited.pop hqueue id)
      · refine .inr (.inr (.inr ?_))
        dsimp only
        rw [showing_withoutLive]
        split_ifs with happlied
        · exact hnew happlied.1 snapshot (.inr hmem)
        · refine hold (by_contra fun hnot => happlied ⟨hnot, ?_⟩)
          rw [hvalue, Option.isSome_some]

/-- An owner change drops the pending call and arms the timer, unless the owner is gone. -/
theorem Recovering.ownerChanged {s : PowerSystem} (h : s.Recovering) {newOwner : Option ℕ}
    {rest : List Message} (hqueue : s.queue = .ownerChanged newOwner :: rest) :
    ({ s with queue := rest }.receive (.ownerChanged newOwner)).Recovering := by
  have htruth (hnone : ∀ owner, Message.ownerChanged owner ∉ rest) :
      newOwner.isSome = s.service.owner.isSome :=
    h.last_owner [] newOwner rest hqueue hnone
  refine
    { last_value := fun p pre value k post heq =>
        h.last_value p (_ :: pre) value k post (hqueue ▸ congrArg (_ :: ·) heq)
      last_owner := fun pre owner post heq =>
        h.last_owner (_ :: pre) owner post (hqueue ▸ congrArg (_ :: ·) heq)
      lag := ?_, valid := nofun, repaired := fun howner p => ?_, covered := nofun }
  · intro _ hsame hnone
    cases hsame
    exact htruth fun owner hmem => hnone ⟨owner, hmem⟩
  · by_cases hflight : ∃ owner, Message.ownerChanged owner ∈ rest
    · obtain ⟨owner, hmem⟩ := hflight
      exact .inl ⟨_, hmem, trivial⟩
    · have hsome := htruth fun owner hmem => hflight ⟨owner, hmem⟩
      refine .inr (.inr (.inl ?_))
      change (if newOwner.isSome then some 0 else none : Option ℕ).isSome
      rw [if_pos (hsome.trans howner), Option.isSome_some]

theorem Recovering.receive {s : PowerSystem} (h : s.Recovering) (hordered : s.Ordered)
    (hgenuine : s.Genuine) (hlag : s.lag = none) {message : Message} {rest : List Message}
    (hqueue : s.queue = message :: rest) :
    ({ s with queue := rest }.receive message).Recovering := by
  cases message with
  | changed name value position => exact h.changed hqueue
  | invalidated name =>
    have hinformed := (h.toInformed.pop hqueue nofun).withPower (s.power.markLive name) s.shown
    refine Informed.getAllProperties hinformed ⟨hordered.calls, (hordered.pop hqueue).queue⟩ ?_
    exact fun _ hvalid howner p => .inl (hinformed.repaired_of_invalid hlag hvalid howner p)
  | finished serial reply => exact h.finished hgenuine hlag hqueue
  | ownerChanged newOwner => exact h.ownerChanged hqueue

/-- The single-shot timer fires: the call it makes replaces it, unless the service is gone. -/
theorem Recovering.timeout {s : PowerSystem} (h : s.Recovering) (hordered : s.Ordered)
    (hlag : s.lag = none) :
    { s with power := { s.power with refreshTimer := none } }.getAllProperties.Recovering := by
  have hinformed := h.toInformed.withPower { s.power with refreshTimer := none } s.shown
  refine Informed.getAllProperties hinformed ⟨hordered.calls, hordered.queue⟩ ?_
  exact fun _ hvalid howner p => .inl (hinformed.repaired_of_invalid hlag hvalid howner p)

theorem notification_concerns (update : Update) (position : ℕ) (p : Property) :
    (update.notification position).Concerns p ↔ update.name = p.name := by
  unfold Update.notification
  split <;> rfl

theorem notification_ne_ownerChanged (update : Update) (position : ℕ) (newOwner : Option ℕ) :
    update.notification position ≠ .ownerChanged newOwner := by
  unfold Update.notification
  split <;> nofun

theorem notification_eq_changed {update : Update} {position : ℕ} {name : String}
    {value : QVariant} {k : ℕ} (h : .changed name value k = update.notification position) :
    update.name = name ∧ k = position := by
  unfold Update.notification at h
  split at h
  · obtain ⟨hname, -, hk⟩ := Message.changed.inj h
    exact ⟨hname.symm, hk⟩
  · cases h

/-- Sending a message that is no owner change leaves the others as true as they are, and its
own value is the current one. -/
theorem Informed.send {s : PowerSystem} (h : s.Informed) {service : PowerService}
    {calls : List Call} {message : Message}
    (howner : service.owner = s.service.owner)
    (hmessage : ∀ newOwner, message ≠ .ownerChanged newOwner)
    (hposition : ∀ p, ¬message.Concerns p → service.position p = s.service.position p)
    (hvalue : ∀ (p : Property) value k, .changed p.name value k = message →
      k = service.position p) :
    Informed { s with
      service := service, calls := calls, queue := s.queue ++ [message] } := by
  have hflight : s.OwnerInFlight → OwnerInFlight { s with
      service := service, calls := calls, queue := s.queue ++ [message] } :=
    fun ⟨newOwner, hmem⟩ => ⟨newOwner, List.mem_append_left _ hmem⟩
  refine
    { last_value := fun p pre value k post heq hpost => ?_
      last_owner := fun pre newOwner post heq hpost => ?_
      lag := fun isValid hlag hnone => ?_
      valid := fun hlag hnone => ?_ }
  · rcases concat_eq_append_cons heq with ⟨-, hm, -⟩ | ⟨post', rfl, hold⟩
    · exact hvalue p value k hm
    · have hnot := hpost message (by simp)
      exact (h.last_value p pre value k post' hold fun m hm =>
        hpost m (List.mem_append_left _ hm)).trans (hposition p hnot).symm
  · rcases concat_eq_append_cons heq with ⟨-, hm, -⟩ | ⟨post', rfl, hold⟩
    · exact absurd hm.symm (hmessage newOwner)
    · exact (h.last_owner pre newOwner post' hold fun owner hm =>
        hpost owner (List.mem_append_left _ hm)).trans (congrArg Option.isSome howner.symm)
  · exact (h.lag isValid hlag (hnone ∘ hflight)).trans (congrArg Option.isSome howner.symm)
  · exact (h.valid hlag (hnone ∘ hflight)).trans (congrArg Option.isSome howner.symm)

theorem Recovering.changeOne {s : PowerSystem} (h : s.Recovering) (update : Update) :
    (s.changeOne update).Recovering := by
  -- a property that changes is awaited, and the others stay as they are
  have hsend (service : PowerService) (position : ℕ)
      (howner : service.owner = s.service.owner)
      (hposition : ∀ p : Property, update.name ≠ p.name →
        service.position p = s.service.position p)
      (hvalue : ∀ p : Property, update.name = p.name → position = service.position p) :
      Recovering { s with
        service := service, queue := s.queue ++ [update.notification position] } := by
    have hinformed : Informed { s with
        service := service, queue := s.queue ++ [update.notification position] } :=
      h.toInformed.send howner (notification_ne_ownerChanged update position)
        (fun p hnot => hposition p ((notification_concerns update position p).not.mp hnot))
        fun p value k heq =>
          have ⟨hname, hk⟩ := notification_eq_changed heq
          hk.trans (hvalue p hname)
    have hawaited (p : Property) (hname : update.name = p.name) :
        ∃ m ∈ s.queue ++ [update.notification position], m.Concerns p :=
      ⟨_, by simp, (notification_concerns update position p).mpr hname⟩
    have hkept (p : Property) (hold : s.Awaited p) :
        ∃ m ∈ s.queue ++ [update.notification position], m.Concerns p :=
      hold.imp fun m hm => ⟨List.mem_append_left _ hm.1, hm.2⟩
    refine { hinformed with repaired := fun hsome p => ?_, covered := ?_ }
    · by_cases hname : update.name = p.name
      · exact .inl (hawaited p hname)
      · refine (h.repaired (howner ▸ hsome) p).imp (hkept p)
          (Or.imp id (Or.imp id fun hshown => ?_))
        exact hshown.trans (hposition p hname).symm
    · intro serial hserial hrefresh hsome p
      by_cases hname : update.name = p.name
      · exact .inl (hawaited p hname)
      · apply (h.covered serial hserial hrefresh (howner ▸ hsome) p).imp (hkept p)
        intro hboth
        obtain ⟨hold, hnew⟩ := hboth
        refine ⟨fun hlive => (hold hlive).trans (hposition p hname).symm,
          fun hnot snapshot hflight => (hnew hnot snapshot ?_).trans (hposition p hname).symm⟩
        apply hflight.imp id
        intro hreply
        rcases List.mem_append.mp hreply with hmem | hlast
        · exact hmem
        · exact (notification_ne_finished _ _ _ _ (List.mem_singleton.mp hlast).symm).elim
  unfold PowerSystem.changeOne
  cases hname : Property.ofName? update.name with
  | none =>
    apply hsend s.service 0 rfl (fun _ _ => rfl)
    intro p hp
    rw [hp, Property.ofName?_name] at hname
    cases hname
  | some p =>
    rw [Property.ofName?_eq_some] at hname
    refine hsend (s.service.append p update.value) _ rfl (fun q hq => ?_) fun q hq => ?_
    · rw [position_append, if_neg]
      intro hsame
      subst hsame
      exact hq hname.symm
    · obtain rfl := Property.name_injective (hname.trans hq)
      rw [position_append, if_pos rfl]

theorem Recovering.handle {s : PowerSystem} (h : s.Recovering) (serial : ℕ) :
    (s.handle serial).Recovering := by
  unfold PowerSystem.handle
  split_ifs
  swap
  · exact h
  refine { h with covered := fun serial' hserial hrefresh howner p => ?_ }
  refine (h.covered serial' hserial hrefresh howner p).imp id fun hcovered => ⟨hcovered.1, ?_⟩
  intro hnot snapshot hcase
  rcases hcase with hcall | hreply
  · obtain ⟨old, hold, heq⟩ := List.mem_map.mp hcall
    split_ifs at heq
    · obtain ⟨-, rfl⟩ : serial = serial' ∧ s.snapshot = snapshot := by simpa using heq
      rfl
    · exact hcovered.2 hnot snapshot (.inl (heq ▸ hold))
  · exact hcovered.2 hnot snapshot (.inr hreply)

theorem Recovering.reply {s : PowerSystem} (h : s.Recovering) {serial : ℕ}
    {reply : Option Snapshot}
    (hreply : ∀ snapshot, reply = some snapshot → ⟨serial, some snapshot⟩ ∈ s.calls) :
    (s.reply serial reply).Recovering := by
  have hinformed : (s.reply serial reply).Informed :=
    h.toInformed.send rfl nofun (fun _ _ => rfl) nofun
  have hkept (p : Property) (hold : s.Awaited p) : (s.reply serial reply).Awaited p :=
    hold.imp fun m hm => ⟨List.mem_append_left _ hm.1, hm.2⟩
  refine { hinformed with repaired := fun howner p => ?_, covered := ?_ }
  · exact (h.repaired howner p).imp (hkept p) id
  · intro serial' hserial hrefresh howner p
    refine (h.covered serial' hserial hrefresh howner p).imp (hkept p) fun hcovered =>
      ⟨hcovered.1, fun hnot snapshot hflight => hcovered.2 hnot snapshot ?_⟩
    rcases hflight with hcall | hqueue
    · exact .inl (List.mem_of_mem_filter hcall)
    · rcases List.mem_append.mp hqueue with hold | hlast
      · exact .inr hold
      · obtain ⟨rfl, hsnapshot⟩ := Message.finished.inj (List.mem_singleton.mp hlast)
        exact .inl (hreply snapshot hsnapshot.symm)

/-- An owner change in flight concerns every property, so it repairs everything. -/
theorem Recovering.owner (s : PowerSystem) {service : PowerService} {newOwner : Option ℕ}
    (howner : newOwner.isSome = service.owner.isSome) :
    Recovering { s with service := service, queue := s.queue ++ [.ownerChanged newOwner] } := by
  have hlast : Message.ownerChanged newOwner ∈ s.queue ++ [.ownerChanged newOwner] := by simp
  refine
    { last_value := fun p pre value k post heq hpost => ?_
      last_owner := fun pre owner post heq hpost => ?_
      lag := fun _ _ hnone => absurd ⟨newOwner, hlast⟩ hnone
      valid := fun _ hnone => absurd ⟨newOwner, hlast⟩ hnone
      repaired := fun _ _ => .inl ⟨_, hlast, trivial⟩
      covered := fun _ _ _ _ _ => .inl ⟨_, hlast, trivial⟩ }
  · rcases concat_eq_append_cons heq with ⟨-, hm, -⟩ | ⟨post', rfl, -⟩
    · cases hm
    · exact absurd trivial (hpost (.ownerChanged newOwner) (by simp))
  · rcases concat_eq_append_cons heq with ⟨-, hm, -⟩ | ⟨post', rfl, -⟩
    · obtain rfl := Message.ownerChanged.inj hm
      exact howner
    · exact absurd (by simp) (hpost newOwner)

/-- Every step leaves each property current or under repair. -/
theorem Recovering.step {s : PowerSystem} (h : s.Recovering) (hordered : s.Ordered)
    (hgenuine : s.Genuine) (e : Event) : (s.step e).Recovering := by
  have hstep := s.stepTo e
  generalize s.step e = t at hstep
  cases hstep with
  | idle => exact h
  | request =>
    exact h.toInformed.getAllProperties hordered.toSerialsKnown fun _ _ => h.repaired
  | timeout _ hlag => exact h.timeout hordered hlag
  | deliver hqueue hlag => exact h.receive hordered hgenuine hlag hqueue
  | interfaceUpdate hlag => exact { h with lag := nofun, valid := fun _ => h.lag _ hlag }
  | interfaceFirst hqueue =>
    -- the base class may learn of an owner change that is still in flight
    exact { h with valid := fun _ hnone => absurd ⟨_, hqueue ▸ List.mem_cons_self⟩ hnone }
  | change updates => exact run_invariant (fun _ update hs => hs.changeOne update) updates h
  | handle serial => exact h.handle serial
  | fail => exact h.reply nofun
  | succeed hcall =>
    apply h.reply
    intro _ hsame
    cases hsame
    exact hcall
  | start owner initial => exact .owner s rfl
  | stop => exact .owner s rfl

theorem initial_recovering (running : Option (Property → QVariant)) :
    (initial running).Recovering := by
  refine Informed.getAllProperties ?_ ⟨nofun, nofun⟩ ?_
  · refine { last_value := ?_, last_owner := ?_, lag := nofun, valid := fun _ _ => ?_ }
    · exact fun p pre value k post heq => absurd heq (by simp)
    · exact fun pre newOwner post heq => absurd heq (by simp)
    · cases running <;> rfl
  · -- a service that is up is asked at once
    cases running with
    | none => nofun
    | some values => exact fun _ (hvalid : true = false) => nomatch hvalid

theorem run_recovering (running : Option (Property → QVariant)) (es : List Event) :
    (run step (initial running) es).Recovering :=
  (run_invariant (I := fun s : PowerSystem => s.Recovering ∧ s.Ordered ∧ s.Genuine)
    (fun _ e h => ⟨h.1.step h.2.1 h.2.2 e, h.2.1.step e, h.2.2.step e⟩) es
    ⟨initial_recovering running, initial_ordered_genuine running⟩).1

/-- The cached value is the one the property has at the service. -/
def Current (s : PowerSystem) (p : Property) : Prop :=
  ∃ value, s.service.current p = some value ∧ s.power.read p = p.decode value

/-- Receiving the message makes the proxy write the current value or ask the owner for it. -/
def Repairs (s : PowerSystem) (p : Property) : Message → Prop
  | .changed name value _ => name = p.name ∧ s.service.current p = some value
  | .invalidated name => name = p.name
  | .ownerChanged newOwner => newOwner.isSome
  | .finished _ _ => False

/-- The newest message in flight about the property repairs it. -/
def RepairInFlight (s : PowerSystem) (p : Property) : Prop :=
  ∃ pre message post, s.queue = pre ++ message :: post ∧ s.Repairs p message ∧
    ∀ later ∈ post, ¬later.Concerns p

/-- A list with an element that satisfies `P` splits at the last one. -/
theorem exists_last_of_exists {α : Type} {P : α → Prop} {l : List α} (h : ∃ a ∈ l, P a) :
    ∃ pre a post, l = pre ++ a :: post ∧ P a ∧ ∀ b ∈ post, ¬P b := by
  induction l with
  | nil => exact absurd h (by simp)
  | cons a l ih =>
    by_cases hlater : ∃ b ∈ l, P b
    · obtain ⟨pre, b, post, rfl, hb, hpost⟩ := ih hlater
      exact ⟨a :: pre, b, post, rfl, hb, hpost⟩
    · obtain ⟨b, hmem, hb⟩ := h
      rcases List.mem_cons.mp hmem with rfl | hrest
      · exact ⟨[], b, l, rfl, hb, fun c hc hPc => hlater ⟨c, hc, hPc⟩⟩
      · exact absurd ⟨b, hrest, hb⟩ hlater

/-- What the newest message about a property says is true. -/
theorem Recovering.repairInFlight {s : PowerSystem} (h : s.Recovering) (hgenuine : s.Genuine)
    (howner : s.service.owner.isSome) {p : Property} (hawaited : s.Awaited p) :
    s.RepairInFlight p := by
  obtain ⟨pre, message, post, hqueue, hconcerns, hpost⟩ := exists_last_of_exists hawaited
  refine ⟨pre, message, post, hqueue, ?_, hpost⟩
  cases message with
  | changed name value position =>
    obtain rfl : name = p.name := hconcerns
    have hposition := h.last_value p pre value position post hqueue hpost
    have hvalue := hgenuine.notes p value position (by rw [hqueue]; simp)
    rw [hposition] at hvalue
    exact ⟨rfl, hvalue⟩
  | invalidated name => exact hconcerns
  | finished serial reply => exact hconcerns
  | ownerChanged newOwner =>
    have htruth := h.last_owner pre newOwner post hqueue fun owner hmem => hpost _ hmem trivial
    exact htruth.trans howner

/-- A cached value that stands at the service's position is current. -/
theorem Genuine.current {s : PowerSystem} (h : s.Genuine) (howner : s.service.owner.isSome)
    {p : Property} (hshown : s.shown p = s.service.position p) : s.Current p := by
  rcases h.shows p with ⟨hzero, -⟩ | ⟨value, hvalue, hread⟩
  · have := h.owned howner p
    omega
  · rw [hshown] at hvalue
    exact ⟨value, hvalue, hread⟩

/-- Along every run, while the service has an owner: a cached value that is not current has a
pending snapshot, an armed timer or a repairing message; so once these are gone, the whole
cache is current. -/
theorem cache_current_or_under_repair (running : Option (Property → QVariant)) (es : List Event)
    (howner : (run step (initial running) es).service.owner.isSome) :
    (∀ p, (run step (initial running) es).Current p ∨
      (run step (initial running) es).power.pendingSnapshot.isSome ∨
      (run step (initial running) es).power.refreshTimer.isSome ∨
      (run step (initial running) es).RepairInFlight p) ∧
    ((run step (initial running) es).queue = [] →
      (run step (initial running) es).power.pendingSnapshot = none →
      (run step (initial running) es).power.refreshTimer = none →
      ∀ p, (run step (initial running) es).Current p) := by
  have hrecovering := run_recovering running es
  have hgenuine := (run_ordered_genuine running es).2
  generalize run step (initial running) es = s at *
  constructor
  · intro p
    rcases hrecovering.repaired howner p with hawaited | hpending | htimer | hshown
    · exact .inr (.inr (.inr (hrecovering.repairInFlight hgenuine howner hawaited)))
    · exact .inr (.inl hpending)
    · exact .inr (.inr (.inl htimer))
    · exact .inl (hgenuine.current howner hshown)
  · intro hqueue hpending htimer p
    rcases hrecovering.repaired howner p with ⟨m, hmem, -⟩ | hsome | hsome | hshown
    · rw [hqueue] at hmem
      cases hmem
    · rw [hpending] at hsome
      cases hsome
    · rw [htimer] at hsome
      cases hsome
    · exact hgenuine.current howner hshown

/-- A laptop that is unplugged while the first snapshot is on its way: the reply says it is
on line power, the notification came first, and the cache ends on battery. -/
theorem cache_current_after_unplugging :
    (run step (initial (some fun _ => .bool false))
      [.handle 0, .change [⟨"OnBattery", .bool true, true⟩], .deliver, .answer 0 true,
        .deliver]).Current .onBattery :=
  (cache_current_or_under_repair _ _ rfl).2 rfl rfl rfl _

end PowerSystem

end DdeTrayLoader.Power
