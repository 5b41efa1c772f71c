import DdeTrayLoader.DBusMenu.MenuSystem

/-!
# How far behind a menu can be

A change that is announced is fetched after a while, except in one case: after the importer has
refreshed a menu because of `AboutToShow`, it ignores the next announcement for it, which it takes
for the announcement of what it has just fetched. The service need not have sent that, and the
change that is announced next is then not fetched.

When nothing is on its way, a layout that was fetched is thus at most one change old, and while
an announcement is still to be ignored it is not old at all.
-/

namespace DdeTrayLoader.DBusMenu

open DdeTrayLoader.Objects DdeTrayLoader.Transition DdeTrayLoader.Lists DdeTrayLoader.Tray

variable {kit : Toolkit}

/-! ## Revisions -/

namespace MenuService

variable (service : MenuService kit)

@[simp] theorem revision_change (id : ℤ) (layout : DBusMenuLayoutItem kit) :
    (service.change id layout).revision = service.revision + 1 := by
  unfold revision change
  rw [List.length_append, List.length_singleton]

/-- A revision that was there keeps its layouts. -/
theorem layoutAt_change {revision : ℕ} (h : revision ≤ service.revision) (id id' : ℤ)
    (layout : DBusMenuLayoutItem kit) :
    (service.change id layout).layoutAt revision id' = service.layoutAt revision id' := by
  unfold layoutAt change
  rw [List.take_append_of_le_length h]

/-- The layouts after a change are those before, and the new one. -/
theorem layoutAt_change_of_lt {revision : ℕ} (h : service.revision < revision) (id id' : ℤ)
    (layout : DBusMenuLayoutItem kit) :
    (service.change id layout).layoutAt revision id' =
      if id = id' then layout else service.layoutAt service.revision id' := by
  unfold layoutAt change
  unfold MenuService.revision at h ⊢
  rw [List.take_of_length_le (by rw [List.length_append, List.length_singleton]; omega),
    List.foldl_append, List.take_length]
  rfl

/-- A change counts for its own item. -/
theorem changesSince_change {revision : ℕ} (h : revision ≤ service.revision) (id id' : ℤ)
    (layout : DBusMenuLayoutItem kit) :
    (service.change id layout).changesSince revision id' =
      service.changesSince revision id' + if id = id' then 1 else 0 := by
  unfold changesSince change
  rw [List.drop_append_of_le_length h, List.countP_append, List.countP_singleton]
  simp only [decide_eq_true_eq]

/-- Nothing has changed since now. -/
@[simp] theorem changesSince_revision (id : ℤ) :
    service.changesSince service.revision id = 0 := by
  unfold changesSince revision
  rw [List.drop_length, List.countP_nil]

end MenuService

/-! ## What the messages in flight will tell -/

/-- What a message tells of an item: the revision of a layout that it brings, from which on
`base` changes may stay unannounced, or one more announced change. -/
def Message.tell (id : ℤ) (base : ℕ) (known : Option ℕ × ℕ) : Message kit → Option ℕ × ℕ
  | .layoutUpdated _ parentId => if parentId = id then (known.1, known.2 + 1) else known
  | .layoutReply parentId (some (revision, _)) =>
    if parentId = id then (some revision, base) else known
  | _ => known

theorem tell_layoutUpdated (id : ℤ) (base : ℕ) (known : Option ℕ × ℕ) (revision : ℕ)
    (parentId : ℤ) :
    (Message.layoutUpdated revision parentId : Message kit).tell id base known =
      if parentId = id then (known.1, known.2 + 1) else known := rfl

theorem tell_layoutReply (id : ℤ) (base : ℕ) (known : Option ℕ × ℕ) (parentId : ℤ)
    (reply : ℕ × DBusMenuLayoutItem kit) :
    (Message.layoutReply parentId (some reply)).tell id base known =
      if parentId = id then (some reply.1, base) else known := rfl

/-- What is known of an item after all messages: the revision of its last layout, and how many
changes since then may have been announced or may stay unannounced. -/
def outlook (id : ℤ) (base : ℕ) (known : Option ℕ × ℕ) (messages : List (Message kit)) :
    Option ℕ × ℕ :=
  messages.foldl (Message.tell id base) known

/-- The one outlook knows the same layout as the other, and allows for as many changes. -/
def Within (known known' : Option ℕ × ℕ) : Prop := known.1 = known'.1 ∧ known.2 ≤ known'.2

theorem within_tell {id : ℤ} {base base' : ℕ} (hbase : base ≤ base') {known known' : Option ℕ × ℕ}
    (h : Within known known') (message : Message kit) :
    Within (message.tell id base known) (message.tell id base' known') := by
  cases message with
  | layoutUpdated revision parentId =>
    rw [tell_layoutUpdated, tell_layoutUpdated]
    split_ifs
    · exact ⟨h.1, Nat.succ_le_succ h.2⟩
    · exact h
  | layoutReply parentId reply =>
    cases reply with
    | none => exact h
    | some reply =>
      rw [tell_layoutReply, tell_layoutReply]
      split_ifs
      · exact ⟨rfl, hbase⟩
      · exact h
  | itemsPropertiesUpdated updatedList removedList => exact h
  | itemActivationRequested id timestamp => exact h
  | aboutToShowReply id reply => exact h

theorem within_outlook {id : ℤ} {base base' : ℕ} (hbase : base ≤ base')
    {known known' : Option ℕ × ℕ} (h : Within known known') (messages : List (Message kit)) :
    Within (outlook id base known messages) (outlook id base' known' messages) := by
  induction messages generalizing known known' with
  | nil => exact h
  | cons message messages ih => exact ih (within_tell hbase h message)

namespace MenuSystem

variable {s : MenuSystem kit}

/-- How many changes of an item may stay unannounced: one, unless an announcement is to be
ignored. -/
def slack (s : MenuSystem kit) (id : ℤ) : ℕ :=
  if id ∈ s.importer.idsRefreshedByAboutToShow then 0 else 1

/-- What the messages in flight will tell of an item. -/
def expects (s : MenuSystem kit) (id : ℤ) : Option ℕ × ℕ :=
  outlook id (s.slack id) (s.handled id, s.slack id) s.messages

/-- The last layout of the item, once the messages have arrived, lacks no more changes than the
outlook allows for. -/
def Abreast (s : MenuSystem kit) (id : ℤ) : Prop :=
  ∀ revision, (s.expects id).1 = some revision →
    s.service.changesSince revision id ≤ (s.expects id).2

/-- An item is abreast, or is to be fetched. -/
def Covered (s : MenuSystem kit) (id : ℤ) : Prop :=
  id ∈ s.importer.pendingLayoutUpdates ∨ Request.getLayout id ∈ s.importer.requests ∨ s.Abreast id

/-- Every item is covered, the layouts are of revisions that there were, and the timer runs while
updates are pending. -/
structure Tracks (s : MenuSystem kit) : Prop where
  covered : ∀ id, s.Covered id
  handled : ∀ {id revision}, s.handled id = some revision → revision ≤ s.service.revision
  inFlight : ∀ {id revision layout},
    Message.layoutReply id (some (revision, layout)) ∈ s.messages →
      revision ≤ s.service.revision ∧ layout = s.service.layoutAt revision id
  timer : s.importer.pendingLayoutUpdateTimer = false → s.importer.pendingLayoutUpdates = []

/-- The revision of an outlook is one that was handled or is in flight. -/
theorem Tracks.expects_le (hs : Tracks s) {id : ℤ} {revision : ℕ}
    (h : (s.expects id).1 = some revision) : revision ≤ s.service.revision := by
  have hmessages (messages : List (Message kit)) (known : Option ℕ × ℕ)
      (hknown : ∀ revision, known.1 = some revision → revision ≤ s.service.revision)
      (hsub : ∀ message ∈ messages, message ∈ s.messages) :
      ∀ revision, (outlook id (s.slack id) known messages).1 = some revision →
        revision ≤ s.service.revision := by
    induction messages generalizing known with
    | nil => exact hknown
    | cons message messages ih =>
      refine ih _ ?_ fun message' hmem => hsub message' (List.mem_cons_of_mem _ hmem)
      have hmessage := hsub message List.mem_cons_self
      cases message with
      | layoutUpdated revision parentId =>
        rw [tell_layoutUpdated]
        split_ifs
        · exact hknown
        · exact hknown
      | layoutReply parentId reply =>
        cases reply with
        | none => exact hknown
        | some reply =>
          rw [tell_layoutReply]
          split_ifs
          · rintro revision ⟨⟩
            exact (hs.inFlight hmessage).1
          · exact hknown
      | itemsPropertiesUpdated updatedList removedList => exact hknown
      | itemActivationRequested id timestamp => exact hknown
      | aboutToShowReply id reply => exact hknown
  exact hmessages s.messages _ (fun _ h => hs.handled h) (fun _ h => h) revision h

theorem expects_send (s : MenuSystem kit) (message : Message kit) (id : ℤ) :
    (s.send message).expects id = message.tell id (s.slack id) (s.expects id) := by
  change outlook id (s.slack id) _ (s.messages ++ [message]) = _
  unfold outlook
  rw [List.foldl_append]
  rfl

/-- A change is announced. -/
theorem Tracks.change (hs : Tracks s) (id : ℤ) (layout : DBusMenuLayoutItem kit) :
    Tracks (s.step (.change id layout)) where
  covered id' := by
    refine (hs.covered id').imp_right (Or.imp_right fun habreast => ?_)
    intro revision hrevision
    have hexpects : (s.step (.change id layout)).expects id' =
        if id = id' then ((s.expects id').1, (s.expects id').2 + 1) else s.expects id' :=
      expects_send { s with service := s.service.change id layout } _ id'
    have hknown : (s.expects id').1 = some revision := by
      rw [hexpects] at hrevision
      split_ifs at hrevision
      · exact hrevision
      · exact hrevision
    have hcount := habreast revision hknown
    change (s.service.change id layout).changesSince revision id' ≤ _
    rw [MenuService.changesSince_change _ (hs.expects_le hknown), hexpects]
    split_ifs
    · exact Nat.succ_le_succ hcount
    · exact hcount
  handled {id' revision} h := by
    change revision ≤ (s.service.change id layout).revision
    rw [MenuService.revision_change]
    exact Nat.le_succ_of_le (hs.handled h)
  inFlight {id' revision layout'} hmem := by
    change revision ≤ (s.service.change id layout).revision ∧ _
    rw [MenuService.revision_change]
    rcases List.mem_append.mp hmem with hold | hnew
    · obtain ⟨hle, heq⟩ := hs.inFlight hold
      refine ⟨Nat.le_succ_of_le hle, heq.trans ?_⟩
      exact (MenuService.layoutAt_change s.service hle id id' layout).symm
    · exact nomatch List.mem_singleton.mp hnew
  timer := hs.timer

/-- A message that brings no layout and announces none. -/
theorem Tracks.send (hs : Tracks s) {message : Message kit}
    (htell : ∀ id base known, message.tell id base known = known)
    (hreply : ∀ id reply, message ≠ .layoutReply id reply) : Tracks (s.send message) where
  covered id := by
    refine (hs.covered id).imp_right (Or.imp_right fun habreast => ?_)
    unfold Abreast
    rw [expects_send, htell]
    exact habreast
  handled := hs.handled
  inFlight hmem := by
    rcases List.mem_append.mp hmem with hold | hnew
    · exact hs.inFlight hold
    · exact absurd (List.mem_singleton.mp hnew).symm (hreply _ _)
  timer := hs.timer

/-- The service takes a call and answers it. -/
theorem Tracks.serve (hs : Tracks s) {answer : Option Bool} (hanswer : s.Answers (.serve answer)) :
    Tracks (s.step (.serve answer)) := by
  cases hrequests : s.importer.requests with
  | nil =>
    have hsame : s.step (.serve answer) = s := by
      unfold MenuSystem.step
      rw [hrequests]
    rw [hsame]
    exact hs
  | cons request rest =>
    have hnext : s.step (.serve answer) =
        { s with
          importer := { s.importer with requests := rest }
          messages := s.messages ++ s.reply answer request } := by
      unfold MenuSystem.step
      rw [hrequests]
    have hexpects (id : ℤ) : (s.step (.serve answer)).expects id =
        (s.reply answer request).foldl (Message.tell id (s.slack id)) (s.expects id) := by
      rw [hnext]
      change outlook id (s.slack id) _ (s.messages ++ _) = _
      unfold outlook
      rw [List.foldl_append]
      rfl
    -- The outlook is the one before, or the item is fetched as it is now.
    have hreply (id : ℤ) : (s.step (.serve answer)).expects id = s.expects id ∧
          (request ≠ .getLayout id) ∨
        (s.step (.serve answer)).expects id = (some s.service.revision, s.slack id) := by
      rw [hexpects]
      cases request with
      | getLayout id' =>
        cases answer with
        | none => exact absurd rfl (hanswer id' (by rw [hrequests]; rfl))
        | some needRefresh =>
          have hone : s.reply (some needRefresh) (.getLayout id') = [.layoutReply id'
              (some (s.service.revision, s.service.layoutAt s.service.revision id'))] := rfl
          rw [hone, List.foldl_cons, List.foldl_nil, tell_layoutReply]
          split_ifs with hid
          · exact .inr rfl
          · exact .inl ⟨rfl, fun heq => hid (Request.getLayout.inj heq)⟩
      | aboutToShow id' => exact .inl ⟨rfl, nofun⟩
      | event id' eventId => exact .inl ⟨rfl, nofun⟩
    constructor
    case covered =>
      intro id
      rcases hreply id with ⟨hsame, hother⟩ | hfetched
      · rcases hs.covered id with hpending | hcalled | habreast
        · rw [hnext]
          exact .inl hpending
        · rw [hrequests] at hcalled
          rw [hnext]
          exact .inr (.inl ((List.mem_cons.mp hcalled).resolve_left (Ne.symm hother)))
        · refine .inr (.inr ?_)
          unfold Abreast
          rw [hsame, hnext]
          exact habreast
      · refine .inr (.inr ?_)
        unfold Abreast
        rw [hfetched, hnext]
        rintro revision ⟨⟩
        rw [MenuService.changesSince_revision]
        exact Nat.zero_le _
    case handled => rw [hnext]; exact hs.handled
    case inFlight =>
      rw [hnext]
      intro id revision layout hmem
      rcases List.mem_append.mp hmem with hold | hnew
      · exact hs.inFlight hold
      · cases request with
        | getLayout id' =>
          obtain ⟨rfl, hsome⟩ := Message.layoutReply.inj (List.mem_singleton.mp hnew)
          obtain ⟨needRefresh, -, heq⟩ := Option.map_eq_some_iff.mp hsome.symm
          obtain ⟨rfl, rfl⟩ := Prod.mk.inj heq
          exact ⟨le_rfl, rfl⟩
        | aboutToShow id' => exact nomatch List.mem_singleton.mp hnew
        | event id' eventId => exact absurd hnew List.not_mem_nil
    case timer => rw [hnext]; exact hs.timer

/-- The message that is delivered has told what it tells. -/
theorem expects_of_messages {message : Message kit} {rest : List (Message kit)}
    (hmessages : s.messages = message :: rest) (id : ℤ) :
    s.expects id =
      outlook id (s.slack id) (message.tell id (s.slack id) (s.handled id, s.slack id)) rest := by
  unfold expects outlook
  rw [hmessages, List.foldl_cons]

theorem slack_of_refreshed {s' : MenuSystem kit}
    (h : s'.importer.idsRefreshedByAboutToShow = s.importer.idsRefreshedByAboutToShow) (id : ℤ) :
    s'.slack id = s.slack id := by
  unfold slack
  rw [h]

/-- An item stays covered when the importer waits for the same, and nothing else is told. -/
theorem Covered.sameWaits {s' : MenuSystem kit} {id : ℤ} (h : s.Covered id)
    (hwaits : s.importer.SameWaits s'.importer) (hservice : s'.service = s.service)
    (hexpects : s'.expects id = s.expects id) : s'.Covered id := by
  unfold Covered Abreast
  rw [hwaits.pending, hservice, hexpects]
  exact h.imp_right (Or.imp_left fun hcalled => hwaits.requests hcalled)

/-- The importer with a message taken from those in flight. -/
def received (s : MenuSystem kit) (message : Message kit) (rest : List (Message kit)) :
    MenuSystem kit :=
  { s.record message with importer := s.importer.step message.event, messages := rest }

theorem step_deliver {message : Message kit} {rest : List (Message kit)}
    (hmessages : s.messages = message :: rest) : s.step .deliver = s.received message rest := by
  unfold MenuSystem.step
  rw [hmessages]
  rfl

/-- An announcement that is ignored leaves room for one change that is not announced. -/
theorem Tracks.ignored (hs : Tracks s) {revision : ℕ} {parentId : ℤ}
    {rest : List (Message kit)} (hmessages : s.messages = .layoutUpdated revision parentId :: rest)
    (hrefreshed : parentId ∈ s.importer.idsRefreshedByAboutToShow) (id : ℤ) :
    (s.received (.layoutUpdated revision parentId) rest).Covered id := by
  have himporter : (s.received (.layoutUpdated revision parentId) rest).importer =
      { s.importer with
        idsRefreshedByAboutToShow :=
          s.importer.idsRefreshedByAboutToShow.filter (· ≠ parentId) } := if_pos hrefreshed
  have hexpects := expects_of_messages hmessages id
  rw [tell_layoutUpdated] at hexpects
  have hslack : (s.received (.layoutUpdated revision parentId) rest).slack id =
      if parentId = id then 1 else s.slack id := by
    unfold slack
    rw [himporter]
    dsimp only
    by_cases hid : parentId = id
    · rw [if_pos hid, if_neg]
      intro hmem
      rw [List.mem_filter, decide_eq_true_iff] at hmem
      exact hmem.2 hid.symm
    · rw [if_neg hid]
      refine if_congr ?_ rfl rfl
      rw [List.mem_filter, decide_eq_true_iff]
      exact and_iff_left (Ne.symm hid)
  have hgrows : s.slack id ≤ if parentId = id then 1 else s.slack id := by
    split_ifs
    · unfold slack
      split_ifs
      · exact Nat.zero_le _
      · exact le_rfl
    · exact le_rfl
  have hwithin : Within (s.expects id)
      ((s.received (.layoutUpdated revision parentId) rest).expects id) := by
    rw [hexpects]
    unfold expects
    rw [hslack]
    refine within_outlook hgrows ?_ rest
    split_ifs with hid
    · have hzero : s.slack id = 0 := if_pos (hid ▸ hrefreshed)
      rw [hzero]
      exact ⟨rfl, le_rfl⟩
    · exact ⟨rfl, le_rfl⟩
  refine (hs.covered id).imp ?_ (Or.imp ?_ fun habreast => ?_)
  · rw [himporter]
    exact fun hpending => hpending
  · rw [himporter]
    exact fun hcalled => hcalled
  · intro known hknown
    exact (habreast known (hwithin.1.trans hknown)).trans hwithin.2

/-- An announcement that is not ignored makes its item one to be fetched. -/
theorem Tracks.noted (hs : Tracks s) {revision : ℕ} {parentId : ℤ}
    {rest : List (Message kit)} (hmessages : s.messages = .layoutUpdated revision parentId :: rest)
    (hrefreshed : parentId ∉ s.importer.idsRefreshedByAboutToShow) (id : ℤ) :
    (s.received (.layoutUpdated revision parentId) rest).Covered id := by
  have himporter : (s.received (.layoutUpdated revision parentId) rest).importer =
      { s.importer with
        pendingLayoutUpdates := s.importer.pendingLayoutUpdates.insert parentId
        pendingLayoutUpdateTimer := true } := if_neg hrefreshed
  by_cases hid : parentId = id
  · refine .inl ?_
    rw [himporter]
    exact List.mem_insert_iff.mpr (.inl hid.symm)
  · refine (hs.covered id).imp ?_ (Or.imp ?_ fun habreast => ?_)
    · rw [himporter]
      exact fun hpending => List.mem_insert_iff.mpr (.inr hpending)
    · rw [himporter]
      exact fun hcalled => hcalled
    · have hslack : (s.received (.layoutUpdated revision parentId) rest).slack id = s.slack id :=
        slack_of_refreshed (by rw [himporter]) id
      have hsame : (s.received (.layoutUpdated revision parentId) rest).expects id =
          s.expects id := by
        rw [expects_of_messages hmessages, tell_layoutUpdated, if_neg hid]
        unfold expects
        rw [hslack]
        rfl
      unfold Abreast
      rw [hsame]
      exact habreast

/-- The answer to `AboutToShow` changes nothing, or has its item fetched. -/
theorem slotAboutToShow_cases (s : Importer kit) (id : ℤ) (reply : Option Bool) :
    s.SameWaits (s.slotAboutToShowDBusCallFinished id reply) ∨
      s.slotAboutToShowDBusCallFinished id reply =
        { s with
          idsRefreshedByAboutToShow := s.idsRefreshedByAboutToShow.insert id }.refresh id := by
  unfold Importer.slotAboutToShowDBusCallFinished
  cases s.menuForId id with
  | none => exact .inl (.refl s)
  | some m =>
    cases reply with
    | none => exact .inl ⟨rfl, rfl, rfl, List.Subset.refl _⟩
    | some needRefresh =>
      dsimp only
      split_ifs
      · exact .inr rfl
      · exact .inl ⟨rfl, rfl, rfl, List.Subset.refl _⟩

/-- A message leaves every item covered. -/
theorem Tracks.covered_received (hs : Tracks s) {message : Message kit}
    {rest : List (Message kit)} (hmessages : s.messages = message :: rest) (id : ℤ) :
    (s.received message rest).Covered id := by
  have hexpects := expects_of_messages hmessages id
  cases message with
  | layoutUpdated revision parentId =>
    by_cases hrefreshed : parentId ∈ s.importer.idsRefreshedByAboutToShow
    · exact hs.ignored hmessages hrefreshed id
    · exact hs.noted hmessages hrefreshed id
  | itemsPropertiesUpdated updatedList removedList =>
    have hwaits := s.importer.sameWaits_slotItemsPropertiesUpdated updatedList removedList
    refine (hs.covered id).sameWaits hwaits rfl ?_
    rw [hexpects]
    unfold expects
    rw [slack_of_refreshed hwaits.refreshed]
    rfl
  | itemActivationRequested id' timestamp =>
    have hwaits : s.importer.SameWaits (s.importer.slotItemActivationRequested id') := by
      unfold Importer.slotItemActivationRequested
      cases s.importer.actionForId id' with
      | none => exact .refl _
      | some r => exact ⟨rfl, rfl, rfl, List.Subset.refl _⟩
    refine (hs.covered id).sameWaits hwaits rfl ?_
    rw [hexpects]
    unfold expects
    rw [slack_of_refreshed hwaits.refreshed]
    rfl
  | layoutReply parentId reply =>
    have hwaits := s.importer.sameWaits_slotGetLayoutFinished parentId reply
    have hslack : (s.received (.layoutReply parentId reply) rest).slack id = s.slack id :=
      slack_of_refreshed hwaits.refreshed id
    cases reply with
    | none =>
      refine (hs.covered id).sameWaits hwaits rfl ?_
      rw [hexpects]
      unfold expects
      rw [hslack]
      rfl
    | some reply =>
      refine (hs.covered id).sameWaits hwaits rfl ?_
      rw [hexpects, tell_layoutReply]
      unfold expects
      rw [hslack]
      congr 1
      change (Function.update s.handled parentId (some reply.1) id, _) = _
      rw [Function.update_apply]
      by_cases hid : parentId = id
      · rw [if_pos hid.symm, if_pos hid]
      · rw [if_neg (Ne.symm hid), if_neg hid]
  | aboutToShowReply id' reply =>
    rcases slotAboutToShow_cases s.importer id' reply with hwaits | heq
    · refine (hs.covered id).sameWaits hwaits rfl ?_
      rw [hexpects]
      unfold expects
      rw [slack_of_refreshed hwaits.refreshed]
      rfl
    · have himporter : (s.received (.aboutToShowReply id' reply) rest).importer =
          { s.importer with idsRefreshedByAboutToShow :=
              s.importer.idsRefreshedByAboutToShow.insert id' }.refresh id' := heq
      by_cases hid : id' = id
      · refine .inr (.inl ?_)
        rw [himporter, hid]
        exact List.mem_append.mpr (.inr List.mem_cons_self)
      · refine (hs.covered id).imp ?_ (Or.imp ?_ fun habreast => ?_)
        · rw [himporter]
          exact fun hpending => hpending
        · rw [himporter]
          exact fun hcalled => List.mem_append.mpr (.inl hcalled)
        · have hslack : (s.received (.aboutToShowReply id' reply) rest).slack id =
              s.slack id := by
            unfold slack
            rw [himporter]
            refine if_congr (List.mem_insert_iff.trans (or_iff_right (Ne.symm hid))) rfl rfl
          have hsame : (s.received (.aboutToShowReply id' reply) rest).expects id =
              s.expects id := by
            rw [hexpects]
            unfold expects
            rw [hslack]
            rfl
          unfold Abreast
          rw [hsame]
          exact habreast

theorem Tracks.deliver (hs : Tracks s) : Tracks (s.step .deliver) := by
  cases hmessages : s.messages with
  | nil =>
    have hsame : s.step .deliver = s := by
      unfold MenuSystem.step
      rw [hmessages]
    rw [hsame]
    exact hs
  | cons message rest =>
    rw [step_deliver hmessages]
    have hrest {message' : Message kit} (hmem : message' ∈ rest) : message' ∈ s.messages := by
      rw [hmessages]
      exact List.mem_cons_of_mem _ hmem
    have hservice : (s.received message rest).service = s.service := by
      change (s.record message).service = s.service
      unfold record
      split
      · rfl
      · rfl
    constructor
    case covered => exact hs.covered_received hmessages
    case handled =>
      intro id revision hhandled
      rw [hservice]
      change (s.record message).handled id = some revision at hhandled
      unfold record at hhandled
      split at hhandled
      · change Function.update s.handled _ (some _) id = some revision at hhandled
        rw [Function.update_apply] at hhandled
        split_ifs at hhandled
        · obtain rfl := Option.some.inj hhandled
          exact (hs.inFlight (hmessages ▸ List.mem_cons_self)).1
        · exact hs.handled hhandled
      · exact hs.handled hhandled
    case inFlight =>
      intro id revision layout hmem
      rw [hservice]
      exact hs.inFlight (hrest hmem)
    case timer =>
      change (s.importer.step message.event).pendingLayoutUpdateTimer = false → _
      have hwaits (hsame : s.importer.SameWaits (s.importer.step message.event)) :
          (s.importer.step message.event).pendingLayoutUpdateTimer = false →
            (s.importer.step message.event).pendingLayoutUpdates = [] := by
        rw [hsame.timer, hsame.pending]
        exact hs.timer
      cases message with
      | layoutUpdated revision parentId =>
        change (s.importer.slotLayoutUpdated parentId).pendingLayoutUpdateTimer = false →
          (s.importer.slotLayoutUpdated parentId).pendingLayoutUpdates = []
        unfold Importer.slotLayoutUpdated
        split_ifs
        · exact hs.timer
        · exact nofun
      | itemsPropertiesUpdated updatedList removedList =>
        exact hwaits (s.importer.sameWaits_slotItemsPropertiesUpdated updatedList removedList)
      | itemActivationRequested id timestamp =>
        change (s.importer.slotItemActivationRequested id).pendingLayoutUpdateTimer = false →
          (s.importer.slotItemActivationRequested id).pendingLayoutUpdates = []
        unfold Importer.slotItemActivationRequested
        cases s.importer.actionForId id with
        | none => exact hs.timer
        | some r => exact hs.timer
      | layoutReply parentId reply =>
        exact hwaits (s.importer.sameWaits_slotGetLayoutFinished parentId reply)
      | aboutToShowReply id reply =>
        rcases slotAboutToShow_cases s.importer id reply with hsame | heq
        · exact hwaits hsame
        · change (s.importer.slotAboutToShowDBusCallFinished id reply).pendingLayoutUpdateTimer =
            false → (s.importer.slotAboutToShowDBusCallFinished id reply).pendingLayoutUpdates = []
          rw [heq]
          exact hs.timer

/-- The calls of a refresh of several items. -/
theorem foldl_refresh (s : Importer kit) (ids : List ℤ) :
    ids.foldl Importer.refresh s =
      { s with requests := s.requests ++ ids.map Request.getLayout } := by
  induction ids generalizing s with
  | nil => simp
  | cons id ids ih =>
    rw [List.foldl_cons, ih]
    unfold Importer.refresh Importer.request
    simp

theorem Tracks.atImporter (hs : Tracks s) (e : LocalEvent) : Tracks (s.step (.atImporter e)) := by
  by_cases htimeout : ∃ order, e = .timeout order
  · obtain ⟨order, rfl⟩ := htimeout
    by_cases htimer : s.importer.pendingLayoutUpdateTimer
    · have himporter : (s.step (.atImporter (.timeout order))).importer =
          { s.importer with
            pendingLayoutUpdateTimer := false
            pendingLayoutUpdates := []
            requests := s.importer.requests ++
              (order.list s.importer.pendingLayoutUpdates).map Request.getLayout } := by
        change s.importer.timeout order = _
        unfold Importer.timeout Importer.processPendingLayoutUpdates
        rw [if_pos htimer, foldl_refresh]
      constructor
      case covered =>
        intro id
        rcases hs.covered id with hpending | hcalled | habreast
        · refine .inr (.inl ?_)
          rw [himporter]
          refine List.mem_append.mpr (.inr (List.mem_map_of_mem ?_))
          exact order.mem_list.mpr hpending
        · refine .inr (.inl ?_)
          rw [himporter]
          exact List.mem_append.mpr (.inl hcalled)
        · refine .inr (.inr ?_)
          have hslack : (s.step (.atImporter (.timeout order))).slack id = s.slack id :=
            slack_of_refreshed (by rw [himporter]) id
          have hsame : (s.step (.atImporter (.timeout order))).expects id = s.expects id := by
            unfold expects
            rw [hslack]
            rfl
          unfold Abreast
          rw [hsame]
          exact habreast
      case handled => exact hs.handled
      case inFlight => exact hs.inFlight
      case timer =>
        rw [himporter]
        exact fun _ => rfl
    · have hsame : s.step (.atImporter (.timeout order)) = s := by
        change { s with importer := s.importer.timeout order } = s
        unfold Importer.timeout
        rw [if_neg htimer]
      rw [hsame]
      exact hs
  · have hwaits : s.importer.SameWaits (s.importer.step e.event) :=
      Importer.sameWaits_local fun order heq => htimeout ⟨order, heq⟩
    constructor
    case covered =>
      intro id
      refine (hs.covered id).sameWaits hwaits rfl ?_
      have hslack : (s.step (.atImporter e)).slack id = s.slack id :=
        slack_of_refreshed hwaits.refreshed id
      unfold expects
      rw [hslack]
      rfl
    case handled => exact hs.handled
    case inFlight => exact hs.inFlight
    case timer =>
      change (s.importer.step e.event).pendingLayoutUpdateTimer = false →
        (s.importer.step e.event).pendingLayoutUpdates = []
      rw [hwaits.timer, hwaits.pending]
      exact hs.timer

theorem Tracks.step (hs : Tracks s) {e : SystemEvent kit} (he : s.Answers e) :
    Tracks (s.step e) := by
  cases e with
  | change id layout => exact hs.change id layout
  | announce updatedList removedList => exact hs.send (fun _ _ _ => rfl) nofun
  | requestActivation id timestamp => exact hs.send (fun _ _ _ => rfl) nofun
  | serve answer => exact hs.serve he
  | deliver => exact hs.deliver
  | atImporter e => exact hs.atImporter e

end MenuSystem

end DdeTrayLoader.DBusMenu
