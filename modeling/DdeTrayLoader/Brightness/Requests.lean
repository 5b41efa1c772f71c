import DdeTrayLoader.Transition.Run
import Mathlib.Algebra.Ring.Nat
import Mathlib.Data.List.Basic
import Mathlib.Order.Lattice
import Mathlib.Order.Defs.LinearOrder

/-!
# Brightness requests

`setMonitorBrightness` records the newest request and starts a timer, whose handler starts a worker
that takes the request and sends it. `m_hasPendingRequest` is to keep a second worker from taking a
request before the first call has returned.

The flag is cleared when any worker is done, one that found nothing to take included. The slot has
one request only, whatever monitor it is for.
-/

namespace DdeTrayLoader.Brightness

open Transition

/-- A brightness for a monitor. -/
structure Request (V : Type) where
  monitorName : String
  brightnessValue : V
  deriving DecidableEq, Repr

/-- A worker of `handleSetBrightnessRequest`, until the watcher has told that it is finished. -/
inductive Task (V : Type) where
  | queued
  /-- It has taken the request and released the lock, and is about to send. -/
  | taken (request : Request V)
  /-- Its `SetAndSaveBrightness` call has no reply yet. -/
  | inFlight (request : Request V)
  | returned
  deriving DecidableEq, Repr

namespace Task

variable {V : Type}

/-- The request that the worker has taken and not sent. -/
def unsent : Task V → Option (Request V)
  | taken request => some request
  | _ => none

/-- The request of the call that is in flight. -/
def calling : Task V → Option (Request V)
  | inFlight request => some request
  | _ => none

/-- The request that the worker has taken and that is not replied to. -/
def busy : Task V → Option (Request V)
  | taken request => some request
  | inFlight request => some request
  | _ => none

end Task

/-- `m_brightness`, with the timers and workers, and what was asked for and sent so far. -/
structure Requests (V : Type) where
  minimumBrightnessScale : V
  hasPendingRequest : Bool
  hasWaitingRequest : Bool
  brightnessValue : V
  monitorName : String
  /-- The single-shot timers that have not fired. -/
  timers : ℕ
  tasks : List (Task V)
  /-- The requests so far, raised to the minimum, newest first. -/
  requested : List (Request V)
  /-- The requests that the display service was sent, newest first. -/
  sent : List (Request V)
  deriving DecidableEq

/-- What happens to the requests. -/
inductive RequestEvent (V : Type) where
  | setMonitorBrightness (mon : Option String) (brightness : V)
  | setMinimumBrightnessScale (value : V)
  /-- A timer fires. -/
  | timeout
  /-- A worker gets the lock, and holds it until it returns or has taken the request. -/
  | lock (n : ℕ)
  | send (n : ℕ)
  | reply (n : ℕ)
  /-- The watcher of a worker that has returned tells so. -/
  | finished (n : ℕ)
  deriving DecidableEq, Repr

namespace Requests

variable {V : Type}

/-- The timer's handler. -/
def handleSetBrightnessRequest (s : Requests V) : Requests V :=
  if s.hasPendingRequest then s
  else if s.hasWaitingRequest = false then s
  else { s with tasks := s.tasks ++ [.queued] }

/-- The watcher's handler, for a worker that is not counted any more. -/
def watcherFinished (s : Requests V) : Requests V :=
  { s with
    hasPendingRequest := false
    timers := if s.hasWaitingRequest then s.timers + 1 else s.timers }

section Model

variable [Zero V]

def initial (minimum : V) : Requests V := ⟨minimum, false, false, 0, "", 0, [], [], []⟩

/-- The part of a worker under the lock, with what becomes of the worker. -/
def lock (s : Requests V) : Requests V × Task V :=
  if s.hasPendingRequest then (s, .returned)
  else if s.hasWaitingRequest = false then (s, .returned)
  else
    ({ s with
      hasPendingRequest := true
      hasWaitingRequest := false
      monitorName := ""
      brightnessValue := 0 }, .taken ⟨s.monitorName, s.brightnessValue⟩)

variable [LinearOrder V]

def setMonitorBrightness (s : Requests V) (mon : Option String) (brightness : V) : Requests V :=
  match mon with
  | none => s
  | some name =>
    let value := max brightness s.minimumBrightnessScale
    { s with
      hasWaitingRequest := true
      brightnessValue := value
      monitorName := name
      timers := if s.hasPendingRequest then s.timers else s.timers + 1
      requested := ⟨name, value⟩ :: s.requested }

def step (s : Requests V) : RequestEvent V → Requests V
  | .setMonitorBrightness mon brightness => s.setMonitorBrightness mon brightness
  | .setMinimumBrightnessScale value => { s with minimumBrightnessScale := value }
  | .timeout =>
    if s.timers = 0 then s else { s with timers := s.timers - 1 }.handleSetBrightnessRequest
  | .lock n =>
    if s.tasks[n]? = some .queued then
      { s.lock.1 with tasks := s.tasks.set n s.lock.2 }
    else s
  | .send n =>
    match s.tasks[n]?.bind Task.unsent with
    | some request =>
      { s with tasks := s.tasks.set n (.inFlight request), sent := request :: s.sent }
    | none => s
  | .reply n =>
    match s.tasks[n]?.bind Task.calling with
    | some _ => { s with tasks := s.tasks.set n .returned }
    | none => s
  | .finished n =>
    if s.tasks[n]? = some .returned then
      { s with tasks := s.tasks.eraseIdx n }.watcherFinished
    else s

end Model

/-- At most one `SetAndSaveBrightness` call is in flight. -/
def Serialised (s : Requests V) : Prop := (s.tasks.filterMap Task.calling).length ≤ 1

/-- The newest request for the monitor. -/
def lastOf (name : String) (requests : List (Request V)) : Option (Request V) :=
  requests.find? fun request => request.monitorName = name

/-- Nothing is going on any more. -/
def Quiet (s : Requests V) : Prop := s.timers = 0 ∧ s.tasks = []

/-- Once nothing is going on, each monitor was last sent what was last requested for it. -/
def Delivered (s : Requests V) : Prop :=
  s.Quiet → ∀ name, lastOf name s.sent = lastOf name s.requested

/-- A watcher tells that its worker has returned when no worker has a request in the given way. -/
def Clear (f : Task V → Option (Request V)) (s : Requests V) : RequestEvent V → Prop
  | .finished n => s.tasks[n]? = some .returned → s.tasks.filterMap f = []
  | _ => True

/-- No request replaces a waiting one for another monitor. -/
def Supersedes (s : Requests V) : RequestEvent V → Prop
  | .setMonitorBrightness mon _ => ∀ name ∈ mon, s.hasWaitingRequest = true → s.monitorName = name
  | _ => True

/-- What picking from a list gives, when one element of it is replaced or taken out. -/
theorem filterMap_replace {α β : Type} (f : α → Option β) {l : List α} {n : ℕ} {a : α}
    (h : l[n]? = some a) :
    ∃ before after, l.filterMap f = before ++ (f a).toList ++ after ∧
      (∀ b, (l.set n b).filterMap f = before ++ (f b).toList ++ after) ∧
      (l.eraseIdx n).filterMap f = before ++ after := by
  obtain ⟨hlt, rfl⟩ := List.getElem?_eq_some_iff.mp h
  have hone : ∀ b, List.filterMap f [b] = (f b).toList := by
    intro b
    cases hb : f b with
    | none => simp [hb]
    | some c => simp [hb]
  refine ⟨(l.take n).filterMap f, (l.drop (n + 1)).filterMap f, ?_, ?_, ?_⟩
  · rw [← hone, ← List.filterMap_append, ← List.filterMap_append, List.append_assoc,
      List.singleton_append, ← List.drop_eq_getElem_cons hlt, List.take_append_drop]
  · intro b
    rw [← hone, ← List.filterMap_append, ← List.filterMap_append, List.append_assoc,
      List.singleton_append, List.set_eq_take_append_cons_drop, if_pos hlt]
  · rw [← List.filterMap_append, List.eraseIdx_eq_take_drop_succ]

/-- A way in which a worker has the request that it has taken, and has none when it starts and
when it has returned. -/
structure IsWay (f : Task V → Option (Request V)) : Prop where
  queued : f .queued = none
  taken : ∀ request, f (.taken request) = some request
  inFlight : ∀ request, (f (.inFlight request)).toList.length ≤ 1
  returned : f .returned = none

theorem isWay_busy : IsWay (Task.busy (V := V)) := ⟨rfl, fun _ => rfl, fun _ => le_refl 1, rfl⟩

theorem isWay_unsent : IsWay (Task.unsent (V := V)) :=
  ⟨rfl, fun _ => rfl, fun _ => Nat.zero_le 1, rfl⟩

/-- At most one worker has a request in the given way, and only while `m_hasPendingRequest` is
set. -/
def Held (f : Task V → Option (Request V)) (s : Requests V) : Prop :=
  (s.tasks.filterMap f).length ≤ s.hasPendingRequest.toNat

/-- The handler of the timer starts at most one worker, and does nothing else. -/
theorem handleSetBrightnessRequest_cases (s : Requests V) :
    s.handleSetBrightnessRequest = s ∧
        (s.hasPendingRequest = true ∨ s.hasWaitingRequest = false) ∨
      s.handleSetBrightnessRequest = { s with tasks := s.tasks ++ [.queued] } := by
  unfold handleSetBrightnessRequest
  split_ifs with hpending hwaiting
  · exact .inl ⟨rfl, .inl hpending⟩
  · exact .inl ⟨rfl, .inr hwaiting⟩
  · exact .inr rfl

/-- A worker that is told of by a picking function is the one with the request. -/
theorem getElem?_of_unsent {tasks : List (Task V)} {n : ℕ} {request : Request V}
    (h : tasks[n]?.bind Task.unsent = some request) : tasks[n]? = some (.taken request) := by
  obtain ⟨task, htask, hunsent⟩ := Option.bind_eq_some_iff.mp h
  cases task with
  | taken request' => rw [htask, Option.some.inj hunsent]
  | _ => simp [Task.unsent] at hunsent

theorem getElem?_of_calling {tasks : List (Task V)} {n : ℕ} {request : Request V}
    (h : tasks[n]?.bind Task.calling = some request) : tasks[n]? = some (.inFlight request) := by
  obtain ⟨task, htask, hcalling⟩ := Option.bind_eq_some_iff.mp h
  cases task with
  | inFlight request' => rw [htask, Option.some.inj hcalling]
  | _ => simp [Task.calling] at hcalling

/-- A worker that goes on is still there. -/
theorem set_ne_nil {tasks : List (Task V)} {n : ℕ} {old : Task V} (h : tasks[n]? = some old)
    (task : Task V) : tasks.set n task ≠ [] := by
  intro hnil
  rw [List.set_eq_nil_iff] at hnil
  rw [hnil] at h
  simp at h

/-- A call in flight is one of a worker that has a request. -/
theorem Held.serialised {s : Requests V} (h : s.Held Task.busy) : s.Serialised := by
  have hcount : ∀ tasks : List (Task V),
      (tasks.filterMap Task.calling).length ≤ (tasks.filterMap Task.busy).length := by
    intro tasks
    induction tasks with
    | nil => exact le_refl 0
    | cons task tasks ih =>
      cases task with
      | queued => exact ih
      | taken request => exact ih.trans (Nat.le_succ _)
      | inFlight request => exact Nat.succ_le_succ ih
      | returned => exact ih
  exact (hcount s.tasks).trans (h.trans (Bool.toNat_le _))

/-- The waiting request, if any. -/
def waiting (s : Requests V) : List (Request V) :=
  if s.hasWaitingRequest then [⟨s.monitorName, s.brightnessValue⟩] else []

/-- What was requested last is waiting, with a worker, or sent, in this order, and what waits has a
timer or a worker to come. -/
structure Tracked (s : Requests V) : Prop where
  live : s.hasWaitingRequest = true → 0 < s.timers ∨ s.tasks ≠ []
  owned : s.hasPendingRequest = true → s.tasks ≠ []
  last : ∀ name,
    lastOf name (s.waiting ++ s.tasks.filterMap Task.unsent ++ s.sent) = lastOf name s.requested

/-- Once nothing is going on, all that was requested last has been sent. -/
theorem Tracked.delivered {s : Requests V} (h : s.Tracked) : s.Delivered := by
  intro hquiet name
  obtain ⟨htimers, htasks⟩ := hquiet
  have hnone : s.waiting = [] := by
    unfold waiting
    split_ifs with hwaiting
    · obtain hpos | htask := h.live hwaiting
      · omega
      · exact absurd htasks htask
    · rfl
  have hlast := h.last name
  rwa [hnone, htasks, List.filterMap_nil, List.nil_append, List.nil_append] at hlast

variable [Zero V]

theorem held_initial (f : Task V → Option (Request V)) (minimum : V) : (initial minimum).Held f :=
  Nat.zero_le _

theorem tracked_initial (minimum : V) : (initial minimum).Tracked := by
  refine ⟨?_, ?_, fun _ => rfl⟩
  · intro hfalse
    exact Bool.noConfusion hfalse
  · intro hfalse
    exact Bool.noConfusion hfalse

/-- What a worker that gets the lock does. -/
theorem lock_cases (s : Requests V) :
    s.lock = (s, .returned) ∨
      s.hasPendingRequest = false ∧ s.hasWaitingRequest = true ∧
        s.lock =
          ({ s with
            hasPendingRequest := true
            hasWaitingRequest := false
            monitorName := ""
            brightnessValue := 0 }, .taken ⟨s.monitorName, s.brightnessValue⟩) := by
  unfold lock
  split_ifs with hpending hwaiting
  · exact .inl rfl
  · exact .inl rfl
  · exact .inr ⟨by simpa using hpending, by simpa using hwaiting, rfl⟩

variable [LinearOrder V]

/-- The timer starts a worker that has no request yet. -/
theorem Held.timeout {f : Task V → Option (Request V)} (hf : IsWay f) {s : Requests V}
    (h : s.Held f) : (s.step .timeout).Held f := by
  simp only [step]
  split_ifs
  · exact h
  · obtain ⟨heq, -⟩ | heq := handleSetBrightnessRequest_cases { s with timers := s.timers - 1 }
    · rw [heq]
      exact h
    · rw [heq]
      simpa [Held, hf.queued] using h

/-- A worker takes a request only while the flag is not set, and sets it. -/
theorem Held.lock {f : Task V → Option (Request V)} (hf : IsWay f) {s : Requests V}
    (h : s.Held f) (n : ℕ) : (s.step (.lock n)).Held f := by
  simp only [step]
  split_ifs with hqueued
  · obtain ⟨before, after, hall, hset, -⟩ := filterMap_replace f hqueued
    rw [hf.queued] at hall
    obtain heq | ⟨hpending, -, heq⟩ := s.lock_cases
    · rw [heq]
      rw [Held, hset, hf.returned, ← hall]
      exact h
    · rw [Held, hall, hpending] at h
      rw [heq, Held, hset, hf.taken]
      simp only [Option.toList_none, Option.toList_some, List.append_nil, List.length_append,
        List.length_singleton, Bool.toNat_false, Bool.toNat_true] at h ⊢
      omega
  · exact h

/-- A worker that sends its request has had it before. -/
theorem Held.send {f : Task V → Option (Request V)} (hf : IsWay f) {s : Requests V}
    (h : s.Held f) (n : ℕ) : (s.step (.send n)).Held f := by
  simp only [step]
  split
  · next request hunsent =>
    obtain ⟨before, after, hall, hset, -⟩ := filterMap_replace f (getElem?_of_unsent hunsent)
    have hlength := hf.inFlight request
    rw [Held, hall, hf.taken] at h
    rw [Held, hset]
    simp only [Option.toList_some, List.length_append, List.length_singleton] at h ⊢
    omega
  · exact h

/-- A worker whose call has returned has no request any more. -/
theorem Held.reply {f : Task V → Option (Request V)} (hf : IsWay f) {s : Requests V}
    (h : s.Held f) (n : ℕ) : (s.step (.reply n)).Held f := by
  simp only [step]
  split
  · next request hcalling =>
    obtain ⟨before, after, hall, hset, -⟩ := filterMap_replace f (getElem?_of_calling hcalling)
    rw [Held, hall] at h
    rw [Held, hset, hf.returned]
    simp only [Option.toList_none, List.append_nil, List.length_append] at h ⊢
    omega
  · exact h

/-- The watcher clears the flag, so no worker may have a request then. -/
theorem Held.finished_iff {f : Task V → Option (Request V)} (hf : IsWay f) {s : Requests V}
    (h : s.Held f) (n : ℕ) : (s.step (.finished n)).Held f ↔ s.Clear f (.finished n) := by
  simp only [step, Clear]
  split_ifs with hreturned
  · obtain ⟨before, after, hall, -, herase⟩ := filterMap_replace f hreturned
    rw [hf.returned, Option.toList_none, List.append_nil] at hall
    rw [imp_iff_right hreturned, hall, Held, watcherFinished, herase, Bool.toNat_false,
      Nat.le_zero, List.length_eq_zero_iff]
  · exact iff_of_true h fun hfalse => absurd hfalse hreturned

/-- The flag tells whether a worker has a request exactly as long as no other worker's watcher
clears it. -/
theorem Held.step_iff {f : Task V → Option (Request V)} (hf : IsWay f) {s : Requests V}
    (h : s.Held f) (e : RequestEvent V) : (s.step e).Held f ↔ s.Clear f e := by
  cases e with
  | setMonitorBrightness mon brightness =>
    apply iff_of_true _ trivial
    cases mon with
    | none => exact h
    | some name => exact h
  | setMinimumBrightnessScale value => exact iff_of_true h trivial
  | timeout => exact iff_of_true (h.timeout hf) trivial
  | lock n => exact iff_of_true (h.lock hf n) trivial
  | send n => exact iff_of_true (h.send hf n) trivial
  | reply n => exact iff_of_true (h.reply hf n) trivial
  | finished n => exact h.finished_iff hf n

/-- Throughout a run, the flag is set while a worker has a request that is not replied to exactly
when no watcher clears it then. -/
theorem always_held_iff {f : Task V → Option (Request V)} (hf : IsWay f) (minimum : V)
    (es : List (RequestEvent V)) :
    Always step (Held f) (initial minimum) es ↔ Obeys step (Clear f) (initial minimum) es :=
  always_iff_obeys (I := fun _ => True) (fun _ _ _ => trivial) (fun _ e _ h => h.step_iff hf e) es
    trivial (held_initial f minimum)

/-- At most one call is in flight in every state of a run in which no watcher tells that its worker
has returned while another worker has a request that is not replied to. -/
theorem serialised_of_clear (minimum : V) (es : List (RequestEvent V))
    (hclear : Obeys step (Clear Task.busy) (initial minimum) es) :
    Always step Serialised (initial minimum) es :=
  always_of_obeys (I := Held Task.busy) (fun _ e h hclear => (h.step_iff isWay_busy e).mpr hclear)
    (fun _ h => h.serialised) (held_initial Task.busy minimum) hclear

omit [Zero V] in
/-- A request that replaces none for another monitor is the last one for its own. -/
theorem Tracked.setMonitorBrightness {s : Requests V} (h : s.Tracked) (name : String)
    {brightness : V} (hsame : s.hasWaitingRequest = true → s.monitorName = name) :
    (s.setMonitorBrightness (some name) brightness).Tracked := by
  refine ⟨?_, h.owned, ?_⟩
  · intro _
    by_cases hpending : s.hasPendingRequest = true
    · exact .inr (h.owned hpending)
    · left
      simp [Requests.setMonitorBrightness, hpending]
  · intro name'
    have hlast := h.last name'
    by_cases hname : name = name'
    · simp [Requests.setMonitorBrightness, waiting, lastOf, hname]
    · have hskip : lastOf name' (s.waiting ++ s.tasks.filterMap Task.unsent ++ s.sent) =
          lastOf name' (s.tasks.filterMap Task.unsent ++ s.sent) := by
        unfold waiting
        split_ifs with hwaiting
        · rw [hsame hwaiting]
          simp [lastOf, hname]
        · rfl
      rw [hskip] at hlast
      simpa [Requests.setMonitorBrightness, waiting, lastOf, hname] using hlast

/-- A worker that gets the lock takes the waiting request, if it takes one. -/
theorem Tracked.lock {s : Requests V} (h : s.Tracked) (hheld : s.Held Task.unsent) (n : ℕ) :
    (s.step (.lock n)).Tracked := by
  simp only [step]
  split_ifs with hqueued
  · obtain ⟨before, after, hall, hset, -⟩ := filterMap_replace Task.unsent hqueued
    have htasks := set_ne_nil hqueued
    obtain heq | ⟨hpending, hwaiting, heq⟩ := s.lock_cases
    · rw [heq]
      refine ⟨fun _ => .inr (htasks _), fun _ => htasks _, ?_⟩
      intro name
      have hsame : (s.tasks.set n .returned).filterMap Task.unsent =
          s.tasks.filterMap Task.unsent := (hset _).trans hall.symm
      simp only [hsame]
      exact h.last name
    · rw [heq]
      refine ⟨fun hfalse => Bool.noConfusion hfalse, fun _ => htasks _, ?_⟩
      intro name
      have hnone : before ++ after = [] := by
        have hzero := hheld
        rw [Held, hpending, hall] at hzero
        simpa [Task.unsent] using hzero
      obtain ⟨hbefore, hafter⟩ := List.append_eq_nil_iff.mp hnone
      have hlast := h.last name
      rw [waiting, if_pos hwaiting, hall, hbefore, hafter] at hlast
      simp only [hset, hbefore, hafter, waiting]
      exact hlast
  · exact h

/-- A worker that sends has the last request before the ones that are sent. -/
theorem Tracked.send {s : Requests V} (h : s.Tracked) (hheld : s.Held Task.unsent) (n : ℕ) :
    (s.step (.send n)).Tracked := by
  simp only [step]
  split
  · rename_i request hunsent
    have htask := getElem?_of_unsent hunsent
    obtain ⟨before, after, hall, hset, -⟩ := filterMap_replace Task.unsent htask
    have htasks := set_ne_nil htask
    have hnone : before = [] ∧ after = [] := by
      have hone := Nat.le_trans hheld (Bool.toNat_le _)
      rw [hall] at hone
      simp only [Task.unsent, Option.toList_some, List.length_append, List.length_singleton] at hone
      constructor
      · exact List.length_eq_zero_iff.mp (by omega)
      · exact List.length_eq_zero_iff.mp (by omega)
    refine ⟨fun _ => .inr (htasks _), fun _ => htasks _, ?_⟩
    intro name
    have hlast := h.last name
    rw [hall, hnone.1, hnone.2] at hlast
    simp only [hset, hnone.1, hnone.2, waiting] at hlast ⊢
    simpa [Task.unsent] using hlast
  · exact h

/-- A timer that fires leaves a worker, or nothing to do. -/
theorem Tracked.timeout {s : Requests V} (h : s.Tracked) : (s.step .timeout).Tracked := by
  simp only [step]
  split_ifs with htimers
  · exact h
  · obtain ⟨heq, hidle⟩ | heq := handleSetBrightnessRequest_cases { s with timers := s.timers - 1 }
    · rw [heq]
      refine ⟨?_, h.owned, h.last⟩
      intro hwaiting
      obtain hpending | hnone := hidle
      · exact .inr (h.owned hpending)
      · exact absurd (hwaiting.symm.trans hnone) (by decide)
    · rw [heq]
      refine ⟨fun _ => .inr (by simp), fun _ => by simp, ?_⟩
      intro name
      have hsame : (s.tasks ++ [Task.queued]).filterMap Task.unsent =
          s.tasks.filterMap Task.unsent := by simp [Task.unsent]
      simp only [hsame]
      exact h.last name

/-- A reply changes nothing of what was sent and requested. -/
theorem Tracked.reply {s : Requests V} (h : s.Tracked) (n : ℕ) : (s.step (.reply n)).Tracked := by
  simp only [step]
  split
  · rename_i request hcalling
    have htask := getElem?_of_calling hcalling
    obtain ⟨before, after, hall, hset, -⟩ := filterMap_replace Task.unsent htask
    have htasks := set_ne_nil htask .returned
    refine ⟨fun _ => .inr htasks, fun _ => htasks, ?_⟩
    intro name
    have hsame : (s.tasks.set n .returned).filterMap Task.unsent =
        s.tasks.filterMap Task.unsent := (hset _).trans hall.symm
    simp only [hsame]
    exact h.last name
  · exact h

/-- A watcher that tells that its worker has returned starts a timer for what waits. -/
theorem Tracked.finished {s : Requests V} (h : s.Tracked) (n : ℕ) :
    (s.step (.finished n)).Tracked := by
  simp only [step]
  split_ifs with hreturned
  · obtain ⟨before, after, hall, -, herase⟩ := filterMap_replace Task.unsent hreturned
    refine ⟨?_, fun hfalse => Bool.noConfusion hfalse, ?_⟩
    · intro hwaiting
      left
      have hwaiting : s.hasWaitingRequest = true := hwaiting
      simp [watcherFinished, hwaiting]
    · intro name
      have hsame : (s.tasks.eraseIdx n).filterMap Task.unsent =
          s.tasks.filterMap Task.unsent := by
        rw [herase, hall]
        simp [Task.unsent]
      simp only [watcherFinished, hsame]
      exact h.last name
  · exact h

/-- A step that replaces no request for another monitor loses none. -/
theorem Tracked.step {s : Requests V} (h : s.Tracked) (hheld : s.Held Task.unsent)
    {e : RequestEvent V} (hsame : s.Supersedes e) : (s.step e).Tracked := by
  cases e with
  | setMonitorBrightness mon brightness =>
    cases mon with
    | none => exact h
    | some name => exact h.setMonitorBrightness name (hsame name rfl)
  | setMinimumBrightnessScale value => exact ⟨h.live, h.owned, h.last⟩
  | timeout => exact h.timeout
  | lock n => exact h.lock hheld n
  | send n => exact h.send hheld n
  | reply n => exact h.reply n
  | finished n => exact h.finished n

/-- Each monitor was last sent what was last requested for it, whenever nothing is going on, in a
run in which no request replaces a waiting one for another monitor and no watcher tells that its
worker has returned while another worker has a request that it has not sent. -/
theorem delivered_of_supersedes (minimum : V) (es : List (RequestEvent V))
    (hsame : Obeys step Supersedes (initial minimum) es)
    (hclear : Obeys step (Clear Task.unsent) (initial minimum) es) :
    Always step Delivered (initial minimum) es := by
  apply always_of_obeys (I := fun s => s.Tracked ∧ s.Held Task.unsent) _ _
    ⟨tracked_initial minimum, held_initial Task.unsent minimum⟩ (hsame.and hclear)
  · intro s e h hboth
    exact ⟨h.1.step h.2 hboth.1, (h.2.step_iff isWay_unsent e).mpr hboth.2⟩
  · intro s h
    exact h.1.delivered

/-- A second request comes while the first one is sent, and is sent when this has been replied
to. -/
def oneAfterAnother : List (RequestEvent ℕ) :=
  [.setMonitorBrightness (some "eDP-1") 50, .timeout, .lock 0, .send 0,
    .setMonitorBrightness (some "eDP-1") 60, .reply 0, .finished 0, .timeout, .lock 0, .send 0,
    .reply 0, .finished 0]

theorem serialised_oneAfterAnother :
    Always step Serialised (initial 10) oneAfterAnother := by
  apply serialised_of_clear
  simp only [oneAfterAnother, Obeys, Clear]
  decide

theorem delivered_oneAfterAnother : Always step Delivered (initial 10) oneAfterAnother := by
  apply delivered_of_supersedes
  · simp only [oneAfterAnother, Obeys, Supersedes]
    decide
  · simp only [oneAfterAnother, Obeys, Clear]
    decide

/-- Two timers start two workers, of which the second one finds nothing to take. Its watcher clears
the flag while the call of the first one is in flight. -/
def thirdRequest : List (RequestEvent ℕ) :=
  [.setMonitorBrightness (some "eDP-1") 50, .setMonitorBrightness (some "eDP-1") 60, .timeout,
    .timeout, .lock 0, .send 0, .lock 1, .finished 1, .setMonitorBrightness (some "eDP-1") 70,
    .timeout, .lock 1, .send 1]

theorem not_serialised_thirdRequest : ¬Always step Serialised (initial 10) thirdRequest := by
  intro hserialised
  have hlast : (run step (initial 10) thirdRequest).Serialised :=
    hserialised.2.2.2.2.2.2.2.2.2.2.2.2
  revert hlast
  simp only [Serialised]
  decide

/-- The request for the first monitor is replaced by one for the second before it is taken. -/
theorem not_delivered_twoMonitors :
    ¬Always step Delivered (initial 10)
      [.setMonitorBrightness (some "eDP-1") 50, .setMonitorBrightness (some "HDMI-1") 60, .timeout,
        .timeout, .lock 0, .send 0, .reply 0, .finished 0, .lock 0, .finished 0] := by
  intro hdelivered
  have hlast := hdelivered.2.2.2.2.2.2.2.2.2.2 ⟨rfl, rfl⟩ "eDP-1"
  revert hlast
  decide

end Requests

end DdeTrayLoader.Brightness
