import DdeTrayLoader.Power.DBusPower
import DdeTrayLoader.Transition.Run

/-!
# The power proxy, the bus and the power service

The proxy is put next to its environment: the service that may own the bus name, with the
history of each property over all owners; the `GetAll` calls not answered yet; and the
messages on their way to the proxy, which the bus delivers in the order it sent them.

A property change and its notification are one step of the service. A call captures the
properties when the service handles it and is answered at any later time, with what was
captured or with an error. A notification that names several properties is delivered name
by name. The base class learns of an owner change just before or just after the proxy's own
handler, before the next message and before a timer armed in that handler fires.

`shown` is bookkeeping of the model: the history position the cached value was sent for,
and zero before any.
-/

namespace DdeTrayLoader.Power

/-- The power service: its current owner, and every value a property has had, oldest first. -/
structure PowerService where
  owner : Option ℕ
  history : Property → List QVariant

namespace PowerService

/-- The number of values so far, which is the position of the current one. -/
def position (service : PowerService) (p : Property) : ℕ := (service.history p).length

/-- The value at a position, counting from one. -/
def valueAt (service : PowerService) (p : Property) : ℕ → Option QVariant
  | 0 => none
  | k + 1 => (service.history p)[k]?

/-- The current value. -/
def current (service : PowerService) (p : Property) : Option QVariant :=
  service.valueAt p (service.position p)

/-- Give a property a new value. -/
def append (service : PowerService) (p : Property) (value : QVariant) : PowerService :=
  { service with
    history := fun q => if q = p then service.history q ++ [value] else service.history q }

end PowerService

/-- What a `GetAll` captured: a value for each property, and the positions of these values. -/
structure Snapshot where
  values : QVariantMap
  positions : Property → ℕ

/-- A `GetAll` that is not answered, with what it captured once the service handled it. -/
structure Call where
  serial : ℕ
  captured : Option Snapshot

/-- What the bus delivers to the proxy. -/
inductive Message where
  | changed (name : String) (value : QVariant) (position : ℕ)
  | invalidated (name : String)
  | finished (serial : ℕ) (reply : Option Snapshot)
  | ownerChanged (newOwner : Option ℕ)

/-- One property of a change, with whether the notification carries the value or only
invalidates the name. The name may be that of a property the proxy does not cache. -/
structure Update where
  name : String
  value : QVariant
  announced : Bool

/-- What the notification says about the property, whose new value stands at `position`. -/
def Update.notification (update : Update) (position : ℕ) : Message :=
  if update.announced then .changed update.name update.value position
  else .invalidated update.name

/-- The proxy and its environment. `isValid` is what the base class answers, `lag` the answer
it will adopt for an owner change the proxy has handled already, and `nextSerial` the number
of `GetAll` calls sent so far. -/
structure PowerSystem where
  power : DBusPower
  isValid : Bool
  lag : Option Bool
  service : PowerService
  calls : List Call
  queue : List Message
  nextSerial : ℕ
  shown : Property → ℕ

inductive Event where
  /-- Another component calls `getAllProperties`. -/
  | request
  /-- The refresh timer fires. -/
  | timeout
  /-- The oldest message in flight reaches its handler. -/
  | deliver
  /-- The base class adopts the owner change the proxy has handled. -/
  | interfaceUpdate
  /-- The base class adopts the owner change that the proxy handles next. -/
  | interfaceFirst
  /-- The owner changes properties, all at once. -/
  | change (updates : List Update)
  /-- The owner handles a `GetAll`. -/
  | handle (serial : ℕ)
  /-- A `GetAll` is answered, with what it captured or with an error. -/
  | answer (serial : ℕ) (success : Bool)
  /-- A connection takes the bus name, with these properties. -/
  | start (owner : ℕ) (initial : Property → QVariant)
  /-- The bus name is released. -/
  | stop

/-- The cached positions after writing `properties`, whose values stood at `positions`. -/
def showing (properties : QVariantMap) (positions shown : Property → ℕ) : Property → ℕ :=
  fun p => if (properties p.name).isSome then positions p else shown p

namespace PowerSystem

/-- The state after a handler that may have sent a `GetAll`. -/
def sent (s : PowerSystem) (result : DBusPower × Bool) : PowerSystem :=
  { s with
    power := result.1
    calls := if result.2 then s.calls ++ [⟨s.nextSerial, none⟩] else s.calls
    nextSerial := if result.2 then s.nextSerial + 1 else s.nextSerial }

def getAllProperties (s : PowerSystem) : PowerSystem :=
  s.sent (s.power.getAllProperties s.isValid s.nextSerial)

/-- The handlers of the four kinds of messages. The watcher of a `GetAll` that is not pending
has been disconnected. -/
def receive (s : PowerSystem) : Message → PowerSystem
  | .changed name value position =>
    { s with
      power := s.power.propertyChanged name value
      shown := showing (.single name value) (fun _ => position) s.shown }
  | .invalidated name => s.sent (s.power.propertyInvalidated s.isValid s.nextSerial name)
  | .finished serial reply =>
    if s.power.pendingSnapshot = some serial then
      { s with
        power := s.power.finished s.isValid (reply.map (·.values))
        shown := match reply with
          | none => s.shown
          | some snapshot =>
            showing (s.power.withoutLive snapshot.values) snapshot.positions s.shown }
    else s
  | .ownerChanged newOwner =>
    { s with power := s.power.serviceOwnerChanged newOwner, lag := some newOwner.isSome }

/-- Deliver the oldest message. The base class handles an owner change before the message
after it. -/
def deliver (s : PowerSystem) : PowerSystem :=
  match s.queue with
  | [] => s
  | message :: rest => if s.lag.isSome then s else { s with queue := rest }.receive message

/-- The timer fires, after the base class has caught up with the proxy. -/
def timeout (s : PowerSystem) : PowerSystem :=
  if s.power.refreshTimer.isSome && s.lag.isNone then
    { s with power := { s.power with refreshTimer := none } }.getAllProperties
  else s

def interfaceUpdate (s : PowerSystem) : PowerSystem :=
  match s.lag with
  | some isValid => { s with isValid := isValid, lag := none }
  | none => s

def interfaceFirst (s : PowerSystem) : PowerSystem :=
  match s.queue with
  | .ownerChanged newOwner :: _ => { s with isValid := newOwner.isSome }
  | _ => s

/-- One property changes and its notification is sent. -/
def changeOne (s : PowerSystem) (update : Update) : PowerSystem :=
  match Property.ofName? update.name with
  | some p =>
    { s with
      service := s.service.append p update.value
      queue := s.queue ++ [update.notification (s.service.position p + 1)] }
  | none => { s with queue := s.queue ++ [update.notification 0] }

/-- The owner changes properties; nothing else happens between these changes. -/
def change (s : PowerSystem) (updates : List Update) : PowerSystem :=
  if s.service.owner.isSome then Transition.run changeOne s updates else s

/-- The properties as a `GetAll` handled now captures them. -/
def snapshot (s : PowerSystem) : Snapshot where
  values name := (Property.ofName? name).bind s.service.current
  positions := s.service.position

def handle (s : PowerSystem) (serial : ℕ) : PowerSystem :=
  if s.service.owner.isSome then
    { s with calls := s.calls.map fun call =>
        if call.serial = serial ∧ call.captured.isNone then ⟨serial, some s.snapshot⟩ else call }
  else s

/-- The answer to a call enters the queue of messages. -/
def reply (s : PowerSystem) (serial : ℕ) (reply : Option Snapshot) : PowerSystem :=
  { s with
    calls := s.calls.filter (·.serial ≠ serial)
    queue := s.queue ++ [.finished serial reply] }

/-- Only a call the service has handled can be answered with success. -/
def answer (s : PowerSystem) (serial : ℕ) (success : Bool) : PowerSystem :=
  match s.calls.find? (·.serial = serial) with
  | none => s
  | some call =>
    match success, call.captured with
    | true, none => s
    | true, some snapshot => s.reply serial (some snapshot)
    | false, _ => s.reply serial none

def start (s : PowerSystem) (owner : ℕ) (initial : Property → QVariant) : PowerSystem :=
  { s with
    service := ⟨some owner, fun p => s.service.history p ++ [initial p]⟩
    queue := s.queue ++ [.ownerChanged (some owner)] }

def stop (s : PowerSystem) : PowerSystem :=
  { s with
    service := { s.service with owner := none }
    queue := s.queue ++ [.ownerChanged none] }

def step (s : PowerSystem) : Event → PowerSystem
  | .request => s.getAllProperties
  | .timeout => s.timeout
  | .deliver => s.deliver
  | .interfaceUpdate => s.interfaceUpdate
  | .interfaceFirst => s.interfaceFirst
  | .change updates => s.change updates
  | .handle serial => s.handle serial
  | .answer serial success => s.answer serial success
  | .start owner initial => s.start owner initial
  | .stop => s.stop

/-- A proxy constructed while the service is down (`none`) or up with these properties; the
constructor ends with a call of `getAllProperties`. -/
def initial (running : Option (Property → QVariant)) : PowerSystem :=
  { power := {}
    isValid := running.isSome
    lag := none
    service :=
      { owner := running.map fun _ => 0
        history := fun p => (running.map fun values => values p).toList }
    calls := []
    queue := []
    nextSerial := 0
    shown := fun _ => 0 : PowerSystem }.getAllProperties

/-- A call is answered with nothing, with an error, or with what it captured. -/
theorem answer_cases (s : PowerSystem) (serial : ℕ) (success : Bool) :
    s.answer serial success = s ∨
    ∃ call ∈ s.calls, call.serial = serial ∧
      (s.answer serial success = s.reply serial none ∨
        ∃ snapshot, call.captured = some snapshot ∧
          s.answer serial success = s.reply serial (some snapshot)) := by
  unfold PowerSystem.answer
  cases hfind : s.calls.find? (·.serial = serial) with
  | none => exact .inl rfl
  | some call =>
    have hmem := List.mem_of_find?_eq_some hfind
    have hserial : call.serial = serial := by simpa using List.find?_some hfind
    cases success with
    | false => exact .inr ⟨call, hmem, hserial, .inl rfl⟩
    | true =>
      cases hcaptured : call.captured with
      | none => exact .inl (by simp only [hcaptured])
      | some snapshot =>
        exact .inr ⟨call, hmem, hserial, .inr ⟨snapshot, hcaptured, by simp only [hcaptured]⟩⟩

/-- What a step makes of the system, with what it found it to be. -/
inductive StepTo (s : PowerSystem) : Event → PowerSystem → Prop
  | idle {e : Event} (hrequest : e ≠ .request)
      (hidle : e = .deliver → s.queue = [] ∨ s.lag.isSome) : StepTo s e s
  | request : StepTo s .request s.getAllProperties
  | timeout (htimer : s.power.refreshTimer.isSome) (hlag : s.lag = none) :
      StepTo s .timeout
        { s with power := { s.power with refreshTimer := none } }.getAllProperties
  | deliver {message : Message} {rest : List Message} (hqueue : s.queue = message :: rest)
      (hlag : s.lag = none) : StepTo s .deliver ({ s with queue := rest }.receive message)
  | interfaceUpdate {isValid : Bool} (hlag : s.lag = some isValid) :
      StepTo s .interfaceUpdate { s with isValid := isValid, lag := none }
  | interfaceFirst {newOwner : Option ℕ} {rest : List Message}
      (hqueue : s.queue = .ownerChanged newOwner :: rest) :
      StepTo s .interfaceFirst { s with isValid := newOwner.isSome }
  | change (updates : List Update) :
      StepTo s (.change updates) (Transition.run changeOne s updates)
  | handle (serial : ℕ) : StepTo s (.handle serial) (s.handle serial)
  | fail {call : Call} {success : Bool} (hcall : call ∈ s.calls) :
      StepTo s (.answer call.serial success) (s.reply call.serial none)
  | succeed {serial : ℕ} {success : Bool} {snapshot : Snapshot}
      (hcall : ⟨serial, some snapshot⟩ ∈ s.calls) :
      StepTo s (.answer serial success) (s.reply serial (some snapshot))
  | start (owner : ℕ) (initial : Property → QVariant) :
      StepTo s (.start owner initial) (s.start owner initial)
  | stop : StepTo s .stop s.stop

/-- Every step is one of these. -/
theorem stepTo (s : PowerSystem) (e : Event) : s.StepTo e (s.step e) := by
  cases e with
  | request => exact .request
  | timeout =>
    change s.StepTo .timeout s.timeout
    unfold timeout
    split_ifs with hfires
    · rw [Bool.and_eq_true, Option.isNone_iff_eq_none] at hfires
      exact .timeout hfires.1 hfires.2
    · exact .idle nofun nofun
  | deliver =>
    change s.StepTo .deliver s.deliver
    unfold deliver
    split
    · next hqueue => exact .idle nofun fun _ => .inl hqueue
    · next hqueue =>
      split_ifs with hlag
      · exact .idle nofun fun _ => .inr hlag
      · exact .deliver hqueue (Option.not_isSome_iff_eq_none.mp hlag)
  | interfaceUpdate =>
    change s.StepTo .interfaceUpdate s.interfaceUpdate
    unfold interfaceUpdate
    split
    · next hlag => exact .interfaceUpdate hlag
    · exact .idle nofun nofun
  | interfaceFirst =>
    change s.StepTo .interfaceFirst s.interfaceFirst
    unfold interfaceFirst
    split
    · next hqueue => exact .interfaceFirst hqueue
    · exact .idle nofun nofun
  | change updates =>
    change s.StepTo (.change updates) (s.change updates)
    unfold change
    split_ifs
    · exact .change updates
    · exact .idle nofun nofun
  | handle serial => exact .handle serial
  | answer serial success =>
    change s.StepTo (.answer serial success) (s.answer serial success)
    rcases s.answer_cases serial success with
      heq | ⟨⟨_, captured⟩, hcall, rfl, heq | ⟨snapshot, rfl, heq⟩⟩ <;> rw [heq]
    · exact .idle nofun nofun
    · exact .fail hcall
    · exact .succeed hcall
  | start owner initial => exact .start owner initial
  | stop => exact .stop

end PowerSystem

end DdeTrayLoader.Power
