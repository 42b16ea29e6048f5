import ZenOS.Compositor.Step
import ZenOS.Library.Runs

/-!
`dbus.c` and the D-Bus part of `lock.c`: the connection that is opened, the match that
is installed on it, and the dispatch of its messages on the event loop.
-/

namespace ZenOS.Compositor

open ZenOS.Library.Runs

inductive Bus where
  | user
  | system
  deriving DecidableEq

structure Message where
  sender : String
  path : String
  interface : String
  member : String
  deriving DecidableEq

/-- The arguments of `sd_bus_match_signal`; `none` is NULL. -/
structure MatchRule where
  sender : Option String
  path : Option String
  interface : Option String
  member : Option String
  deriving DecidableEq

def MatchRule.accepts (r : MatchRule) (m : Message) : Bool :=
  r.sender.all (· == m.sender) && r.path.all (· == m.path) &&
    r.interface.all (· == m.interface) && r.member.all (· == m.member)

/-- Which calls of `zen_dbus_init` succeed. -/
structure DbusCalls where
  openUser : Bool
  addObjectVtable : Bool
  requestName : Bool
  getFd : Bool
  addFd : Bool

/-- `zen_dbus_init`: the bus of the connection it leaves.  After a failure
`zen_dbus_destroy` has closed the connection, and the compositor goes on without. -/
def zenDbusInit (calls : DbusCalls) : Option Bus :=
  if !calls.openUser then none
  else
    let bus : Option Bus := some .user
    if !calls.addObjectVtable then none
    else if !calls.requestName then none
    else if !calls.getFd then none
    else if !calls.addFd then none
    else bus

def lockSignalRule : MatchRule :=
  { sender := some "org.freedesktop.login1"
    path := none
    interface := some "org.freedesktop.login1.Session"
    member := some "Lock" }

/-- The part of `zen_lock_init` that sets `s_lock_signal_slot`. -/
def zenLockInitMatch (bus : Option Bus) (matchOk : Bool) : Option MatchRule :=
  match bus with
  | some _ => if matchOk then some lockSignalRule else none
  | none => none

/-- The compositor with its D-Bus connection.  `queue` holds the messages that wait on
the connection, oldest first; `emitted` and `callbacks` record the messages on the two
buses and those that `lock_signal_cb` has run for. -/
structure BusState where
  compositor : ZenCompositor
  bus : Option Bus
  lockSignalSlot : Option MatchRule
  queue : List Message
  emitted : List (Bus × Message)
  callbacks : List (Bus × Message)

inductive BusEvent where
  | message (bus : Bus) (m : Message)
  /-- the event loop runs `dbus_dispatch_cb` -/
  | dispatch (bufferOk : Bool)
  | compositor (e : Event)

/-- `dbus_dispatch_cb`: `sd_bus_process` takes one message. -/
def dbusDispatchCb (p : BusState) (bufferOk : Bool) : BusState :=
  match p.bus, p.queue with
  | some bus, m :: queue =>
      if p.lockSignalSlot.any (·.accepts m) then
        { p with
          compositor := step p.compositor (.lockSignal bufferOk)
          queue
          callbacks := p.callbacks ++ [(bus, m)] }
      else { p with queue }
  | _, _ => p

def stepBus (p : BusState) : BusEvent → BusState
  | .message bus m =>
      { p with
        queue := if p.bus = some bus then p.queue ++ [m] else p.queue
        emitted := p.emitted ++ [(bus, m)] }
  | .dispatch bufferOk => dbusDispatchCb p bufferOk
  | .compositor e => { p with compositor := step p.compositor e }

def busCreated (s : ZenCompositor) (calls : DbusCalls) (matchOk : Bool) : BusState :=
  let bus := zenDbusInit calls
  { compositor := s, bus, lockSignalSlot := zenLockInitMatch bus matchOk
    queue := [], emitted := [], callbacks := [] }

/-- The `Lock` signal that logind emits for the session of the given object path. -/
def loginLock (session : String) : Message :=
  { sender := "org.freedesktop.login1"
    path := session
    interface := "org.freedesktop.login1.Session"
    member := "Lock" }

/-- The event loop runs until no message waits. -/
def BusState.drained (p : BusState) : BusState :=
  exec stepBus p (List.replicate p.queue.length (.dispatch true))

/-- Once no message waits, the callback has run for every `Lock` signal that logind has
emitted for our session, and for none of another session. -/
structure LockSignalsArrive (session : String) (p : BusState) : Prop where
  own : p.drained.callbacks.count (.system, loginLock session) =
    p.emitted.count (.system, loginLock session)
  others : ∀ c ∈ p.drained.callbacks, c.2.path = session

/-- The message is not a `Lock` signal of logind for our session, nor is it taken for
one of logind when it arrives for another session. -/
def Unrelated (session : String) (p : BusState) : BusEvent → Prop
  | .message bus m => (bus, m) ≠ (.system, loginLock session) ∧
      (p.bus = some bus → p.lockSignalSlot.any (·.accepts m) = true → m.path = session)
  | _ => True

/-- What a step on the buses does to the compositor. -/
def compositorEvent (p : BusState) : BusEvent → Option Event
  | .message .. => none
  | .dispatch bufferOk =>
      if p.bus.isSome ∧ ∃ m ∈ p.queue.head?, p.lockSignalSlot.any (·.accepts m) = true then
        some (.lockSignal bufferOk)
      else none
  | .compositor e => some e

theorem stepBus_compositor (p : BusState) (e : BusEvent) :
    (stepBus p e).compositor = exec step p.compositor (compositorEvent p e).toList := by
  cases e with
  | message bus m => rfl
  | compositor e => rfl
  | dispatch bufferOk =>
      rw [stepBus, dbusDispatchCb, compositorEvent]
      rcases hbus : p.bus with _ | bus
      · rfl
      · rcases hqueue : p.queue with _ | ⟨m, queue⟩
        · rfl
        · by_cases hm : p.lockSignalSlot.any (·.accepts m) = true
          · simp [hm]
          · simp [hm]

theorem exec_stepBus_compositor (p : BusState) (events : List BusEvent) :
    ∃ own, (exec stepBus p events).compositor = exec step p.compositor own := by
  induction events generalizing p with
  | nil => exact ⟨[], rfl⟩
  | cons e events ih =>
      obtain ⟨own, hown⟩ := ih (stepBus p e)
      refine ⟨(compositorEvent p e).toList ++ own, ?_⟩
      rw [exec_cons, hown, stepBus_compositor, exec, exec, exec, List.foldl_append]

/-- The match on the connection selects the message. -/
def BusState.selects (p : BusState) (m : Message) : Bool :=
  p.lockSignalSlot.any (·.accepts m)

/-- What `zen_dbus_init` leaves and dispatching keeps: the connection, if there is one,
is on the user bus, and every message comes from there. -/
structure OnUserBus (p : BusState) : Prop where
  bus : ∀ bus ∈ p.bus, bus = .user
  callbacks : ∀ c ∈ p.callbacks, c.1 = .user
  queue : p.bus = none → p.queue = []

section Dispatch

variable {p : BusState}

theorem dbusDispatchCb_cons {bus : Bus} {m : Message} {queue : List Message}
    (hbus : p.bus = some bus) (hqueue : p.queue = m :: queue) (bufferOk : Bool) :
    (dbusDispatchCb p bufferOk).bus = p.bus ∧
      (dbusDispatchCb p bufferOk).lockSignalSlot = p.lockSignalSlot ∧
      (dbusDispatchCb p bufferOk).queue = queue ∧
      (dbusDispatchCb p bufferOk).emitted = p.emitted ∧
      (dbusDispatchCb p bufferOk).callbacks =
        p.callbacks ++ if p.selects m then [(bus, m)] else [] := by
  rw [dbusDispatchCb, hbus, hqueue]
  dsimp only
  split
  · next hm => simp [BusState.selects, hm]
  · next hm => simp [BusState.selects, hm]

theorem dbusDispatchCb_cases (p : BusState) (bufferOk : Bool) :
    dbusDispatchCb p bufferOk = p ∨
      ∃ bus m queue, p.bus = some bus ∧ p.queue = m :: queue := by
  rcases hbus : p.bus with _ | bus
  · exact .inl (by rw [dbusDispatchCb, hbus])
  · rcases hqueue : p.queue with _ | ⟨m, queue⟩
    · exact .inl (by rw [dbusDispatchCb, hbus, hqueue])
    · exact .inr ⟨bus, m, queue, rfl, rfl⟩

theorem exec_dispatch_callbacks {bus : Bus} (hbus : p.bus = some bus) {queue : List Message}
    (hqueue : p.queue = queue) (bufferOk : Bool) :
    (exec stepBus p (List.replicate queue.length (.dispatch bufferOk))).callbacks =
      p.callbacks ++ (queue.filter p.selects).map (bus, ·) := by
  induction queue generalizing p with
  | nil => simp
  | cons m queue ih =>
      obtain ⟨hbus', hslot, hqueue', -, hcallbacks⟩ := dbusDispatchCb_cons hbus hqueue bufferOk
      have hselects : (dbusDispatchCb p bufferOk).selects = p.selects := by
        funext m'
        rw [BusState.selects, hslot, BusState.selects]
      rw [List.length_cons, List.replicate_succ, exec_cons, stepBus,
        ih (hbus'.trans hbus) hqueue', hcallbacks, hselects, List.filter_cons, List.append_assoc]
      split <;> rfl

theorem OnUserBus.drained_callbacks (h : OnUserBus p) :
    p.drained.callbacks = p.callbacks ++ (p.queue.filter p.selects).map (.user, ·) := by
  rcases hbus : p.bus with _ | bus
  · rw [BusState.drained, h.queue hbus]
    simp
  · rw [BusState.drained, exec_dispatch_callbacks hbus rfl, h.bus bus hbus]

theorem OnUserBus.step (h : OnUserBus p) (e : BusEvent) : OnUserBus (stepBus p e) := by
  cases e with
  | compositor e => exact ⟨h.bus, h.callbacks, h.queue⟩
  | message bus m =>
      refine ⟨h.bus, h.callbacks, fun hnone => ?_⟩
      have hnone : p.bus = none := hnone
      rw [stepBus, if_neg (by rw [hnone]; simp)]
      exact h.queue hnone
  | dispatch bufferOk =>
      rcases dbusDispatchCb_cases p bufferOk with hsame | ⟨bus, m, queue, hbus, hqueue⟩
      · rw [stepBus, hsame]
        exact h
      · obtain ⟨hbus', -, -, -, hcallbacks⟩ := dbusDispatchCb_cons hbus hqueue bufferOk
        refine ⟨fun b hb => h.bus b (hbus' ▸ hb), fun c hc => ?_, fun hnone => ?_⟩
        · rw [stepBus, hcallbacks] at hc
          rcases List.mem_append.mp hc with hc | hc
          · exact h.callbacks c hc
          · split at hc
            · rw [List.mem_singleton.mp hc]
              exact h.bus bus hbus
            · exact absurd hc List.not_mem_nil
        · rw [stepBus, hbus', hbus] at hnone
          cases hnone

end Dispatch

section Arrive

variable {session : String} {p : BusState}

theorem OnUserBus.lockSignalsArrive_iff (h : OnUserBus p) :
    LockSignalsArrive session p ↔
      (.system, loginLock session) ∉ p.emitted ∧
        (∀ c ∈ p.callbacks, c.2.path = session) ∧
        ∀ m ∈ p.queue, p.selects m = true → m.path = session := by
  have hdrained := h.drained_callbacks
  have hnone : p.drained.callbacks.count (.system, loginLock session) = 0 := by
    rw [List.count_eq_zero, hdrained]
    intro hmem
    rcases List.mem_append.mp hmem with hc | hc
    · cases h.callbacks _ hc
    · obtain ⟨m, -, hm⟩ := List.mem_map.mp hc
      cases hm
  constructor
  · intro harrive
    refine ⟨?_, fun c hc => ?_, fun m hm hselects => ?_⟩
    · rw [← List.count_eq_zero, ← harrive.own]
      exact hnone
    · refine harrive.others c ?_
      rw [hdrained]
      exact List.mem_append_left _ hc
    · refine harrive.others (.user, m) ?_
      rw [hdrained]
      exact List.mem_append_right _
        (List.mem_map_of_mem (List.mem_filter.mpr ⟨hm, hselects⟩))
  · rintro ⟨hemitted, hcallbacks, hqueue⟩
    constructor
    · rw [hnone, List.count_eq_zero.mpr hemitted]
    · intro c hc
      rw [hdrained] at hc
      rcases List.mem_append.mp hc with hc | hc
      · exact hcallbacks c hc
      · obtain ⟨m, hm, rfl⟩ := List.mem_map.mp hc
        exact hqueue m (List.mem_filter.mp hm).1 (List.mem_filter.mp hm).2

theorem message_lockSignalsArrive_iff (h : OnUserBus p) (harrive : LockSignalsArrive session p)
    (bus : Bus) (m : Message) :
    LockSignalsArrive session (stepBus p (.message bus m)) ↔
      Unrelated session p (.message bus m) := by
  rw [(h.step (.message bus m)).lockSignalsArrive_iff]
  obtain ⟨hemitted, hcallbacks, hqueue⟩ := h.lockSignalsArrive_iff.mp harrive
  constructor
  · rintro ⟨hemitted', -, hqueue'⟩
    refine ⟨fun heq => hemitted' ?_, fun hbus hselects => hqueue' m ?_ hselects⟩
    · rw [stepBus, heq]
      exact List.mem_append_right _ List.mem_cons_self
    · rw [stepBus, if_pos hbus]
      exact List.mem_append_right _ List.mem_cons_self
  · rintro ⟨hne, hselected⟩
    refine ⟨fun hmem => ?_, hcallbacks, fun m' hm' hselects => ?_⟩
    · rcases List.mem_append.mp hmem with hmem | hmem
      · exact hemitted hmem
      · exact hne (List.mem_singleton.mp hmem).symm
    · change m' ∈ ite _ _ _ at hm'
      split at hm'
      · next hbus =>
          rcases List.mem_append.mp hm' with hm' | hm'
          · exact hqueue m' hm' hselects
          · obtain rfl := List.mem_singleton.mp hm'
            exact hselected hbus hselects
      · exact hqueue m' hm' hselects

theorem dispatch_lockSignalsArrive (h : OnUserBus p) (harrive : LockSignalsArrive session p)
    (bufferOk : Bool) : LockSignalsArrive session (stepBus p (.dispatch bufferOk)) := by
  have hstep := h.step (.dispatch bufferOk)
  rcases dbusDispatchCb_cases p bufferOk with hsame | ⟨bus, m, queue, hbus, hcons⟩
  · rwa [stepBus, hsame]
  obtain ⟨hemitted, hcallbacks, hqueue⟩ := h.lockSignalsArrive_iff.mp harrive
  obtain ⟨-, hslot, hqueue', hemitted', hcallbacks'⟩ := dbusDispatchCb_cons hbus hcons bufferOk
  rw [hcons] at hqueue
  rw [hstep.lockSignalsArrive_iff, stepBus, hemitted', hcallbacks', hqueue']
  refine ⟨hemitted, fun c hc => ?_, fun m' hm' hselects => ?_⟩
  · rcases List.mem_append.mp hc with hc | hc
    · exact hcallbacks c hc
    · split at hc
      · next hselects =>
          rw [List.mem_singleton.mp hc]
          exact hqueue m List.mem_cons_self hselects
      · exact absurd hc List.not_mem_nil
  · rw [BusState.selects, hslot] at hselects
    exact hqueue m' (List.mem_cons_of_mem _ hm') hselects

theorem stepBus_lockSignalsArrive_iff (h : OnUserBus p) (harrive : LockSignalsArrive session p)
    (e : BusEvent) : LockSignalsArrive session (stepBus p e) ↔ Unrelated session p e := by
  cases e with
  | compositor e =>
      have hcompositor := (h.step (.compositor e)).lockSignalsArrive_iff.mpr
        (h.lockSignalsArrive_iff.mp harrive)
      exact iff_of_true hcompositor trivial
  | message bus m => exact message_lockSignalsArrive_iff h harrive bus m
  | dispatch bufferOk => exact iff_of_true (dispatch_lockSignalsArrive h harrive bufferOk) trivial

end Arrive

section Runs

variable (session : String) (s : ZenCompositor) (calls : DbusCalls) (matchOk : Bool)

theorem busCreated_onUserBus : OnUserBus (busCreated s calls matchOk) where
  bus bus hbus := by
    change bus ∈ zenDbusInit calls at hbus
    rw [zenDbusInit] at hbus
    repeat' split at hbus
    all_goals first | exact (Option.some.inj hbus).symm | cases hbus
  callbacks c hc := absurd hc List.not_mem_nil
  queue _ := rfl

/-- In every run the lock callback runs for each `Lock` signal of our session, and for
none of another one, exactly when logind never emits one for our session and no selected
message comes from elsewhere: the match is on the user bus, where logind is not. -/
theorem run_lockSignalsArrive_iff (events : List BusEvent) :
    Along stepBus (fun p e => LockSignalsArrive session (stepBus p e))
        (busCreated s calls matchOk) events ↔
      Along stepBus (Unrelated session) (busCreated s calls matchOk) events := by
  have hcreated := busCreated_onUserBus s calls matchOk
  refine along_iff_along (P := fun _ _ => True)
    (I := fun p => OnUserBus p ∧ LockSignalsArrive session p)
    (fun p e hp _ harrive => ⟨hp.1.step e, harrive⟩)
    (fun p e hp _ => stepBus_lockSignalsArrive_iff hp.1 hp.2 e) (along_true _ _)
    ⟨hcreated, hcreated.lockSignalsArrive_iff.mpr ⟨?_, ?_, ?_⟩⟩
  · exact List.not_mem_nil
  · exact fun c hc => absurd hc List.not_mem_nil
  · exact fun m hm => absurd hm List.not_mem_nil

end Runs

/-- Our session is told to lock, and nobody listens. -/
theorem login_lock_is_not_heard :
    let session := "/org/freedesktop/login1/session/_31"
    let p := busCreated (created [] [] true)
      { openUser := true, addObjectVtable := true, requestName := true, getFd := true
        addFd := true } true
    let events : List BusEvent := [.message .system (loginLock session), .dispatch true]
    p.lockSignalSlot = some lockSignalRule ∧
      (exec stepBus p events).queue = [] ∧ (exec stepBus p events).callbacks = [] ∧
      (exec stepBus p events).compositor.lock.locked = false ∧
      ¬ Along stepBus (fun p e => LockSignalsArrive session (stepBus p e)) p events := by
  refine ⟨rfl, rfl, rfl, rfl, fun h => ?_⟩
  have hcount := h.1.own
  exact absurd hcount (by decide)

end ZenOS.Compositor
