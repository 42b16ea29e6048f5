import ZenOS.Compositor.Dbus
import ZenOS.Library.ReadAhead

/-!
The connection of `dbus.c` with its two stages: the messages that sd-bus has read and
those that are still on the socket.  Only the socket wakes the event loop.
-/

namespace ZenOS.Compositor.EventLoop

open ZenOS.Library.Runs ZenOS.Library.ReadAhead

/-- `sd_bus_match_signal`: it fails before its call is sent, or its reply comes in behind
the messages `others`. -/
inductive MatchCall where
  | notSent
  | replied (others : List Message) (ok : Bool)

/-- What happens on the bus while `zen_compositor_create` runs: which calls succeed, the
messages that arrive before each synchronous call and those that it reads before its
reply. -/
structure Setup where
  calls : DbusCalls
  beforeRequestName : List Message
  duringRequestName : List Message
  beforeMatch : List Message
  matchCall : MatchCall

structure BusLoop where
  compositor : ZenCompositor
  connection : Option (Connection Message)
  lockSignalSlot : Option MatchRule

/-- `zen_dbus_init`: `sd_bus_request_name` waits for its reply. -/
def zenDbusInit (setup : Setup) : Option (Connection Message) :=
  (Compositor.zenDbusInit setup.calls).map fun _ =>
    (Connection.opened.arrive setup.beforeRequestName).call setup.duringRequestName

/-- The part of `zen_lock_init` that calls `sd_bus_match_signal`. -/
def zenLockInitMatch (c : Connection Message) :
    MatchCall → Connection Message × Option MatchRule
  | .notSent => (c, none)
  | .replied others ok => (c.call others, if ok then some lockSignalRule else none)

def zenCompositorCreate (s : ZenCompositor) (setup : Setup) : BusLoop :=
  match zenDbusInit setup with
  | none => { compositor := s, connection := none, lockSignalSlot := none }
  | some c =>
      let p := zenLockInitMatch (c.arrive setup.beforeMatch) setup.matchCall
      { compositor := s, connection := some p.1, lockSignalSlot := p.2 }

inductive LoopEvent where
  | arrive (m : Message)
  /-- the event loop looks at the descriptor of the bus -/
  | dispatch (bufferOk : Bool)
  | compositor (e : Event)
  /-- the event loop has nothing to do and waits -/
  | idle

def dbusDispatchCb (p : BusLoop) (c : Connection Message) (bufferOk : Bool) : BusLoop :=
  let taken := c.process
  let p := { p with connection := some taken.2 }
  if taken.1.any fun m => p.lockSignalSlot.any (·.accepts m) then
    { p with compositor := step p.compositor (.lockSignal bufferOk) }
  else p

def stepLoop (p : BusLoop) : LoopEvent → BusLoop
  | .arrive m => { p with connection := p.connection.map (·.arrive [m]) }
  | .dispatch bufferOk =>
      match p.connection with
      | some c => if c.readable then dbusDispatchCb p c bufferOk else p
      | none => p
  | .compositor e => { p with compositor := step p.compositor e }
  | .idle => p

/-- No message waits in the connection unless its socket is readable. -/
def AllSettled (p : BusLoop) : Prop :=
  ∀ c ∈ p.connection, c.Settled

/-- No message waits when the event loop goes idle with the socket not readable. -/
def NoneWaits (p : BusLoop) (e : LoopEvent) : Prop :=
  e = .idle → AllSettled p

/-- The messages that the two synchronous calls read. -/
def Setup.readAhead (setup : Setup) : List Message :=
  setup.beforeRequestName ++ setup.duringRequestName ++
    match setup.matchCall with
    | .notSent => []
    | .replied others _ => setup.beforeMatch ++ others

/-- The messages that arrive after the last synchronous call. -/
def Setup.onSocket (setup : Setup) : List Message :=
  match setup.matchCall with
  | .notSent => setup.beforeMatch
  | .replied _ _ => []

/-- There is no connection, the calls have read nothing but their replies, or a message
is on the socket behind what they have read. -/
def Setup.ReadsNoOther (setup : Setup) : Prop :=
  Compositor.zenDbusInit setup.calls = none ∨ setup.readAhead = [] ∨ setup.onSocket ≠ []

/-- The compositor on its connection, whose two stages are one queue. -/
structure Refines (p : BusLoop) (q : BusState) : Prop where
  compositor : q.compositor = p.compositor
  bus : q.bus = p.connection.map fun _ => .user
  slot : q.lockSignalSlot = p.lockSignalSlot
  queue : ∀ c ∈ p.connection, q.queue = c.waiting

/-- What a step of the event loop is on one queue. -/
def busEvents (p : BusLoop) : LoopEvent → List BusEvent
  | .arrive m => [.message .user m]
  | .dispatch bufferOk =>
      if p.connection.any (·.readable) then [.dispatch bufferOk] else []
  | .compositor e => [.compositor e]
  | .idle => []

theorem zenCompositorCreate_connection (s : ZenCompositor) (setup : Setup) :
    (zenCompositorCreate s setup).connection =
      (Compositor.zenDbusInit setup.calls).map fun _ =>
        { readQueue := setup.readAhead, socket := setup.onSocket } := by
  rw [zenCompositorCreate, zenDbusInit]
  cases Compositor.zenDbusInit setup.calls with
  | none => rfl
  | some bus =>
      rw [Setup.readAhead, Setup.onSocket]
      cases setup.matchCall with
      | notSent => simp [zenLockInitMatch, Connection.call, Connection.arrive, Connection.opened]
      | replied others ok =>
          simp [zenLockInitMatch, Connection.call, Connection.arrive, Connection.opened]

section Refinement

variable {p : BusLoop} {q : BusState}

theorem dbusDispatchCb_refines {c : Connection Message} (h : Refines p q)
    (hc : p.connection = some c) (hreadable : c.readable = true) (bufferOk : Bool) :
    Refines (dbusDispatchCb p c bufferOk) (Compositor.dbusDispatchCb q bufferOk) := by
  obtain ⟨m, rest, htaken, hwaiting, hrest⟩ := c.process_of_readable hreadable
  have hbus : q.bus = some .user := by rw [h.bus, hc]; rfl
  have hqueue : q.queue = m :: rest := (h.queue c hc).trans hwaiting
  rw [dbusDispatchCb, Compositor.dbusDispatchCb, hbus, hqueue, htaken, h.slot, h.compositor]
  dsimp only [Option.any_some]
  split
  · exact ⟨rfl, rfl, rfl, fun _ hc' => Option.some.inj hc' ▸ hrest.symm⟩
  · exact ⟨rfl, rfl, rfl, fun _ hc' => Option.some.inj hc' ▸ hrest.symm⟩

theorem stepLoop_refines (h : Refines p q) (e : LoopEvent) :
    Refines (stepLoop p e) (exec stepBus q (busEvents p e)) := by
  cases e with
  | idle => exact h
  | compositor e =>
      exact ⟨congrArg (step · e) h.compositor, h.bus, h.slot, h.queue⟩
  | arrive m =>
      cases hc : p.connection with
      | none =>
          have hbus : q.bus = none := by rw [h.bus, hc]; rfl
          refine ⟨h.compositor, ?_, h.slot, ?_⟩
          · rw [stepLoop, hc]
            exact hbus
          · rw [stepLoop, hc]
            rintro _ ⟨⟩
      | some c =>
          have hbus : q.bus = some .user := by rw [h.bus, hc]; rfl
          refine ⟨h.compositor, ?_, h.slot, ?_⟩
          · rw [stepLoop, hc]
            exact hbus
          · rw [stepLoop, hc]
            rintro _ ⟨⟩
            show ite _ _ _ = _
            rw [if_pos hbus, h.queue c hc, Connection.waiting_arrive]
  | dispatch bufferOk =>
      cases hc : p.connection with
      | none =>
          rw [stepLoop, busEvents, hc]
          exact h
      | some c =>
          rw [stepLoop, busEvents, hc]
          dsimp only [Option.any_some]
          split
          · next hreadable => exact dbusDispatchCb_refines h hc hreadable bufferOk
          · exact h

theorem zenCompositorCreate_refines (s : ZenCompositor) (setup : Setup) :
    ∃ q, Refines (zenCompositorCreate s setup) q := by
  let p := zenCompositorCreate s setup
  exact ⟨{ compositor := p.compositor
           bus := p.connection.map fun _ => .user
           lockSignalSlot := p.lockSignalSlot
           queue := p.connection.elim [] Connection.waiting
           emitted := []
           callbacks := [] },
    rfl, rfl, rfl, fun c hc => by rw [Option.mem_def.mp hc]; rfl⟩

theorem exec_stepLoop_refines (h : Refines p q) (events : List LoopEvent) :
    ∃ own, Refines (exec stepLoop p events) (exec stepBus q own) := by
  induction events generalizing p q with
  | nil => exact ⟨[], h⟩
  | cons e events ih =>
      obtain ⟨own, hown⟩ := ih (stepLoop_refines h e)
      refine ⟨busEvents p e ++ own, ?_⟩
      rw [exec_append]
      exact hown

end Refinement

section Waiting

variable {p : BusLoop}

theorem dbusDispatchCb_connection (p : BusLoop) (c : Connection Message) (bufferOk : Bool) :
    (dbusDispatchCb p c bufferOk).connection = some c.process.2 := by
  rw [dbusDispatchCb]
  dsimp only
  split <;> rfl

theorem arrive_allSettled (p : BusLoop) (m : Message) : AllSettled (stepLoop p (.arrive m)) := by
  intro c' hc'
  obtain ⟨c, -, rfl⟩ := Option.map_eq_some_iff.mp hc'
  exact c.settled_arrive (List.cons_ne_nil m [])

theorem AllSettled.step (h : AllSettled p) (e : LoopEvent) : AllSettled (stepLoop p e) := by
  cases e with
  | idle => exact h
  | compositor e => exact h
  | arrive m => exact arrive_allSettled p m
  | dispatch bufferOk =>
      rw [stepLoop]
      cases hc : p.connection with
      | none => exact h
      | some c =>
          dsimp only
          split
          · rw [AllSettled, dbusDispatchCb_connection]
            rintro _ ⟨⟩
            exact (h c hc).process
          · exact h

theorem AllSettled.exec (h : AllSettled p) (events : List LoopEvent) :
    AllSettled (exec stepLoop p events) :=
  (along_true p events).invariant (fun _ e hp _ => hp.step e) h

theorem allSettled_of_arrive {m : Message} {events : List LoopEvent}
    (hm : .arrive m ∈ events) (p : BusLoop) : AllSettled (exec stepLoop p events) := by
  obtain ⟨before, after, rfl⟩ := List.append_of_mem hm
  rw [exec_append, exec_cons]
  exact (arrive_allSettled _ m).exec after

theorem stepLoop_connection {c : Connection Message} (hc : p.connection = some c)
    (hreadable : c.readable = false) {e : LoopEvent} (he : ∀ m, e ≠ .arrive m) :
    (stepLoop p e).connection = some c := by
  cases e with
  | idle => exact hc
  | compositor e => exact hc
  | arrive m => exact absurd rfl (he m)
  | dispatch bufferOk =>
      rw [stepLoop, hc]
      dsimp only
      rw [if_neg (by rw [hreadable]; simp)]
      exact hc

theorem exec_stepLoop_connection {c : Connection Message} (hc : p.connection = some c)
    (hreadable : c.readable = false) {events : List LoopEvent}
    (hevents : ∀ m, .arrive m ∉ events) :
    (exec stepLoop p events).connection = some c := by
  induction events generalizing p with
  | nil => exact hc
  | cons e events ih =>
      apply ih (stepLoop_connection hc hreadable fun m hm => hevents m (hm ▸ List.mem_cons_self))
      intro m hm
      exact hevents m (List.mem_cons_of_mem _ hm)

end Waiting

section Runs

variable (s : ZenCompositor) (setup : Setup)

theorem zenCompositorCreate_allSettled_iff :
    AllSettled (zenCompositorCreate s setup) ↔ setup.ReadsNoOther := by
  rw [AllSettled, zenCompositorCreate_connection, Setup.ReadsNoOther]
  cases Compositor.zenDbusInit setup.calls with
  | none => exact iff_of_true (by rintro _ ⟨⟩) (.inl rfl)
  | some bus =>
      constructor
      · intro h
        by_cases hsocket : setup.onSocket = []
        · exact .inr (.inl (h _ rfl hsocket))
        · exact .inr (.inr hsocket)
      · rintro h _ ⟨⟩ hsocket
        rcases h with h | h | h
        · cases h
        · exact h
        · exact absurd hsocket h

/-- No message is left in the queue when the event loop goes idle exactly when the calls of
the initialisation have read none but their replies, or a message has arrived before the
loop goes idle for the first time. -/
theorem run_noneWaits_iff (events : List LoopEvent) :
    Along stepLoop NoneWaits (zenCompositorCreate s setup) events ↔
      setup.ReadsNoOther ∨
        ∀ before after, events = before ++ .idle :: after → ∃ m, .arrive m ∈ before := by
  rw [along_iff_split]
  constructor
  · intro h
    by_contra hnot
    push Not at hnot
    obtain ⟨hreads, before, after, rfl, hnone⟩ := hnot
    apply hreads
    rw [← zenCompositorCreate_allSettled_iff s]
    intro c hc
    by_contra hsettled
    have hunreadable : c.readable = false := by
      rw [Connection.settled_iff, not_or] at hsettled
      exact Bool.not_eq_true _ ▸ hsettled.2
    have hidle := h before .idle after rfl rfl c
      (exec_stepLoop_connection hc hunreadable hnone)
    exact hsettled hidle
  · rintro h before e after hsplit rfl
    rcases h with h | h
    · exact ((zenCompositorCreate_allSettled_iff s setup).mpr h).exec before
    · obtain ⟨m, hm⟩ := h before after hsplit
      exact allSettled_of_arrive hm _

end Runs

/-- A request comes in before the reply to `sd_bus_request_name`, and is not answered. -/
theorem request_is_left_waiting :
    let request : Message :=
      { sender := ":1.5", path := "/org/zenos/Compositor", interface := "org.zenos.Compositor"
        member := "ToggleDarkMode" }
    let setup : Setup :=
      { calls := { openUser := true, addObjectVtable := true, requestName := true
                   getFd := true, addFd := true }
        beforeRequestName := [], duringRequestName := [request], beforeMatch := []
        matchCall := .replied [] true }
    let p := zenCompositorCreate (created [] [] true) setup
    (exec stepLoop p [.dispatch true, .idle]).connection =
        some { readQueue := [request], socket := [] } ∧
      ¬ Along stepLoop NoneWaits p [.dispatch true, .idle] := by
  refine ⟨rfl, fun h => ?_⟩
  have hidle := h.2.1 rfl _ rfl rfl
  cases hidle

end ZenOS.Compositor.EventLoop
