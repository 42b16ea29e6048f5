import Mathlib.Tactic.TypeStar

/-!
A connection that reads ahead.  A call that waits for its reply takes everything off the
socket that comes before it; what it took waits in a queue of the connection, of which
the readiness of the socket says nothing.
-/

namespace ZenOS.Library.ReadAhead

structure Connection (α : Type*) where
  readQueue : List α
  socket : List α
  deriving DecidableEq

namespace Connection

variable {α : Type*}

def opened : Connection α :=
  { readQueue := [], socket := [] }

def arrive (c : Connection α) (messages : List α) : Connection α :=
  { c with socket := c.socket ++ messages }

/-- A call is sent and its reply comes in behind the messages `others`. -/
def call (c : Connection α) (others : List α) : Connection α :=
  { readQueue := c.readQueue ++ (c.socket ++ others), socket := [] }

/-- One message is taken, from the queue if it holds any. -/
def process (c : Connection α) : Option α × Connection α :=
  match c.readQueue, c.socket with
  | m :: readQueue, socket => (some m, { readQueue, socket })
  | [], m :: socket => (some m, { readQueue := [], socket })
  | [], [] => (none, { readQueue := [], socket := [] })

def readable (c : Connection α) : Bool :=
  !c.socket.isEmpty

/-- All that was received and not yet processed, oldest first. -/
def waiting (c : Connection α) : List α :=
  c.readQueue ++ c.socket

/-- When the socket is not readable, no message waits. -/
def Settled (c : Connection α) : Prop :=
  c.socket = [] → c.readQueue = []

variable (c : Connection α)

@[simp] theorem waiting_arrive (messages : List α) :
    (c.arrive messages).waiting = c.waiting ++ messages :=
  (List.append_assoc _ _ _).symm

theorem process_of_readable (h : c.readable = true) :
    ∃ m rest, c.process.1 = some m ∧ c.waiting = m :: rest ∧ c.process.2.waiting = rest := by
  obtain ⟨readQueue, socket⟩ := c
  cases readQueue with
  | cons m readQueue => exact ⟨m, _, rfl, rfl, rfl⟩
  | nil =>
      cases socket with
      | nil => cases h
      | cons m socket => exact ⟨m, _, rfl, rfl, rfl⟩

theorem settled_arrive {messages : List α} (h : messages ≠ []) :
    (c.arrive messages).Settled := by
  intro hsocket
  exact absurd (List.append_eq_nil_iff.mp hsocket).2 h

variable {c}

/-- The queue is emptied before the socket is touched. -/
theorem Settled.process (h : c.Settled) : c.process.2.Settled := by
  obtain ⟨readQueue, socket⟩ := c
  cases readQueue with
  | cons m readQueue =>
      intro hsocket
      cases h hsocket
  | nil =>
      intro _
      cases socket with
      | nil => rfl
      | cons m socket => rfl

theorem settled_iff : c.Settled ↔ c.readQueue = [] ∨ c.readable = true := by
  rw [Settled, readable, Bool.not_eq_true', List.isEmpty_eq_false_iff]
  constructor
  · intro h
    by_cases hsocket : c.socket = []
    · exact .inl (h hsocket)
    · exact .inr hsocket
  · rintro (hqueue | hsocket) hempty
    · exact hqueue
    · exact absurd hempty hsocket

end Connection

end ZenOS.Library.ReadAhead
