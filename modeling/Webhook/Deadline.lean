/-!
# Deadlines of connections

A client that connects and says nothing, or that stops reading, would keep its connection for ever.
A guarded stream passes every call on to the stream inside and answers as that one does.  Only when
the inner stream has nothing to say does a deadline count.

The first read has a deadline from the start, which is lifted as soon as a read has been answered.
Writing has a deadline while it is held up: from the first call that was not answered until one is
answered, or until the deadline has passed.  Writing in one piece or several and flushing share it.
Shutting down has none.

Time is a number of milliseconds since some moment in the past.
-/

namespace Webhook.Deadline

/-- A call on a stream. -/
inductive Call where
  | read
  | write
  | writeVectored
  | flush
  | shutdown
  deriving DecidableEq, Repr

/-- A call that the deadline of writing is for. -/
def Call.isWriting : Call → Bool
  | write | writeVectored | flush => true
  | read | shutdown => false

/-- What a client failed to do in time. -/
inductive Stall where
  /-- It has sent nothing. -/
  | firstRead
  /-- It does not take what is sent. -/
  | write
  deriving DecidableEq, Repr

/-- The words for a stall. -/
def Stall.message : Stall → String
  | firstRead => "client stalled on first read"
  | write => "client stalled on write"

/-- The answer of a guarded stream to a call. -/
inductive Answer (α : Type) where
  /-- Not yet. -/
  | pending
  /-- The answer of the stream inside. -/
  | ready (result : α)
  /-- The deadline has passed. -/
  | stalled (what : Stall)
  deriving DecidableEq, Repr

/-- The deadlines of a stream. -/
structure Guard where
  /-- How long a client may stall. -/
  timeout : Nat
  /-- The deadline of the first read, until a read is answered. -/
  firstRead : Option Nat
  /-- The deadline of writing, while it is held up. -/
  write : Option Nat
  deriving DecidableEq, Repr

namespace Guard

/-- The deadlines of a stream that is accepted now. -/
def start (timeout now : Nat) : Guard := ⟨timeout, some (now + timeout), none⟩

variable {α : Type}

/-- Answers a read.  The stream inside answers first, if it has an answer. -/
def onRead (g : Guard) (now : Nat) : Option α → Answer α × Guard
  | some result => (.ready result, { g with firstRead := none })
  | none => (if g.firstRead.any (· ≤ now) then .stalled .firstRead else .pending, g)

/-- Answers a call that writes. -/
def onWrite (g : Guard) (now : Nat) : Option α → Answer α × Guard
  | some result => (.ready result, { g with write := none })
  | none =>
    let deadline := g.write.getD (now + g.timeout)
    if deadline ≤ now then (.stalled .write, { g with write := none })
    else (.pending, { g with write := some deadline })

/-- Answers a call that has no deadline. -/
def onShutdown (g : Guard) : Option α → Answer α × Guard
  | some result => (.ready result, g)
  | none => (.pending, g)

/-- Answers a call, given what the stream inside answers. -/
def poll (g : Guard) (now : Nat) (call : Call) (inner : Option α) : Answer α × Guard :=
  match call with
  | .read => g.onRead now inner
  | .write | .writeVectored | .flush => g.onWrite now inner
  | .shutdown => g.onShutdown inner

end Guard

/-- Something that happens to a guarded stream. -/
inductive Step (α : Type) where
  /-- Time passes. -/
  | advance (duration : Nat)
  /-- A call is made, and the stream inside gives an answer or none. -/
  | poll (call : Call) (inner : Option α)

/-- A guarded stream at some time. -/
structure Session where
  /-- The time. -/
  now : Nat
  /-- The deadlines. -/
  guard : Guard
  deriving DecidableEq, Repr

namespace Session

variable {α : Type}

/-- The session of a stream that is accepted now. -/
def start (timeout now : Nat) : Session := ⟨now, .start timeout now⟩

/-- Takes a step.  There is an answer if the step is a call. -/
def step (s : Session) : Step α → Option (Answer α) × Session
  | .advance duration => (none, { s with now := s.now + duration })
  | .poll call inner =>
    let (answer, guard) := s.guard.poll s.now call inner
    (some answer, { s with guard := guard })

/-- Takes steps one after the other, and gives what each of them answers. -/
def run (s : Session) : List (Step α) → List (Option (Answer α)) × Session
  | [] => ([], s)
  | first :: more =>
    let (answer, next) := s.step first
    let (answers, last) := next.run more
    (answer :: answers, last)

end Session

/-- Accepts a stream at a given time, if the stream inside is accepted. -/
def accept {ε : Type} (timeout now : Nat) (inner : Except ε Unit) : Except ε Session :=
  inner.map fun _ => .start timeout now

example : ((Session.start 10 0).run [.advance 9, .poll .read (none : Option Unit), .advance 1,
    .poll .read none]).1 = [none, some .pending, none, some (.stalled .firstRead)] := by decide

end Webhook.Deadline
