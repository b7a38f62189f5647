import Mathlib.Data.List.DropRight
import Webhook.Deadline

/-!
# When a guarded stream gives up

A guarded stream keeps two deadlines and changes them call by call.  This module says what comes of
that in terms of the calls alone.

`Session.moments` are the calls of a run, each with the stream as the call finds it.  What is kept
by time and by calls holds at every call of a run (`Session.moments_inv`), and both deadlines are
such: the deadline of the first read is there until a read has been answered, and the deadline of
writing counts from the first of the calls by which writing is held up (`heldUpSince`).

`firstRead_bounded` says when a read gives up, and `writing_bounded` when a call that writes does.
Calls of the other kinds do not matter to either (`Session.answersTo_filter`).
-/

namespace Webhook.Deadline

variable {α : Type}

/-- Whether a call reads. -/
def Call.isReading : Call → Bool
  | read => true
  | write | writeVectored | flush | shutdown => false

/-- Whether an answer leaves the caller waiting. -/
def Answer.isPending : Answer α → Bool
  | pending => true
  | ready _ | stalled _ => false

/-! ## The calls of a run -/

/-- A call in a run. -/
structure Moment (α : Type) where
  /-- The stream as the call finds it. -/
  session : Session
  /-- The call. -/
  call : Call
  /-- The answer of the stream inside, if it has one. -/
  inner : Option α

namespace Moment

/-- The time of the call. -/
def time (m : Moment α) : Nat := m.session.now

/-- What the call is answered. -/
def answer (m : Moment α) : Answer α := (m.session.guard.poll m.session.now m.call m.inner).1

/-- The deadlines that the call leaves. -/
def guard (m : Moment α) : Guard := (m.session.guard.poll m.session.now m.call m.inner).2

/-- The stream as the call leaves it. -/
def next (m : Moment α) : Session := { m.session with guard := m.guard }

/-- The stream inside answers first. -/
theorem answer_of_inner {m : Moment α} {result : α} (h : m.inner = some result) :
    m.answer = .ready result := by
  obtain ⟨s, call, inner⟩ := m
  obtain rfl : inner = some result := h
  cases call <;> rfl

end Moment

namespace Session

/-- The calls of a run, in order. -/
def moments (s : Session) : List (Step α) → List (Moment α)
  | [] => []
  | .advance duration :: more => (s.step (.advance duration : Step α)).2.moments more
  | .poll call inner :: more => ⟨s, call, inner⟩ :: (s.step (.poll call inner)).2.moments more

theorem moments_advance (s : Session) (duration : Nat) (more : List (Step α)) :
    s.moments (.advance duration :: more) = moments { s with now := s.now + duration } more := rfl

theorem moments_poll (s : Session) (call : Call) (inner : Option α) (more : List (Step α)) :
    s.moments (.poll call inner :: more)
      = ⟨s, call, inner⟩ :: (Moment.mk s call inner).next.moments more := rfl

theorem run_cons (s : Session) (first : Step α) (more : List (Step α)) :
    (s.run (first :: more)).1 = (s.step first).1 :: ((s.step first).2.run more).1 := rfl

/-- The answers of a run are those of its calls. -/
theorem answers_run (steps : List (Step α)) :
    ∀ s : Session, (s.run steps).1.filterMap id = (s.moments steps).map Moment.answer := by
  induction steps with
  | nil =>
      intro s
      rfl
  | cons first more ih =>
      intro s
      cases first with
      | advance duration =>
          rw [run_cons, moments_advance, ← ih]
          rfl
      | poll call inner =>
          rw [run_cons, moments_poll, List.map_cons, ← ih]
          rfl

/-- What time keeps, and each call keeps when it is added to those before it, holds at every call of
a run together with the calls before it. -/
theorem moments_inv {P : List (Moment α) → Session → Prop}
    (hadvance : ∀ past s duration, P past s → P past { s with now := s.now + duration })
    (hcall : ∀ past (m : Moment α), P past m.session → P (past ++ [m]) m.next)
    {m : Moment α} {later : List (Moment α)} :
    ∀ {steps : List (Step α)} {s : Session} (done : List (Moment α)) {past : List (Moment α)},
      P done s → s.moments steps = past ++ m :: later → P (done ++ past) m.session := by
  intro steps
  induction steps with
  | nil =>
      intro s done past _ h
      cases past <;> cases h
  | cons first more ih =>
      intro s done past hs h
      cases first with
      | advance duration => exact ih done (hadvance done s duration hs) h
      | poll call inner =>
          rw [moments_poll] at h
          cases past with
          | nil =>
              obtain ⟨rfl, -⟩ := List.cons.inj h
              rwa [List.append_nil]
          | cons p past =>
              obtain ⟨rfl, hmore⟩ := List.cons.inj h
              have hnext := ih _ (hcall done ⟨s, call, inner⟩ hs) hmore
              rwa [List.append_assoc] at hnext

end Session

/-! ## What one call does to the deadlines -/

namespace Guard

variable (g : Guard) (now : Nat) (call : Call) (inner : Option α)

theorem onRead_none : g.onRead now (none : Option α)
    = (if g.firstRead.any (· ≤ now) then .stalled .firstRead else .pending, g) := rfl

theorem onWrite_none : g.onWrite now (none : Option α)
    = if g.write.getD (now + g.timeout) ≤ now then (.stalled .write, { g with write := none })
      else (.pending, { g with write := some (g.write.getD (now + g.timeout)) }) := rfl

@[simp] theorem timeout_onWrite : (g.onWrite now inner).2.timeout = g.timeout := by
  cases inner with
  | some result => rfl
  | none =>
      rw [onWrite_none]
      split <;> rfl

@[simp] theorem firstRead_onWrite : (g.onWrite now inner).2.firstRead = g.firstRead := by
  cases inner with
  | some result => rfl
  | none =>
      rw [onWrite_none]
      split <;> rfl

@[simp] theorem write_onRead : (g.onRead now inner).2.write = g.write := by
  cases inner <;> rfl

@[simp] theorem timeout_onRead : (g.onRead now inner).2.timeout = g.timeout := by
  cases inner <;> rfl

@[simp] theorem onShutdown_snd : (g.onShutdown inner).2 = g := by
  cases inner <;> rfl

theorem poll_of_isWriting {call : Call} (h : call.isWriting = true) :
    g.poll now call inner = g.onWrite now inner := by
  cases call with
  | write => rfl
  | writeVectored => rfl
  | flush => rfl
  | read => cases h
  | shutdown => cases h

/-- Nothing changes how long a client may stall. -/
theorem timeout_poll : (g.poll now call inner).2.timeout = g.timeout := by
  cases call <;> simp [poll]

/-- Only a read changes the deadline of the first one. -/
theorem firstRead_poll {call : Call} (h : call.isReading = false) :
    (g.poll now call inner).2.firstRead = g.firstRead := by
  cases call with
  | read => cases h
  | _ => simp [poll]

/-- Only a call that writes changes the deadline of writing. -/
theorem write_poll {call : Call} (h : call.isWriting = false) :
    (g.poll now call inner).2.write = g.write := by
  cases call with
  | read => simp [poll]
  | shutdown => simp [poll]
  | write => cases h
  | writeVectored => cases h
  | flush => cases h

variable {g}

/-- Of the deadlines only that of the first read matters to a read. -/
theorem onRead_congr {g' : Guard} (h : g.firstRead = g'.firstRead) :
    (g.onRead now inner).1 = (g'.onRead now inner).1 ∧
      (g.onRead now inner).2.firstRead = (g'.onRead now inner).2.firstRead := by
  cases inner with
  | some result => exact ⟨rfl, rfl⟩
  | none =>
      refine ⟨?_, h⟩
      rw [onRead_none, onRead_none, h]

/-- Of the deadlines only that of writing matters to a call that writes. -/
theorem onWrite_congr {g' : Guard} (htimeout : g.timeout = g'.timeout)
    (hwrite : g.write = g'.write) :
    (g.onWrite now inner).1 = (g'.onWrite now inner).1 ∧
      (g.onWrite now inner).2.write = (g'.onWrite now inner).2.write := by
  cases inner with
  | some result => exact ⟨rfl, rfl⟩
  | none =>
      rw [onWrite_none, onWrite_none, htimeout, hwrite]
      split <;> exact ⟨rfl, rfl⟩

end Guard

/-! ## Calls that do not matter -/

/-- Whether a step is a call of some kinds, or time that passes. -/
def Step.isAmong (kinds : Call → Bool) : Step α → Bool
  | advance _ => true
  | poll call _ => kinds call

/-- What the calls of some kinds are answered in a run. -/
def Session.answersTo (kinds : Call → Bool) (s : Session) (steps : List (Step α)) :
    List (Answer α) :=
  ((s.moments steps).filter fun m => kinds m.call).map Moment.answer

theorem Session.answersTo_advance (kinds : Call → Bool) (s : Session) (duration : Nat)
    (more : List (Step α)) : s.answersTo kinds (.advance duration :: more)
      = answersTo kinds { s with now := s.now + duration } more := rfl

theorem Session.answersTo_poll (kinds : Call → Bool) (s : Session) (call : Call)
    (inner : Option α) (more : List (Step α)) : s.answersTo kinds (.poll call inner :: more)
      = if kinds call then
          (Moment.mk s call inner).answer :: (Moment.mk s call inner).next.answersTo kinds more
        else (Moment.mk s call inner).next.answersTo kinds more := by
  rw [answersTo, moments_poll, List.filter_cons]
  cases kinds call <;> rfl

/-- Calls of other kinds may be left out when the calls of some kinds are answered by a part of the
deadlines that all others leave alone. -/
theorem Session.answersTo_filter {β : Type} {kinds : Call → Bool} (part : Guard → β)
    (hother : ∀ (g : Guard) (now : Nat) (call : Call) (inner : Option α), kinds call = false →
      part (g.poll now call inner).2 = part g)
    (hsame : ∀ (g g' : Guard) (now : Nat) (call : Call) (inner : Option α), part g = part g' →
      kinds call = true → (g.poll now call inner).1 = (g'.poll now call inner).1 ∧
        part (g.poll now call inner).2 = part (g'.poll now call inner).2)
    (steps : List (Step α)) :
    ∀ {s s' : Session}, s.now = s'.now → part s.guard = part s'.guard →
      s.answersTo kinds (steps.filter (Step.isAmong kinds)) = s'.answersTo kinds steps := by
  induction steps with
  | nil =>
      intro s s' _ _
      rfl
  | cons first more ih =>
      intro s s' hnow hpart
      cases first with
      | advance duration =>
          have hlater : s.now + duration = s'.now + duration := congrArg (· + duration) hnow
          rw [List.filter_cons_of_pos rfl, answersTo_advance, answersTo_advance]
          exact ih hlater hpart
      | poll call inner =>
          have hkept : Step.isAmong kinds (.poll call inner) = kinds call := rfl
          rw [List.filter_cons, hkept, answersTo_poll]
          cases hkind : kinds call with
          | false =>
              have hleft : part s.guard = part (Moment.mk s' call inner).guard :=
                hpart.trans (hother s'.guard s'.now call inner hkind).symm
              exact ih hnow hleft
          | true =>
              obtain ⟨hanswer, hguard⟩ := hsame s.guard s'.guard s.now call inner hpart hkind
              have hfirst : (Moment.mk s call inner).answer = (Moment.mk s' call inner).answer := by
                rw [Moment.answer, Moment.answer, hanswer, hnow]
              have hnext : part (Moment.mk s call inner).guard
                  = part (Moment.mk s' call inner).guard := by
                rw [Moment.guard, Moment.guard, hguard, hnow]
              rw [if_pos rfl, if_pos rfl, answersTo_poll, if_pos hkind, hfirst]
              exact congrArg _ (ih hnow hnext)

/-! ## The first read -/

/-- Whether a read has been answered by the stream inside. -/
def Moment.isAnsweredRead (m : Moment α) : Bool := m.call.isReading && m.inner.isSome

/-- A call lifts the deadline of the first read when it is a read that is answered. -/
theorem Moment.firstRead_guard (m : Moment α) :
    m.guard.firstRead = if m.isAnsweredRead then none else m.session.guard.firstRead := by
  obtain ⟨s, call, inner⟩ := m
  cases hcall : call.isReading with
  | false =>
      have hnot : isAnsweredRead ⟨s, call, inner⟩ = false := by simp [isAnsweredRead, hcall]
      rw [hnot, guard, Guard.firstRead_poll _ _ _ hcall]
      rfl
  | true =>
      cases call with
      | read => cases inner <;> rfl
      | _ => cases hcall

/-- The deadline of the first read is there until a read is answered. -/
theorem firstRead_of_moments {timeout now : Nat} {steps : List (Step α)}
    {past later : List (Moment α)} {m : Moment α}
    (h : (Session.start timeout now).moments steps = past ++ m :: later) :
    m.session.guard.firstRead
      = if past.any Moment.isAnsweredRead then none else some (now + timeout) := by
  refine Session.moments_inv (P := fun past s => s.guard.firstRead
    = if past.any Moment.isAnsweredRead then none else some (now + timeout))
    (fun _ _ _ hs => hs) (fun past m hs => ?_) [] rfl h
  rw [Moment.next, Moment.firstRead_guard, hs, List.any_append, List.any_cons, List.any_nil,
    Bool.or_false]
  cases past.any Moment.isAnsweredRead <;> cases m.isAnsweredRead <;> rfl

theorem any_isAnsweredRead {past : List (Moment α)} :
    past.any Moment.isAnsweredRead = false ↔ ∀ p ∈ past, p.call = .read → p.inner = none := by
  rw [List.any_eq_false]
  refine forall₂_congr fun p _ => ?_
  obtain ⟨s, call, inner⟩ := p
  cases call <;> cases inner <;> simp [Moment.isAnsweredRead, Call.isReading]

theorem Moment.answer_read {m : Moment α} (h : m.call = .read) (hinner : m.inner = none) :
    m.answer = if m.session.guard.firstRead.any (· ≤ m.time) then .stalled .firstRead
      else .pending := by
  obtain ⟨s, call, inner⟩ := m
  subst h hinner
  rfl

/-- A read that the stream inside does not answer gives up or has to wait. -/
theorem stalled_firstRead_iff {timeout accepted : Nat} {steps : List (Step α)}
    {past later : List (Moment α)} {m : Moment α}
    (h : (Session.start timeout accepted).moments steps = past ++ m :: later)
    (hread : m.call = .read) (hinner : m.inner = none) :
    (m.answer = .stalled .firstRead ∨ m.answer = .pending) ∧
    (m.answer = .stalled .firstRead ↔
      (∀ p ∈ past, p.call = .read → p.inner = none) ∧ accepted + timeout ≤ m.time) := by
  rw [m.answer_read hread hinner, firstRead_of_moments h, ← any_isAnsweredRead]
  cases past.any Moment.isAnsweredRead with
  | true => simp
  | false =>
      by_cases hdue : accepted + timeout ≤ m.time
      · simp [hdue]
      · simp [hdue]

/-- Reads are answered as if there were no calls of other kinds. -/
theorem answersTo_reading (s : Session) (steps : List (Step α)) :
    s.answersTo Call.isReading (steps.filter (Step.isAmong Call.isReading))
      = s.answersTo Call.isReading steps := by
  refine Session.answersTo_filter Guard.firstRead
    (fun g now call inner hcall => g.firstRead_poll now inner hcall) ?_ steps rfl rfl
  intro g g' now call inner hpart hcall
  cases call with
  | read => exact Guard.onRead_congr now inner hpart
  | _ => cases hcall

/-- A read of an accepted stream is answered by the stream inside as soon as that has an answer.
When it has none, the read gives up exactly when no read has been answered before and the time that
a client may stall has passed since the stream was accepted, and otherwise it has to wait.  Writing,
flushing and shutting down do not matter. -/
theorem firstRead_bounded {ε : Type} {timeout accepted : Nat} {inner : Except ε Unit} {s : Session}
    (h : accept timeout accepted inner = .ok s) (steps : List (Step α)) :
    (s.run steps).1.filterMap id = (s.moments steps).map Moment.answer ∧
    (∀ past m later, s.moments steps = past ++ m :: later → m.call = .read →
      (∀ result, m.inner = some result → m.answer = .ready result) ∧
      (m.inner = none →
        (m.answer = .stalled .firstRead ∨ m.answer = .pending) ∧
        (m.answer = .stalled .firstRead ↔
          (∀ p ∈ past, p.call = .read → p.inner = none) ∧ accepted + timeout ≤ m.time))) ∧
    s.answersTo Call.isReading (steps.filter (Step.isAmong Call.isReading))
      = s.answersTo Call.isReading steps ∧
    Stall.firstRead.message = "client stalled on first read" := by
  obtain rfl : s = .start timeout accepted := by
    cases inner with
    | error e => cases h
    | ok u => exact (Except.ok.inj h).symm
  exact ⟨Session.answers_run steps _, fun past m later hm hread =>
    ⟨fun _ => m.answer_of_inner, stalled_firstRead_iff hm hread⟩, answersTo_reading _ steps, rfl⟩

/-- A client that says nothing for as long as it may, while something is written to it. -/
def silentClient : List (Step Unit) :=
  [.advance 9, .poll .write (some ()), .poll .read none, .advance 1, .poll .read none]

theorem firstRead_bounded_silentClient : ∃ s past m,
    accept 10 5 (.ok () : Except Unit Unit) = .ok s ∧ s.moments silentClient = past ++ m :: [] ∧
    m.call = .read ∧ m.inner = none ∧ m.answer = .stalled .firstRead := by
  let s := Session.start 10 5
  have haccept : accept 10 5 (.ok () : Except Unit Unit) = .ok s := rfl
  obtain ⟨-, hreads, -⟩ := firstRead_bounded haccept silentClient
  obtain ⟨-, hread⟩ := hreads ((s.moments silentClient).take 2) _ [] rfl rfl
  refine ⟨s, (s.moments silentClient).take 2, _, haccept, rfl, rfl, rfl,
    (hread rfl).2.mpr ⟨?_, ?_⟩⟩
  · rw [← any_isAnsweredRead]
    rfl
  · decide

/-! ## Writing -/

/-- The calls that write. -/
def writingCalls (past : List (Moment α)) : List (Moment α) := past.filter fun m => m.call.isWriting

theorem writingCalls_concat (past : List (Moment α)) (m : Moment α) :
    writingCalls (past ++ [m])
      = if m.call.isWriting then writingCalls past ++ [m] else writingCalls past := by
  rw [writingCalls, List.filter_append, List.filter_singleton, writingCalls]
  cases m.call.isWriting with
  | false => exact List.append_nil _
  | true => rfl

/-- The time since when writing is held up, if it is: that of the first of the calls that write and
have been left waiting since the last one that was not. -/
def heldUpSince (past : List (Moment α)) : Option Nat :=
  ((writingCalls past).rtakeWhile (·.answer.isPending)).head?.map Moment.time

theorem heldUpSince_other (past : List (Moment α)) {m : Moment α} (h : m.call.isWriting = false) :
    heldUpSince (past ++ [m]) = heldUpSince past := by
  rw [heldUpSince, writingCalls_concat, h]
  rfl

/-- A call that writes and is left waiting holds writing up, unless it was held up before. -/
theorem heldUpSince_pending (past : List (Moment α)) {m : Moment α} (h : m.call.isWriting = true)
    (hanswer : m.answer.isPending = true) :
    heldUpSince (past ++ [m]) = some ((heldUpSince past).getD m.time) := by
  rw [heldUpSince, writingCalls_concat, if_pos h, List.rtakeWhile_concat, if_pos hanswer,
    List.head?_append, heldUpSince]
  cases (List.rtakeWhile _ _).head? <;> rfl

/-- A call that writes and is not left waiting ends the hold-up. -/
theorem heldUpSince_settled (past : List (Moment α)) {m : Moment α} (h : m.call.isWriting = true)
    (hanswer : m.answer.isPending = false) : heldUpSince (past ++ [m]) = none := by
  rw [heldUpSince, writingCalls_concat, if_pos h, List.rtakeWhile_concat, hanswer]
  rfl

namespace Moment

theorem answer_of_isWriting {m : Moment α} (h : m.call.isWriting = true) (hinner : m.inner = none) :
    m.answer = if m.session.guard.write.getD (m.time + m.session.guard.timeout) ≤ m.time then
      .stalled .write else .pending := by
  obtain ⟨s, call, inner⟩ := m
  obtain rfl : inner = none := hinner
  rw [answer, Guard.poll_of_isWriting _ _ _ h, Guard.onWrite_none]
  exact apply_ite Prod.fst _ _ _

theorem write_of_isWriting {m : Moment α} (h : m.call.isWriting = true) :
    m.guard.write = if m.answer.isPending then
      some (m.session.guard.write.getD (m.time + m.session.guard.timeout)) else none := by
  obtain ⟨s, call, inner⟩ := m
  rw [guard, answer, Guard.poll_of_isWriting _ _ _ h]
  cases inner with
  | some result => rfl
  | none =>
      rw [Guard.onWrite_none]
      split <;> rfl

/-- A call that writes and is left waiting has a deadline that lies ahead. -/
theorem exists_deadline {m : Moment α} (h : m.call.isWriting = true)
    (hanswer : m.answer = .pending) :
    ∃ deadline, m.guard.write = some deadline ∧ m.time < deadline := by
  have hpending : m.answer.isPending = true := by rw [hanswer]; rfl
  refine ⟨_, (write_of_isWriting h).trans (if_pos hpending), ?_⟩
  cases hinner : m.inner with
  | some result =>
      rw [answer_of_inner hinner] at hanswer
      cases hanswer
  | none =>
      rw [answer_of_isWriting h hinner] at hanswer
      split at hanswer
      next => cases hanswer
      next hahead => exact Nat.lt_of_not_le hahead

/-- A call that does not write gives up for another reason, if it does. -/
theorem answer_ne_stalled {m : Moment α} (h : m.call.isWriting = false) :
    m.answer ≠ .stalled .write := by
  cases hinner : m.inner with
  | some result => simp [answer_of_inner hinner]
  | none =>
      obtain ⟨s, call, inner⟩ := m
      obtain rfl : inner = none := hinner
      cases call with
      | read =>
          rw [answer_read rfl rfl]
          split <;> simp
      | shutdown => simp [answer, Guard.poll, Guard.onShutdown]
      | _ => cases h

/-- Shutting down is left to the stream inside. -/
theorem answer_shutdown {m : Moment α} (h : m.call = .shutdown) :
    m.answer = m.inner.elim .pending .ready := by
  obtain ⟨s, call, inner⟩ := m
  subst h
  cases inner <;> rfl

end Moment

/-- Writing has a deadline while it is held up, which counts from the start of the hold-up. -/
theorem write_of_moments {timeout now : Nat} {steps : List (Step α)} {past later : List (Moment α)}
    {m : Moment α} (h : (Session.start timeout now).moments steps = past ++ m :: later) :
    m.session.guard.timeout = timeout ∧
      m.session.guard.write = (heldUpSince past).map (· + timeout) := by
  refine Session.moments_inv (P := fun past s => s.guard.timeout = timeout ∧
    s.guard.write = (heldUpSince past).map (· + timeout))
    (fun _ _ _ hs => hs) (fun past m hs => ?_) [] ⟨rfl, rfl⟩ h
  obtain ⟨htimeout, hwrite⟩ := hs
  refine ⟨(m.session.guard.timeout_poll _ _ _).trans htimeout, ?_⟩
  rw [Moment.next]
  cases hcall : m.call.isWriting with
  | false =>
      rw [heldUpSince_other past hcall, ← hwrite]
      exact m.session.guard.write_poll _ _ hcall
  | true =>
      rw [Moment.write_of_isWriting hcall, htimeout, hwrite]
      cases hanswer : m.answer.isPending with
      | false =>
          rw [heldUpSince_settled past hcall hanswer]
          rfl
      | true =>
          rw [heldUpSince_pending past hcall hanswer]
          cases heldUpSince past <;> rfl

/-- A call that writes and that the stream inside does not answer gives up or has to wait. -/
theorem stalled_write_iff {timeout accepted : Nat} {steps : List (Step α)}
    {past later : List (Moment α)} {m : Moment α}
    (h : (Session.start timeout accepted).moments steps = past ++ m :: later)
    (hcall : m.call.isWriting = true) (hinner : m.inner = none) :
    (m.answer = .stalled .write ∨ m.answer = .pending) ∧
    (m.answer = .stalled .write ↔ (heldUpSince past).getD m.time + timeout ≤ m.time) := by
  obtain ⟨htimeout, hwrite⟩ := write_of_moments h
  have hdeadline : m.session.guard.write.getD (m.time + m.session.guard.timeout)
      = (heldUpSince past).getD m.time + timeout := by
    rw [htimeout, hwrite]
    cases heldUpSince past <;> rfl
  rw [Moment.answer_of_isWriting hcall hinner, hdeadline]
  by_cases hdue : (heldUpSince past).getD m.time + timeout ≤ m.time
  · simp [hdue]
  · simp [hdue]

/-- Calls that write are answered as if there were no others. -/
theorem answersTo_writing (s : Session) (steps : List (Step α)) :
    s.answersTo Call.isWriting (steps.filter (Step.isAmong Call.isWriting))
      = s.answersTo Call.isWriting steps := by
  refine Session.answersTo_filter (fun g => (g.timeout, g.write)) ?_ ?_ steps rfl rfl
  · intro g now call inner hcall
    rw [g.timeout_poll, g.write_poll now inner hcall]
  · intro g g' now call inner hpart hcall
    obtain ⟨htimeout, hwrite⟩ := Prod.mk.inj hpart
    obtain ⟨hanswer, hleft⟩ := Guard.onWrite_congr now inner htimeout hwrite
    rw [g.timeout_poll, g'.timeout_poll, g.poll_of_isWriting now inner hcall,
      g'.poll_of_isWriting now inner hcall]
    exact ⟨hanswer, Prod.ext htimeout hleft⟩

/-- A call that writes is answered by the stream inside as soon as that has an answer.  When it has
none, the call gives up exactly when the time that a client may stall has passed since the call by
which writing is held up, or since this very call if there is none, and otherwise it has to wait,
with a deadline that lies ahead.  All calls that write share the deadline.  The others leave it as
it is, do not give up for it and do not matter, and shutting down never gives up. -/
theorem writing_bounded (timeout accepted : Nat) (steps : List (Step α)) :
    let s := Session.start timeout accepted
    (s.run steps).1.filterMap id = (s.moments steps).map Moment.answer ∧
    (∀ past m later, s.moments steps = past ++ m :: later →
      (m.call.isWriting = true →
        (∀ result, m.inner = some result → m.answer = .ready result) ∧
        (m.inner = none →
          (m.answer = .stalled .write ∨ m.answer = .pending) ∧
          (m.answer = .stalled .write ↔
            (heldUpSince past).getD m.time + timeout ≤ m.time)) ∧
        (m.answer = .pending → ∃ deadline, m.guard.write = some deadline ∧ m.time < deadline)) ∧
      (m.call.isWriting = false →
        m.answer ≠ .stalled .write ∧ m.guard.write = m.session.guard.write) ∧
      (m.call = .shutdown → m.answer = m.inner.elim .pending .ready)) ∧
    s.answersTo Call.isWriting (steps.filter (Step.isAmong Call.isWriting))
      = s.answersTo Call.isWriting steps ∧
    Stall.write.message = "client stalled on write" := by
  intro s
  exact ⟨s.answers_run steps, fun past m later hm =>
    ⟨fun hcall => ⟨fun _ => m.answer_of_inner, stalled_write_iff hm hcall, m.exists_deadline hcall⟩,
      fun hcall => ⟨m.answer_ne_stalled hcall, m.session.guard.write_poll _ _ hcall⟩,
      m.answer_shutdown⟩, answersTo_writing s steps, rfl⟩

/-- A client that stops reading, starts again and stops once more, while calls of three kinds write
to it. -/
def slowClient : List (Step Unit) :=
  [.poll .write none, .advance 6, .poll .flush (some ()), .poll .flush none, .advance 7,
    .poll .writeVectored none, .poll .read none, .advance 3, .poll .write none]

theorem writing_bounded_slowClient : ∃ past m,
    (Session.start 10 0).moments slowClient = past ++ m :: [] ∧ m.call.isWriting = true ∧
    m.inner = none ∧ heldUpSince past = some 6 ∧ m.time = 16 ∧ m.answer = .stalled .write := by
  let past := ((Session.start 10 0).moments slowClient).take 5
  have hsince : heldUpSince past = some 6 := by decide
  obtain ⟨-, hcalls, -⟩ := writing_bounded 10 0 slowClient
  obtain ⟨hwriting, -⟩ := hcalls past _ [] rfl
  obtain ⟨-, hwaits, -⟩ := hwriting rfl
  refine ⟨past, _, rfl, rfl, rfl, hsince, rfl, (hwaits rfl).2.mpr ?_⟩
  rw [hsince]
  decide

end Webhook.Deadline
