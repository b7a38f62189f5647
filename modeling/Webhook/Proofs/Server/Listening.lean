import Webhook.Proofs.Server.Owner

/-!
# That a server listens

The notifier of a call publishes that the server listens, and the drainer that it is draining.
Neither waits for the other: the address may be bound before the call is told to stop, afterwards,
or while the drainer is on its way.

What a server has published is `Orderly`: it listens next after it was configured or not at all.  The
notifier records what it has published in a step of its own, and nothing keeps it from that step.  So
the records and the notifiers that still have to make theirs are as many as the publications
(`Accounts`, `kept_accounts`).  Both together are `listening_published_once`.
-/

namespace Webhook

/-- An event that says that the server listens. -/
def Event.isListening : Event → Bool
  | .serverListening .. => true
  | _ => false

namespace Server

/-! ## What is published -/

/-- What a server can have published, the latest first. -/
inductive Orderly : List State → Prop where
  | configured : Orderly [.configured, .created]
  | listening : Orderly [.listening, .configured, .created]
  | draining {past : List State} (h : Orderly past) : Orderly (.draining :: past)
  | stopped {past : List State} (h : Orderly past) : Orderly (.stopped :: past)

namespace Orderly

/-- A server is configured only before all else. -/
theorem configured_inv {past : List State} (h : Orderly (.configured :: past)) :
    past = [.created] := by
  cases h with
  | configured => rfl

/-- A server listens next after it was configured. -/
theorem listening_inv {published later earlier : List State} (h : Orderly published)
    (heq : published = later ++ .listening :: earlier) : earlier = [.configured, .created] := by
  induction h generalizing later with
  | configured =>
      have hmem : State.listening ∈ [State.configured, .created] := by
        rw [heq]
        exact List.mem_append_right _ (.head _)
      simp at hmem
  | listening =>
      cases later with
      | nil => exact (List.cons.inj heq).2.symm
      | cons state later =>
          have hmem : State.listening ∈ [State.configured, .created] := by
            rw [(List.cons.inj heq).2]
            exact List.mem_append_right _ (.head _)
          simp at hmem
  | draining _ ih | stopped _ ih =>
      cases later with
      | nil => cases heq
      | cons state later => exact ih (List.cons.inj heq).2

theorem count_listening_le {published : List State} (h : Orderly published) :
    published.count .listening ≤ 1 := by
  induction h with
  | configured => decide
  | listening => decide
  | draining _ ih => rwa [List.count_cons_of_ne (by decide)]
  | stopped _ ih => rwa [List.count_cons_of_ne (by decide)]

end Orderly

/-- The notifier publishes only when nothing but the configuration was published before. -/
theorem Move.orderly {s : Server} {c c' : Call} {shared : Shared} (hmove : Move s c shared c')
    (h : Orderly s.shared.published) : Orderly shared.published := by
  cases hmove with
  | tell => exact h
  | call hcall =>
      cases hcall with
      | stop => exact .stopped h
      | _ => exact h
  | notifier hnotifier =>
      cases hnotifier with
      | publish _ hstate =>
          have hpublished : s.shared.published = .configured :: s.shared.past := by
            rw [Shared.published, hstate]
          rw [Shared.published_publish, hpublished]
          rw [hpublished] at h
          rw [h.configured_inv]
          exact .listening
      | _ => exact h
  | drainer hdrainer =>
      cases hdrainer with
      | publish => exact .draining h
      | _ => exact h

theorem kept_orderly : Kept fun s => Orderly s.published where
  make _ h := h
  move _ _ _ _ _ h _ hmove := hmove.orderly h

/-! ## What is recorded -/

/-- How often it is recorded that the server listens. -/
def Shared.listenings (s : Shared) : Nat := s.log.countP (·.event.isListening)

@[simp] theorem Shared.listenings_publish (next : State) (s : Shared) :
    (s.publish next).listenings = s.listenings := rfl

@[simp] theorem Shared.listenings_record (span : Span) (event : Event) (s : Shared) :
    (s.record span event).listenings = s.listenings + event.isListening.toNat := by
  rw [listenings, record, List.countP_append, List.countP_singleton]
  cases event.isListening <;> rfl

@[simp] theorem isListening_endEvent (refusal : Option SystemFault) :
    (endEvent refusal).isListening = false := by
  cases refusal <;> rfl

/-- The notifier has published that the server listens, and has to record it. -/
@[simp] def NotifierPhase.owes : NotifierPhase → Bool
  | published => true
  | absent | waiting | looking | notified | ended => false

/-- How many notifiers have to record that the server listens. -/
def owing (s : Server) : Nat := s.calls.countP (·.notifier.phase.owes)

/-- Each publication is recorded, or will be. -/
def Accounts (s : Server) : Prop :=
  s.shared.listenings + s.owing = s.shared.published.count .listening

/-- A list with another item in one place counts that item in place of the old one. -/
theorem countP_set_add {α : Type} (p : α → Bool) {y : α} : ∀ {xs : List α} {i : Nat} {x : α},
    xs[i]? = some x → (xs.set i y).countP p + (p x).toNat = xs.countP p + (p y).toNat
  | x :: xs, 0, _, h => by
      obtain rfl := Option.some.inj h
      rw [List.set_cons_zero, List.countP_cons, List.countP_cons]
      cases p x <;> cases p y <;> simp
  | z :: xs, i + 1, x, h => by
      have ih : (xs.set i y).countP p + (p x).toNat = xs.countP p + (p y).toNat :=
        countP_set_add p h
      rw [List.set_cons_succ, List.countP_cons, List.countP_cons]
      omega

theorem owing_moved {s : Server} {i : Nat} {c : Call} (hc : s.calls[i]? = some c) (c' : Call)
    (shared : Shared) :
    (s.moved i shared c').owing + c.notifier.phase.owes.toNat
      = s.owing + c'.notifier.phase.owes.toNat :=
  countP_set_add (fun c : Call => c.notifier.phase.owes) hc

/-- The notifier owes a record from its publication until it makes it, and no other move makes or
owes one. -/
theorem Move.balance {s : Server} {c c' : Call} {shared : Shared} (hmove : Move s c shared c')
    (hchosen : c.phase = .chosen → c.notifier.phase = .absent) :
    shared.listenings + c'.notifier.phase.owes.toNat + s.shared.published.count .listening
      = s.shared.listenings + c.notifier.phase.owes.toNat + shared.published.count .listening := by
  cases hmove with
  | tell => rfl
  | call hcall =>
      cases hcall with
      | prepare h => simp [hchosen h]
      | turnBack => simp [Event.isListening]
      | finish | stop => simp
      | _ => rfl
  | notifier hnotifier =>
      cases hnotifier with
      | publish h =>
          simp [h]
          omega
      | record h => simp [h, Event.isListening]
      | wake h | wait h | learn h | giveUp h | pass h => simp [h]
  | drainer hdrainer =>
      cases hdrainer with
      | publish => simp
      | record => simp [Event.isListening]
      | _ => rfl

/-- A call that has just been chosen has not started its notifier. -/
theorem Owned.notifier_absent {s : Server} (h : s.Owned) {i : Nat} {c : Call}
    (hc : s.calls[i]? = some c) (hphase : c.phase = .chosen) : c.notifier.phase = .absent := by
  rcases h.idle_or_owns hc with hidle | howns
  · simp [hidle.notifier]
  · exact howns.notifier.mpr hphase

theorem kept_accounts : Kept fun s => s.Owned ∧ s.Accounts where
  make s h := by
    obtain ⟨howned, haccounts⟩ := h
    refine ⟨kept_owned.make s howned, ?_⟩
    have howing : s.withCall.owing = s.owing := by
      rw [owing, withCall, List.countP_append]
      rfl
    rw [Accounts, howing]
    exact haccounts
  move s i c shared c' h hc hmove := by
    obtain ⟨howned, haccounts⟩ := h
    refine ⟨kept_owned.move s i c shared c' howned hc hmove, ?_⟩
    have hbalance := hmove.balance (howned.notifier_absent hc)
    have howing := owing_moved hc c' shared
    show shared.listenings + (s.moved i shared c').owing = shared.published.count .listening
    rw [Accounts] at haccounts
    omega

theorem accounts_ready (config : Config) (span : Span) : (ready config span).Accounts := rfl

/-! ## Both together -/

theorem notifierStep_notified {s : Server} {c : Call} (hphase : c.notifier.phase = .notified) :
    ∃ c', notifierStep s c =
      some (if s.shared.state = .configured then s.shared.publish .listening else s.shared, c') := by
  simp only [notifierStep, hphase]
  split
  next => exact ⟨_, rfl⟩
  next => exact ⟨_, rfl⟩

theorem notifierStep_owes {s : Server} {c : Call} (hphase : c.notifier.phase.owes = true) :
    ∃ c', notifierStep s c =
      some (s.shared.record s.span (.serverListening s.config.host s.config.tls.isSome), c') := by
  cases h : c.notifier.phase with
  | published =>
      simp only [notifierStep, h]
      exact ⟨_, rfl⟩
  | _ => simp [h] at hphase

/-- Whatever a new server goes through, it listens next after it was configured or not at all, and
so once at most.  That it listens is recorded as often as it is published, but for the notifiers that
have published it and have to make their record.

A notifier that knows that the address is bound can go on at any time.  It publishes that the server
listens if nothing was published since the configuration, and nothing otherwise.  A notifier that has
to make its record can do so at any time. -/
theorem listening_published_once {config : Config} {span : Span} {files : String → Tls.FileState}
    {s t : Server} {actions : List Action} (hnew : new config span files = .ok s)
    (hrun : s.perform actions = some t) :
    (∀ later earlier, t.published = later ++ .listening :: earlier →
      earlier = [.configured, .created]) ∧
    t.published.count .listening ≤ 1 ∧
    t.shared.listenings + t.owing = t.published.count .listening ∧
    ∀ (i : Nat) (c : Call), t.calls[i]? = some c →
      (c.notifier.phase = .notified → ∃ u, t.step (.notifier i) = some u ∧
        u.shared = if t.state = .configured then t.shared.publish .listening else t.shared) ∧
      (c.notifier.phase.owes = true → ∃ u, t.step (.notifier i) = some u ∧
        u.shared = t.shared.record t.span (.serverListening t.config.host t.config.tls.isSome)) := by
  obtain rfl := eq_ready_of_new hnew
  have hstart : Orderly (ready config span).published := .configured
  have horderly : Orderly t.published := kept_orderly.perform hstart hrun
  obtain ⟨-, haccounts⟩ :=
    kept_accounts.perform ⟨owned_ready config span, accounts_ready config span⟩ hrun
  refine ⟨fun later earlier heq => horderly.listening_inv heq, horderly.count_listening_le,
    haccounts, fun i c hc => ⟨fun hphase => ?_, fun howes => ?_⟩⟩
  · obtain ⟨c', hstep⟩ := notifierStep_notified (s := t) hphase
    exact ⟨_, step_notifier hc hstep, rfl⟩
  · obtain ⟨c', hstep⟩ := notifierStep_owes (s := t) howes
    exact ⟨_, step_notifier hc hstep, rfl⟩

/-- A call that is told to stop while its notifier is about to publish. -/
def stopWhileBinding : List Action :=
  [.make, .call 0, .call 0, .call 0, .bind 0 none, .notifier 0, .notifier 0,
    .tell 0, .drainer 0, .drainer 0, .drainer 0, .notifier 0, .drainer 0]

theorem listening_published_once_stopWhileBinding : ∃ t c,
    sample.perform stopWhileBinding = some t ∧ t.calls[0]? = some c ∧
    t.published = [.draining, .listening, .configured, .created] ∧
    t.shared.listenings + t.owing = 1 ∧
    ∃ u, t.step (.notifier 0) = some u ∧
      u.shared = t.shared.record t.span (.serverListening t.config.host t.config.tls.isSome) := by
  have hend : (sample.perform stopWhileBinding).map
      (fun t => (t.published, t.calls[0]?.map (·.notifier.phase.owes)))
      = some ([.draining, .listening, .configured, .created], some true) := by decide +kernel
  obtain ⟨t, hrun, ht⟩ := Option.map_eq_some_iff.mp hend
  obtain ⟨hpublished, hcall⟩ := Prod.mk.inj ht
  obtain ⟨c, hc, howes⟩ := Option.map_eq_some_iff.mp hcall
  have hnew : new (.new ⟨.v4 [127, 0, 0, 1], 8443⟩) ⟨"server", []⟩ (fun _ => .missing) = .ok sample :=
    rfl
  obtain ⟨-, -, haccounts, hgoes⟩ := listening_published_once hnew hrun
  refine ⟨t, c, hrun, hc, hpublished, ?_, (hgoes 0 c hc).2 howes⟩
  rw [haccounts, hpublished]
  decide

-- A drainer that publishes first keeps the server from listening.
example : (sample.perform [.make, .call 0, .call 0, .call 0, .tell 0, .drainer 0, .drainer 0,
    .drainer 0, .drainer 0, .bind 0 none, .notifier 0, .notifier 0, .notifier 0]).map (·.published)
    = some [.draining, .configured, .created] := by decide +kernel

end Server
end Webhook
