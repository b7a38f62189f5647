import Webhook.Proofs.Server.Owner

/-!
# Which call serves

Any number of calls may run at the same time.  A call first reads what was published last, and then,
in a step of its own, looks whether another call has started to run the server and sets the flag that
says so.  It *takes over* when it is the one to set the flag.

What a call has read and whether it has taken over are facts about the run so far.  They show in how
far the call is (`Recounts`), and each action carries this on (`recounts_of_perform`).  At most one
call is as far as one that has taken over, so at most one call ever takes over
(`one_call_serves`).  All others stand aside: they have no tasks, change nothing but the log, and
return after two steps.
-/

namespace Webhook.Server

/-! ## Runs and their past -/

theorem perform_concat (s : Server) (past : List Action) (a : Action) :
    s.perform (past ++ [a]) = (s.perform past).bind fun t => t.step a := by
  rw [perform_append]
  cases s.perform past with
  | none => rfl
  | some t =>
      show (t.step a).bind (fun u => u.perform []) = t.step a
      exact Option.bind_fun_some (t.step a)

/-- What holds before all actions, and what each action carries on, holds after every run together
with the actions that were made. -/
theorem perform_inv {s : Server} {I : List Action → Server → Prop} (hstart : I [] s)
    (hstep : ∀ past t u a, s.perform past = some t → I past t → t.step a = some u →
      I (past ++ [a]) u) :
    ∀ (past : List Action) {rest : List Action} {t u : Server}, s.perform past = some t →
      I past t → t.perform rest = some u → I (past ++ rest) u
  | past, [], t, u, _, hpast, hrest => by
      obtain rfl := Option.some.inj hrest
      rwa [List.append_nil]
  | past, a :: rest, t, u, hrun, hpast, hrest => by
      rw [perform_cons] at hrest
      obtain ⟨v, hv, hrest⟩ := Option.bind_eq_some_iff.mp hrest
      have hnext : s.perform (past ++ [a]) = some v := by
        rw [perform_concat, hrun]
        exact hv
      have h := perform_inv hstart hstep (past ++ [a]) hnext (hstep past t v a hrun hpast hv) hrest
      rwa [List.append_assoc] at h

/-- In a run a call makes a step, when the server and the call are in a certain situation. -/
def Steps (s : Server) (actions : List Action) (i : Nat) (P : Server → Call → Prop) : Prop :=
  ∃ before after u c, actions = before ++ .call i :: after ∧ s.perform before = some u ∧
    u.calls[i]? = some c ∧ P u c

/-- A call has read that the server has stopped, when it began. -/
def ReadsStopped (s : Server) (actions : List Action) (i : Nat) : Prop :=
  s.Steps actions i fun u c => c.phase = .made ∧ u.state = .stopped

/-- A call has found that no other call runs the server, and has set the flag that one does. -/
def TakesOver (s : Server) (actions : List Action) (i : Nat) : Prop :=
  s.Steps actions i fun u c => c.phase = .admitted ∧ u.shared.started = false

theorem Steps.append {s : Server} {past : List Action} {i : Nat} {P : Server → Call → Prop}
    (h : s.Steps past i P) (rest : List Action) : s.Steps (past ++ rest) i P := by
  obtain ⟨before, after, u, c, rfl, hbefore, hc, hP⟩ := h
  exact ⟨before, after ++ rest, u, c, by simp, hbefore, hc, hP⟩

/-- The last action of a run may be the step of the call. -/
theorem steps_concat {s t : Server} {past : List Action} {a : Action} {i : Nat}
    {P : Server → Call → Prop} (hrun : s.perform past = some t) :
    s.Steps (past ++ [a]) i P ↔
      s.Steps past i P ∨ a = .call i ∧ ∃ c, t.calls[i]? = some c ∧ P t c := by
  constructor
  · rintro ⟨before, after, u, c, heq, hbefore, hc, hP⟩
    rcases List.eq_nil_or_concat after with rfl | ⟨after, b, rfl⟩
    · obtain ⟨rfl, ha⟩ := List.append_inj' heq rfl
      obtain rfl : t = u := Option.some.inj (hrun.symm.trans hbefore)
      exact .inr ⟨(List.cons.inj ha).1, c, hc, hP⟩
    · rw [List.concat_eq_append, ← List.cons_append, ← List.append_assoc] at heq
      exact .inl ⟨before, after, u, c, (List.append_inj' heq rfl).1, hbefore, hc, hP⟩
  · rintro (h | ⟨rfl, c, hc, hP⟩)
    · exact h.append [a]
    · exact ⟨past, [], t, c, rfl, hrun, hc, hP⟩

/-- Only calls that were made make steps. -/
theorem Steps.lt_length {s t : Server} {past : List Action} {i : Nat} {P : Server → Call → Prop}
    (h : s.Steps past i P) (hrun : s.perform past = some t) : i < t.calls.length := by
  obtain ⟨before, after, u, c, rfl, hbefore, hc, -⟩ := h
  rw [perform_append, hbefore] at hrun
  exact (kept_length (i + 1)).perform (List.getElem?_eq_some_iff.mp hc).1 hrun

theorem steps_of_mem {s t : Server} {past : List Action} {i : Nat} (hmem : .call i ∈ past)
    (hrun : s.perform past = some t) : s.Steps past i fun _ _ => True := by
  obtain ⟨before, after, rfl⟩ := List.append_of_mem hmem
  rw [perform_append] at hrun
  obtain ⟨u, hbefore, hrest⟩ := Option.bind_eq_some_iff.mp hrun
  rw [perform_cons] at hrest
  obtain ⟨v, hstep, -⟩ := Option.bind_eq_some_iff.mp hrest
  obtain ⟨c, shared, c', hc, -, -⟩ := onCall_inv hstep
  exact ⟨before, after, u, c, rfl, hbefore, hc, trivial⟩

/-! ## What shows of the past -/

/-- A call is as far as one that has read that the server has stopped. -/
def Call.IsLate (c : Call) : Prop :=
  c.phase = .late ∨ c.phase = .returned none ∧ c.notifier.phase = .absent

/-- A call is as far as one that has taken over. -/
def Call.IsInCharge (c : Call) : Prop := c.phase = .chosen ∨ c.notifier.phase ≠ .absent

/-- How many steps a call has made, unless it is in charge. -/
@[simp] def CallPhase.ownSteps : CallPhase → Nat
  | late | admitted => 1
  | returned _ => 2
  | _ => 0

/-- A call that is in charge has listened on the address without being refused. -/
@[simp] def CallPhase.hasBound : CallPhase → Bool
  | serving | served none | leftNotifier none | leftTasks none | published none | returned none =>
    true
  | _ => false

theorem Call.Idle.not_isInCharge {c : Call} (h : c.Idle) : ¬ c.IsInCharge := by
  rintro (hphase | hnotifier)
  · rcases h.phase with hc | hc | hc | hc | hc <;> simp [hc] at hphase
  · simp [h.notifier] at hnotifier

theorem Call.Owns.isInCharge {c : Call} {published : List State} (h : c.Owns published) :
    c.IsInCharge := by
  by_cases hphase : c.phase = .chosen
  · exact .inl hphase
  · exact .inr fun hnotifier => hphase (h.notifier.mp hnotifier)

theorem Owned.idle {s : Server} (h : s.Owned) {i : Nat} {c : Call} (hc : s.calls[i]? = some c)
    (hcharge : ¬ c.IsInCharge) : c.Idle :=
  (h.idle_or_owns hc).resolve_right fun howns => hcharge howns.isInCharge

/-- At most one call is in charge. -/
theorem Owned.eq_of_isInCharge {s : Server} (h : s.Owned) {i j : Nat} {c d : Call}
    (hc : s.calls[i]? = some c) (hd : s.calls[j]? = some d) (hcharge : c.IsInCharge)
    (hcharge' : d.IsInCharge) : i = j := by
  cases h with
  | free _ _ hidle => exact absurd hcharge (hidle i c hc).not_isInCharge
  | taken k o _ ho howns hidle =>
      have hself : ∀ {n : Nat} {e : Call}, s.calls[n]? = some e → e.IsInCharge → n = k := by
        intro n e he hin
        by_cases hn : n = k
        · exact hn
        · exact absurd hin (hidle n e he hn).not_isInCharge
      exact (hself hc hcharge).trans (hself hd hcharge').symm

/-! ## How the past shows -/

/-- How far a call is tells what it has been through. -/
structure Recounts (s t : Server) (past : List Action) (i : Nat) (c : Call) : Prop where
  /-- Whether it has read that the server has stopped. -/
  late : s.ReadsStopped past i ↔ c.IsLate
  /-- Whether it has taken over. -/
  charge : s.TakesOver past i ↔ c.IsInCharge
  /-- How many steps it has made. -/
  steps : ¬ c.IsInCharge → past.count (.call i) = c.phase.ownSteps
  /-- That the address was bound for it. -/
  bound : c.IsInCharge → c.phase.hasBound = true → .bind i none ∈ past
  /-- That another call runs the server. -/
  refused : c.phase = .returned (some .alreadyRunning) → t.shared.started = true

/-- An action on a server adds to how far a call is what it adds to the past. -/
structure CarriesOn (t : Server) (a : Action) (i : Nat) (c c' : Call) : Prop where
  late : c'.IsLate ↔ c.IsLate ∨ a = .call i ∧ c.phase = .made ∧ t.state = .stopped
  charge : c'.IsInCharge ↔
    c.IsInCharge ∨ a = .call i ∧ c.phase = .admitted ∧ t.shared.started = false
  steps : ¬ c'.IsInCharge →
    c'.phase.ownSteps = c.phase.ownSteps + if a = .call i then 1 else 0
  bound : c'.IsInCharge → c'.phase.hasBound = true →
    c.IsInCharge ∧ c.phase.hasBound = true ∨ a = .bind i none
  refused : c'.phase = .returned (some .alreadyRunning) →
    c.phase = .returned (some .alreadyRunning) ∨ t.shared.started = true

theorem Recounts.step {s t u : Server} {past : List Action} {a : Action} {i : Nat} {c c' : Call}
    (h : s.Recounts t past i c) (hrun : s.perform past = some t) (hc : t.calls[i]? = some c)
    (hstarted : t.shared.started = true → u.shared.started = true)
    (hstep : CarriesOn t a i c c') : s.Recounts u (past ++ [a]) i c' where
  late := by
    rw [ReadsStopped, steps_concat hrun, hstep.late, ← h.late, ReadsStopped]
    simp [hc]
  charge := by
    rw [TakesOver, steps_concat hrun, hstep.charge, ← h.charge, TakesOver]
    simp [hc]
  steps hcharge := by
    have hbefore : ¬ c.IsInCharge := fun hin => hcharge (hstep.charge.mpr (.inl hin))
    rw [List.count_append, h.steps hbefore, hstep.steps hcharge, List.count_singleton]
    simp only [beq_iff_eq]
  bound hcharge hbound := by
    rcases hstep.bound hcharge hbound with ⟨hin, hbefore⟩ | rfl
    · exact List.mem_append_left _ (h.bound hin hbefore)
    · exact List.mem_append_right _ (.head _)
  refused hphase := by
    rcases hstep.refused hphase with hbefore | hset
    · exact hstarted (h.refused hbefore)
    · exact hstarted hset

/-- An action that does not let a call go on. -/
theorem CarriesOn.of_same {t : Server} {a : Action} {i : Nat} {c c' : Call} (ha : a ≠ .call i)
    (hphase : c'.phase = c.phase)
    (hnotifier : c'.notifier.phase = .absent ↔ c.notifier.phase = .absent) :
    CarriesOn t a i c c' where
  late := by simp [Call.IsLate, ha, hphase, hnotifier]
  charge := by simp [Call.IsInCharge, ha, hphase, hnotifier]
  steps _ := by simp [ha, hphase]
  bound := by
    intro hcharge hbound
    rw [Call.IsInCharge, hphase, ne_eq, hnotifier] at hcharge
    rw [hphase] at hbound
    exact .inl ⟨hcharge, hbound⟩
  refused h := .inl (hphase ▸ h)

/-- A call that goes on has a notifier exactly when it is the owner and past the choice. -/
theorem notifier_absent_iff {c : Call} {published : List State} (h : c.Idle ∨ c.Owns published)
    (hphase : ∀ fault, c.phase ≠ .returned fault) :
    c.notifier.phase = .absent ↔ c.phase.owns = false ∨ c.phase = .chosen := by
  rcases h with hidle | howns
  · rcases hidle.phase with hc | hc | hc | hc | hc <;> simp_all [hidle.notifier]
  · rw [howns.notifier, howns.phase]
    simp

theorem carriesOn_call {t : Server} {i : Nat} {c c' : Call} {shared : Shared}
    (h : callStep t c = some (shared, c')) (hc : c.Idle ∨ c.Owns t.published) :
    CarriesOn t (.call i) i c c' := by
  have hreturned : ∀ fault, c.phase ≠ .returned fault := by
    intro fault hphase
    simp only [callStep, hphase] at h
    cases h
  have hnotifier := notifier_absent_iff hc hreturned
  cases callMove_of_callStep h with
  | bind hphase | failToBind _ hphase =>
      -- the call listens in an action of its own
      simp only [callStep, hphase] at h
      cases h
  | leaveNotifier refusal hphase | leaveDrainer refusal hphase | stop refusal hphase
  | finish refusal hphase =>
      cases refusal <;> constructor <;> simp_all [Call.IsLate, Call.IsInCharge]
  | readStopped hphase hstate | readOther hphase hstate =>
      constructor <;> simp_all [Call.IsLate, Call.IsInCharge, state]
  | turnBack hphase | refuse hphase | choose hphase | prepare hphase | serve hphase =>
      constructor <;> simp_all [Call.IsLate, Call.IsInCharge]

theorem carriesOn_bind {t : Server} {i : Nat} {c c' : Call} {shared : Shared}
    {refusal : Option SystemFault} (h : bindStep refusal t c = some (shared, c'))
    (hc : c.Idle ∨ c.Owns t.published) : CarriesOn t (.bind i refusal) i c c' := by
  have hnotifier : c.phase = .prepared → c.notifier.phase ≠ .absent := by
    intro hphase
    rw [ne_eq, notifier_absent_iff hc (by simp [hphase])]
    simp [hphase]
  unfold bindStep at h
  split at h
  next hphase =>
    cases h
    constructor <;> simp_all [Call.IsLate, Call.IsInCharge]
  next cause hphase =>
    cases h
    constructor <;> simp_all [Call.IsLate, Call.IsInCharge]
  next => cases h

theorem Move.started {t : Server} {c c' : Call} {shared : Shared} (hmove : Move t c shared c')
    (h : t.shared.started = true) : shared.started = true := by
  cases hmove with
  | tell => exact h
  | call hcall =>
      cases hcall with
      | choose => rfl
      | _ => exact h
  | notifier hnotifier => exact hnotifier.stopped_mem.2.trans h
  | drainer hdrainer => exact hdrainer.stopped_mem.2.trans h

/-- An action makes a call, or carries the one on that it is about. -/
theorem exists_carriesOn {t u : Server} {a : Action} (howned : t.Owned)
    (hstep : t.step a = some u) : a = .make ∧ u = t.withCall ∨
      ∃ i c shared c', a.actor? = some i ∧ t.calls[i]? = some c ∧ Move t c shared c' ∧
        CarriesOn t a i c c' ∧ u = t.moved i shared c' := by
  cases a with
  | make => exact .inl ⟨rfl, (Option.some.inj hstep).symm⟩
  | tell i =>
      obtain ⟨c, hc, rfl⟩ := tell_inv hstep
      exact .inr ⟨i, c, _, _, rfl, hc, .tell, .of_same (by simp) rfl Iff.rfl, rfl⟩
  | call i =>
      obtain ⟨c, shared, c', hc, h, rfl⟩ := onCall_inv hstep
      exact .inr ⟨i, c, shared, c', rfl, hc, .call (callMove_of_callStep h),
        carriesOn_call h (howned.idle_or_owns hc), rfl⟩
  | bind i refusal =>
      obtain ⟨c, shared, c', hc, h, rfl⟩ := onCall_inv hstep
      exact .inr ⟨i, c, shared, c', rfl, hc, .call (callMove_of_bindStep h),
        carriesOn_bind h (howned.idle_or_owns hc), rfl⟩
  | notifier i =>
      obtain ⟨c, shared, c', hc, h, rfl⟩ := onCall_inv hstep
      obtain ⟨phase, hmove, rfl⟩ := notifierMove_of_notifierStep h
      obtain ⟨hbefore, hafter⟩ := hmove.ne_absent
      exact .inr ⟨i, c, shared, _, rfl, hc, .notifier hmove,
        .of_same (by simp) rfl (iff_of_false hafter hbefore), rfl⟩
  | drainer i =>
      obtain ⟨c, shared, c', hc, h, rfl⟩ := onCall_inv hstep
      obtain ⟨phase, hmove, rfl⟩ := drainerMove_of_drainerStep h
      exact .inr ⟨i, c, shared, _, rfl, hc, .drainer hmove, .of_same (by simp) rfl Iff.rfl, rfl⟩

/-- A new call has been through nothing. -/
theorem recounts_new {s t : Server} {past : List Action} (hrun : s.perform past = some t) :
    s.Recounts t.withCall (past ++ [.make]) t.calls.length .new := by
  have hnone : ∀ P, ¬ s.Steps (past ++ [.make]) t.calls.length P := by
    intro P h
    rcases (steps_concat hrun).mp h with h | ⟨hmake, -⟩
    · exact Nat.lt_irrefl _ (h.lt_length hrun)
    · cases hmake
  have hmake : s.perform (past ++ [.make]) = some t.withCall := by
    rw [perform_concat, hrun]
    rfl
  have hcharge : ¬ Call.new.IsInCharge := Call.idle_new.not_isInCharge
  constructor
  case late => exact iff_of_false (hnone _) (by simp [Call.IsLate, Call.new])
  case charge => exact iff_of_false (hnone _) hcharge
  case steps =>
    exact fun _ => List.count_eq_zero.mpr fun hmem => hnone _ (steps_of_mem hmem hmake)
  case bound => exact fun h => absurd h hcharge
  case refused => exact fun h => by cases h

/-- Whatever a new server goes through, how far its calls are tells what they have been through. -/
theorem recounts_of_perform {config : Config} {span : Span} {files : String → Tls.FileState}
    {s t : Server} {actions : List Action} (hnew : new config span files = .ok s)
    (hrun : s.perform actions = some t) :
    ∀ (i : Nat) (c : Call), t.calls[i]? = some c → s.Recounts t actions i c := by
  have hstart : ∀ (i : Nat) (c : Call), s.calls[i]? = some c → s.Recounts s [] i c := by
    intro i c hc
    rw [eq_ready_of_new hnew] at hc
    simp [ready] at hc
  refine perform_inv (I := fun past t => ∀ (i : Nat) (c : Call), t.calls[i]? = some c →
    s.Recounts t past i c) hstart ?_ [] rfl hstart hrun
  intro past t u a hrun h hstep
  rcases exists_carriesOn (owned_of_perform hnew hrun) hstep with
    ⟨rfl, rfl⟩ | ⟨k, c, shared, c', hactor, hc, hmove, hcarries, rfl⟩
  · exact forall_withCall (recounts_new hrun) fun i c hc =>
      (h i c hc).step hrun hc id (.of_same (by simp) rfl Iff.rfl)
  · refine forall_moved hc ((h k c hc).step hrun hc hmove.started hcarries) fun j d hj hd => ?_
    have hother : a ≠ .call j := by
      rintro rfl
      exact hj (Option.some.inj hactor)
    exact (h j d hd).step hrun hd hmove.started (.of_same hother rfl Iff.rfl)

/-! ## Calls that stand aside -/

/-- A call that does not take over: it changes nothing but the log, and returns. -/
structure StandsAside (s t : Server) (actions : List Action) (i : Nat) (c : Call) : Prop where
  /-- It has no notifier. -/
  notifier : c.notifier = ⟨.absent, false⟩
  /-- It has no drainer. -/
  drainer : c.drainer = ⟨.absent, false⟩
  /-- What an action that is about it can change: it may be recorded that the server has stopped,
  and all other calls, with their tasks, are left as they are. -/
  changes : ∀ before a after u v, actions = before ++ a :: after → a.actor? = some i →
    s.perform before = some u → u.step a = some v →
    (v.shared = u.shared ∨ v.shared = u.shared.record u.span .serverWasStopped) ∧
      ∀ j, j ≠ i → v.calls[j]? = u.calls[j]?
  /-- It can go on until it has returned. -/
  goesOn : (∃ fault, c.phase = .returned fault) ∨ ∃ u, t.step (.call i) = some u
  /-- It has returned when it has made two steps. -/
  returned : (∃ fault, c.phase = .returned fault) ↔ actions.count (.call i) = 2
  /-- What it returns depends on what it has read. -/
  result : ∀ fault, c.phase = .returned fault →
    s.ReadsStopped actions i ∧ fault = none ∨
      ¬ s.ReadsStopped actions i ∧ fault = some .alreadyRunning
  /-- It is refused only for another call that has taken over. -/
  refused : c.phase = .returned (some .alreadyRunning) → ∃ j, j ≠ i ∧ s.TakesOver actions j

/-- An idle call that is not put in charge changes nothing but the log. -/
theorem Call.Idle.shared_eq {t : Server} {c c' : Call} {shared : Shared} (h : c.Idle)
    (hmove : Move t c shared c') (hcharge : ¬ c'.IsInCharge) :
    shared = t.shared ∨ shared = t.shared.record t.span .serverWasStopped := by
  cases hmove with
  | tell => exact .inl rfl
  | call hcall =>
      cases hcall with
      | readStopped | readOther | refuse => exact .inl rfl
      | turnBack => exact .inr rfl
      | choose => exact absurd (.inl rfl) hcharge
      | _ => have hphase := h.phase; simp_all
  | notifier hnotifier => exact absurd (congrArg Task.phase h.notifier) hnotifier.ne_absent.1
  | drainer hdrainer => exact absurd (congrArg Task.phase h.drainer) hdrainer.ne_absent.1

theorem Call.Idle.step_call {t : Server} {i : Nat} {c : Call} (h : c.Idle)
    (hc : t.calls[i]? = some c) :
    (∃ fault, c.phase = .returned fault) ∨ ∃ u, t.step (.call i) = some u := by
  rcases h.phase with hphase | hphase | hphase | hphase | hphase
  · exact .inr ⟨_, Server.step_call hc (callStep_made hphase)⟩
  · exact .inr ⟨_, Server.step_call hc (callStep_late hphase)⟩
  · cases hstarted : t.shared.started with
    | true =>
        have hstep : callStep t c
            = some (t.shared, { c with phase := .returned (some .alreadyRunning) }) := by
          simp only [callStep, hphase, hstarted, if_true]
        exact .inr ⟨_, Server.step_call hc hstep⟩
    | false =>
        have hstep : callStep t c
            = some ({ t.shared with started := true }, { c with phase := .chosen }) := by
          simp [callStep, hphase, hstarted]
        exact .inr ⟨_, Server.step_call hc hstep⟩
  · exact .inl ⟨_, hphase⟩
  · exact .inl ⟨_, hphase⟩

theorem prepared_of_bindStep {t : Server} {c c' : Call} {shared : Shared}
    {refusal : Option SystemFault} (h : bindStep refusal t c = some (shared, c')) :
    c.phase = .prepared := by
  unfold bindStep at h
  split at h
  next hphase => exact hphase
  next hphase => exact hphase
  next => cases h

section

variable {config : Config} {span : Span} {files : String → Tls.FileState} {s t : Server}
  {actions : List Action} (hnew : new config span files = .ok s)
  (hrun : s.perform actions = some t)

include hnew hrun

/-- A call that has taken over is in charge. -/
theorem TakesOver.exists_call {i : Nat} (h : s.TakesOver actions i) :
    ∃ c, t.calls[i]? = some c ∧ c.IsInCharge := by
  have hi : i < t.calls.length := Steps.lt_length h hrun
  have hc : t.calls[i]? = some t.calls[i] := List.getElem?_eq_getElem hi
  exact ⟨_, hc, (recounts_of_perform hnew hrun i _ hc).charge.mp h⟩

theorem takesOver_unique {i j : Nat} (hi : s.TakesOver actions i) (hj : s.TakesOver actions j) :
    i = j := by
  obtain ⟨c, hc, hcharge⟩ := hi.exists_call hnew hrun
  obtain ⟨d, hd, hcharge'⟩ := hj.exists_call hnew hrun
  exact (owned_of_perform hnew hrun).eq_of_isInCharge hc hd hcharge hcharge'

/-- Only a call that has taken over listens on the address. -/
theorem takesOver_of_bind {i : Nat} {refusal : Option SystemFault}
    (hmem : .bind i refusal ∈ actions) : s.TakesOver actions i := by
  obtain ⟨before, after, rfl⟩ := List.append_of_mem hmem
  rw [perform_append] at hrun
  obtain ⟨u, hbefore, hrest⟩ := Option.bind_eq_some_iff.mp hrun
  rw [perform_cons] at hrest
  obtain ⟨v, hstep, -⟩ := Option.bind_eq_some_iff.mp hrest
  obtain ⟨c, shared, c', hc, hbind, rfl⟩ := onCall_inv hstep
  have hcharge : c.IsInCharge := by
    rcases (owned_of_perform hnew hbefore).idle_or_owns hc with hidle | howns
    · have hphase := hidle.phase
      simp [prepared_of_bindStep hbind] at hphase
    · exact howns.isInCharge
  exact Steps.append ((recounts_of_perform hnew hbefore i c hc).charge.mpr hcharge) _

/-- A call that has set the flag in a server, and only such a call, has taken over. -/
theorem exists_takesOver (hstarted : t.shared.started = true) : ∃ i, s.TakesOver actions i := by
  cases owned_of_perform hnew hrun with
  | free hfree => exact absurd (hfree.symm.trans hstarted) Bool.false_ne_true
  | taken k o _ ho howns =>
      exact ⟨k, (recounts_of_perform hnew hrun k o ho).charge.mpr howns.isInCharge⟩

theorem standsAside {i : Nat} {c : Call} (hc : t.calls[i]? = some c)
    (htakes : ¬ s.TakesOver actions i) : s.StandsAside t actions i c := by
  have hrecounts := recounts_of_perform hnew hrun i c hc
  have hcharge : ¬ c.IsInCharge := fun h => htakes (hrecounts.charge.mpr h)
  have hidle := (owned_of_perform hnew hrun).idle hc hcharge
  constructor
  case notifier => exact hidle.notifier
  case drainer => exact hidle.drainer
  case changes =>
    rintro before a after u v rfl hactor hbefore hstep
    rcases exists_carriesOn (owned_of_perform hnew hbefore) hstep with
      ⟨rfl, -⟩ | ⟨k, d, shared, d', hk, hd, hmove, -, rfl⟩
    · cases hactor
    obtain rfl : k = i := Option.some.inj (hk.symm.trans hactor)
    have hafter : s.perform (before ++ [a]) = some (u.moved k shared d') := by
      rw [perform_concat, hbefore]
      exact hstep
    have hnot : ∀ {n : Nat} {e : Call} {w : Server} {past rest : List Action},
        before ++ a :: after = past ++ rest → s.perform past = some w → w.calls[n]? = some e →
        n = k → ¬ e.IsInCharge := by
      rintro n e w past rest heq hpast he rfl hin
      rw [heq] at htakes
      exact htakes (((recounts_of_perform hnew hpast n e he).charge.mpr hin).append rest)
    have hidle : d.Idle := (owned_of_perform hnew hbefore).idle hd (hnot rfl hbefore hd rfl)
    have hsplit : before ++ a :: after = (before ++ [a]) ++ after := by simp
    have hcharge' : ¬ d'.IsInCharge := hnot hsplit hafter (getElem?_moved_self hd) rfl
    refine ⟨hidle.shared_eq hmove hcharge', fun j hj => ?_⟩
    exact List.getElem?_set_ne (Ne.symm hj)
  case goesOn => exact hidle.step_call hc
  case returned =>
    rw [hrecounts.steps hcharge]
    rcases hidle.phase with hphase | hphase | hphase | hphase | hphase <;> simp [hphase]
  case result =>
    intro fault hphase
    rw [hrecounts.late]
    rcases hidle.phase with h | h | h | h | h <;> rw [hphase] at h <;> cases h
    · exact .inl ⟨.inr ⟨hphase, by simp [hidle.notifier]⟩, rfl⟩
    · exact .inr ⟨by simp [Call.IsLate, hphase], rfl⟩
  case refused =>
    intro hphase
    obtain ⟨j, hj⟩ := exists_takesOver hnew hrun (hrecounts.refused hphase)
    exact ⟨j, fun hji => htakes (hji ▸ hj), hj⟩

/-- Whatever a new server goes through, and however many calls are made, at most one call takes over,
and only that call listens on the address.  Every other call stands aside: it has no tasks, changes
nothing but the log, and returns after two steps, without a fault if it has read that the server has
stopped and refused otherwise.  A call that returns without a fault has served, or has read that the
server has stopped. -/
theorem one_call_serves :
    (∀ i j, s.TakesOver actions i → s.TakesOver actions j → i = j) ∧
    (∀ i refusal, .bind i refusal ∈ actions → s.TakesOver actions i) ∧
    (∀ i c, t.calls[i]? = some c → ¬ s.TakesOver actions i → s.StandsAside t actions i c) ∧
    ∀ i c, t.calls[i]? = some c → c.phase = .returned none →
      s.TakesOver actions i ∧ .bind i none ∈ actions ∨ s.ReadsStopped actions i := by
  refine ⟨fun i j => takesOver_unique hnew hrun, fun i refusal => takesOver_of_bind hnew hrun,
    fun i c => standsAside hnew hrun, fun i c hc hphase => ?_⟩
  have hrecounts := recounts_of_perform hnew hrun i c hc
  by_cases hcharge : c.IsInCharge
  · exact .inl ⟨hrecounts.charge.mpr hcharge, hrecounts.bound hcharge (by simp [hphase])⟩
  · have hidle := (owned_of_perform hnew hrun).idle hc hcharge
    exact .inr (hrecounts.late.mpr (.inr ⟨hphase, by simp [hidle.notifier]⟩))

end

/-- Two calls at the same time, of which the second one takes over and serves until it is told to
stop, and one more afterwards. -/
def threeCalls : List Action :=
  [.make, .make, .call 0, .call 1, .call 1, .call 0, .call 1, .bind 1 none, .tell 1,
    .drainer 1, .drainer 1, .drainer 1, .drainer 1, .drainer 1,
    .call 1, .call 1, .call 1, .call 1, .call 1, .make, .call 2, .call 2]

theorem one_call_serves_threeCalls : ∃ t, sample.perform threeCalls = some t ∧
    t.result? 0 = some (some .alreadyRunning) ∧ t.result? 1 = some none ∧
    t.result? 2 = some none ∧ sample.TakesOver threeCalls 1 ∧ ¬ sample.TakesOver threeCalls 0 ∧
    ¬ sample.TakesOver threeCalls 2 ∧ sample.ReadsStopped threeCalls 2 := by
  have hend : (sample.perform threeCalls).map (fun t => t.calls.map (·.phase))
      = some [.returned (some .alreadyRunning), .returned none, .returned none] := by
    decide +kernel
  obtain ⟨t, hrun, ht⟩ := Option.map_eq_some_iff.mp hend
  have hnew : new (.new ⟨.v4 [127, 0, 0, 1], 8443⟩) ⟨"server", []⟩ (fun _ => .missing) = .ok sample :=
    rfl
  obtain ⟨hunique, hbind, -, hserved⟩ := one_call_serves hnew hrun
  obtain ⟨c, rest, hcalls, hc, hrest⟩ := List.map_eq_cons_iff.mp ht
  obtain ⟨d, rest, rfl, hd, hrest⟩ := List.map_eq_cons_iff.mp hrest
  obtain ⟨e, rest, rfl, he, hnil⟩ := List.map_eq_cons_iff.mp hrest
  obtain rfl := List.map_eq_nil_iff.mp hnil
  have htakes : sample.TakesOver threeCalls 1 := hbind 1 none (by decide)
  have hnot : ∀ i, i ≠ 1 → ¬ sample.TakesOver threeCalls i := fun i hi h =>
    hi (hunique i 1 h htakes)
  have hlast : t.calls[2]? = some e := by rw [hcalls]; rfl
  refine ⟨t, hrun, ?_, ?_, ?_, htakes, hnot 0 (by decide), hnot 2 (by decide),
    (hserved 2 e hlast he).resolve_left fun h => hnot 2 (by decide) h.1⟩
  · simp [Server.result?, hcalls, Call.result?, hc]
  · simp [Server.result?, hcalls, Call.result?, hd]
  · simp [Server.result?, hcalls, Call.result?, he]

end Webhook.Server
