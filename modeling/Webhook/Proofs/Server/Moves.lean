import Webhook.Server.Schedule

/-!
# What a step does

A step is made by a call, by its notifier or by its drainer.  `CallMove`, `NotifierMove` and
`DrainerMove` list what each of them can do, with what has to hold before and what comes of it, and
`Move` puts them together.  Every action of a server but the making of a call is such a move
(`step_inv`).

What all moves keep, and the making of a call keeps too, holds after every run (`Kept.perform`).
-/

namespace Webhook.Server

/-! ## What is shared -/

namespace Shared

/-- The states that were published, the latest first. -/
def published (s : Shared) : List State := s.state :: s.past

@[simp] theorem published_publish (next : State) (s : Shared) :
    (s.publish next).published = next :: s.published := rfl

@[simp] theorem state_publish (next : State) (s : Shared) : (s.publish next).state = next := rfl

@[simp] theorem started_publish (next : State) (s : Shared) :
    (s.publish next).started = s.started := rfl

@[simp] theorem published_record (span : Span) (event : Event) (s : Shared) :
    (s.record span event).published = s.published := rfl

@[simp] theorem state_record (span : Span) (event : Event) (s : Shared) :
    (s.record span event).state = s.state := rfl

@[simp] theorem started_record (span : Span) (event : Event) (s : Shared) :
    (s.record span event).started = s.started := rfl

@[simp] theorem published_started (b : Bool) (s : Shared) :
    ({ s with started := b } : Shared).published = s.published := rfl

@[simp] theorem published_bound (b : Option Bool) (s : Shared) :
    ({ s with bound := b } : Shared).published = s.published := rfl

@[simp] theorem published_askedToEnd (b : Bool) (s : Shared) :
    ({ s with askedToEnd := b } : Shared).published = s.published := rfl

end Shared

/-! ## Moves -/

/-- What a call can do. -/
inductive CallMove (s : Server) (c : Call) : Shared → Call → Prop where
  | readStopped (h : c.phase = .made) (hstate : s.shared.state = .stopped) :
      CallMove s c s.shared { c with phase := .late }
  | readOther (h : c.phase = .made) (hstate : s.shared.state ≠ .stopped) :
      CallMove s c s.shared { c with phase := .admitted }
  | turnBack (h : c.phase = .late) :
      CallMove s c (s.shared.record s.span .serverWasStopped) { c with phase := .returned none }
  | refuse (h : c.phase = .admitted) (hstarted : s.shared.started = true) :
      CallMove s c s.shared { c with phase := .returned (some .alreadyRunning) }
  | choose (h : c.phase = .admitted) (hstarted : s.shared.started = false) :
      CallMove s c { s.shared with started := true } { c with phase := .chosen }
  | prepare (h : c.phase = .chosen) :
      CallMove s c s.shared
        { c with phase := .prepared, notifier := ⟨.waiting, false⟩, drainer := ⟨.waiting, false⟩ }
  | bind (h : c.phase = .prepared) :
      CallMove s c { s.shared with bound := some true } { c with phase := .serving }
  | failToBind (cause : SystemFault) (h : c.phase = .prepared) :
      CallMove s c { s.shared with bound := some false } { c with phase := .served (some cause) }
  | serve (h : c.phase = .serving) (hasked : s.shared.askedToEnd = true) :
      CallMove s c s.shared { c with phase := .served none }
  | leaveNotifier (refusal : Option SystemFault) (h : c.phase = .served refusal) :
      CallMove s c s.shared
        { c with phase := .leftNotifier refusal, notifier := { c.notifier with aborted := true } }
  | leaveDrainer (refusal : Option SystemFault) (h : c.phase = .leftNotifier refusal) :
      CallMove s c s.shared
        { c with phase := .leftTasks refusal, drainer := { c.drainer with aborted := true } }
  | stop (refusal : Option SystemFault) (h : c.phase = .leftTasks refusal) :
      CallMove s c (s.shared.publish .stopped) { c with phase := .published refusal }
  | finish (refusal : Option SystemFault) (h : c.phase = .published refusal) :
      CallMove s c (s.shared.record s.span (endEvent refusal))
        { c with phase := .returned (refusal.map (.serve s.config.address.render)) }

/-- What the notifier of a call can do, and how far it is then. -/
inductive NotifierMove (s : Server) (c : Call) : Shared → NotifierPhase → Prop where
  | wake (h : c.notifier.phase = .waiting) (haborted : c.notifier.aborted = false) :
      NotifierMove s c s.shared .looking
  | wait (h : c.notifier.phase = .looking) (hbound : s.shared.bound = none) :
      NotifierMove s c s.shared .waiting
  | learn (h : c.notifier.phase = .looking) (hbound : s.shared.bound = some true) :
      NotifierMove s c s.shared .notified
  | giveUp (h : c.notifier.phase = .looking) (hbound : s.shared.bound = some false) :
      NotifierMove s c s.shared .ended
  | publish (h : c.notifier.phase = .notified) (hstate : s.shared.state = .configured) :
      NotifierMove s c (s.shared.publish .listening) .published
  | pass (h : c.notifier.phase = .notified) (hstate : s.shared.state ≠ .configured) :
      NotifierMove s c s.shared .ended
  | record (h : c.notifier.phase = .published) :
      NotifierMove s c
        (s.shared.record s.span (.serverListening s.config.host s.config.tls.isSome)) .ended

/-- What the drainer of a call can do, and how far it is then. -/
inductive DrainerMove (s : Server) (c : Call) : Shared → DrainerPhase → Prop where
  | wake (h : c.drainer.phase = .waiting) (haborted : c.drainer.aborted = false) :
      DrainerMove s c s.shared .looking
  | wait (h : c.drainer.phase = .looking) (htold : c.told = false) :
      DrainerMove s c s.shared .waiting
  | learn (h : c.drainer.phase = .looking) (htold : c.told = true) :
      DrainerMove s c s.shared .told
  | ask (h : c.drainer.phase = .told) :
      DrainerMove s c { s.shared with askedToEnd := true } .asked
  | publish (h : c.drainer.phase = .asked) :
      DrainerMove s c (s.shared.publish .draining) .published
  | record (h : c.drainer.phase = .published) :
      DrainerMove s c
        (s.shared.record s.span (.serverDraining (secondsOf s.config.grace))) .ended

/-- What can happen to a call. -/
inductive Move (s : Server) (c : Call) : Shared → Call → Prop where
  | tell : Move s c s.shared { c with told := true }
  | call {shared : Shared} {c' : Call} (h : CallMove s c shared c') : Move s c shared c'
  | notifier {shared : Shared} {phase : NotifierPhase} (h : NotifierMove s c shared phase) :
      Move s c shared { c with notifier := { c.notifier with phase } }
  | drainer {shared : Shared} {phase : DrainerPhase} (h : DrainerMove s c shared phase) :
      Move s c shared { c with drainer := { c.drainer with phase } }

/-! ## Steps are moves -/

theorem callMove_of_callStep {s : Server} {c c' : Call} {shared : Shared}
    (h : callStep s c = some (shared, c')) : CallMove s c shared c' := by
  unfold callStep at h
  cases hphase : c.phase with
  | made =>
      simp only [hphase] at h
      cases h
      by_cases hstate : s.shared.state = .stopped
      · rw [if_pos hstate]
        exact .readStopped hphase hstate
      · rw [if_neg hstate]
        exact .readOther hphase hstate
  | admitted =>
      simp only [hphase] at h
      split at h
      next hstarted =>
        cases h
        exact .refuse hphase hstarted
      next hstarted =>
        cases h
        exact .choose hphase (Bool.eq_false_iff.mpr hstarted)
  | serving =>
      simp only [hphase] at h
      split at h
      next hasked =>
        cases h
        exact .serve hphase hasked
      next => cases h
  | late => simp only [hphase] at h; cases h; exact .turnBack hphase
  | chosen => simp only [hphase] at h; cases h; exact .prepare hphase
  | served refusal => simp only [hphase] at h; cases h; exact .leaveNotifier refusal hphase
  | leftNotifier refusal => simp only [hphase] at h; cases h; exact .leaveDrainer refusal hphase
  | leftTasks refusal => simp only [hphase] at h; cases h; exact .stop refusal hphase
  | published refusal => simp only [hphase] at h; cases h; exact .finish refusal hphase
  | prepared => simp only [hphase] at h; cases h
  | returned fault => simp only [hphase] at h; cases h

theorem callMove_of_bindStep {s : Server} {c c' : Call} {shared : Shared}
    {refusal : Option SystemFault} (h : bindStep refusal s c = some (shared, c')) :
    CallMove s c shared c' := by
  unfold bindStep at h
  split at h
  next hphase =>
    cases h
    exact .bind hphase
  next cause hphase =>
    cases h
    exact .failToBind cause hphase
  next => cases h

theorem notifierMove_of_notifierStep {s : Server} {c c' : Call} {shared : Shared}
    (h : notifierStep s c = some (shared, c')) : ∃ phase, NotifierMove s c shared phase ∧
      c' = { c with notifier := { c.notifier with phase } } := by
  unfold notifierStep at h
  cases hphase : c.notifier.phase with
  | waiting =>
      simp only [hphase] at h
      split at h
      next => cases h
      next haborted =>
        cases h
        exact ⟨_, .wake hphase (Bool.eq_false_iff.mpr haborted), rfl⟩
  | looking =>
      simp only [hphase] at h
      split at h
      next hbound =>
        cases h
        exact ⟨_, .wait hphase hbound, rfl⟩
      next hbound =>
        cases h
        exact ⟨_, .learn hphase hbound, rfl⟩
      next hbound =>
        cases h
        exact ⟨_, .giveUp hphase hbound, rfl⟩
  | notified =>
      simp only [hphase] at h
      split at h
      next hstate =>
        cases h
        exact ⟨_, .publish hphase hstate, rfl⟩
      next hstate =>
        cases h
        exact ⟨_, .pass hphase hstate, rfl⟩
  | published => simp only [hphase] at h; cases h; exact ⟨_, .record hphase, rfl⟩
  | absent => simp only [hphase] at h; cases h
  | ended => simp only [hphase] at h; cases h

theorem drainerMove_of_drainerStep {s : Server} {c c' : Call} {shared : Shared}
    (h : drainerStep s c = some (shared, c')) : ∃ phase, DrainerMove s c shared phase ∧
      c' = { c with drainer := { c.drainer with phase } } := by
  unfold drainerStep at h
  cases hphase : c.drainer.phase with
  | waiting =>
      simp only [hphase] at h
      split at h
      next => cases h
      next haborted =>
        cases h
        exact ⟨_, .wake hphase (Bool.eq_false_iff.mpr haborted), rfl⟩
  | looking =>
      simp only [hphase] at h
      cases h
      by_cases htold : c.told = true
      · rw [if_pos htold]
        exact ⟨_, .learn hphase htold, rfl⟩
      · rw [if_neg htold]
        exact ⟨_, .wait hphase (Bool.eq_false_iff.mpr htold), rfl⟩
  | told => simp only [hphase] at h; cases h; exact ⟨_, .ask hphase, rfl⟩
  | asked => simp only [hphase] at h; cases h; exact ⟨_, .publish hphase, rfl⟩
  | published => simp only [hphase] at h; cases h; exact ⟨_, .record hphase, rfl⟩
  | absent => simp only [hphase] at h; cases h
  | ended => simp only [hphase] at h; cases h

/-- A server with one more call. -/
def withCall (s : Server) : Server := { s with calls := s.calls ++ [.new] }

/-- A server after a move of a call. -/
def moved (s : Server) (i : Nat) (shared : Shared) (c : Call) : Server :=
  { s with shared, calls := s.calls.set i c }

theorem onCall_inv {s t : Server} {i : Nat} {step : Server → Call → Option (Shared × Call)}
    (h : s.onCall i step = some t) : ∃ c shared c', s.calls[i]? = some c ∧
      step s c = some (shared, c') ∧ t = s.moved i shared c' := by
  rw [onCall] at h
  cases hc : s.calls[i]? with
  | none =>
      rw [hc] at h
      cases h
  | some c =>
      rw [hc] at h
      obtain ⟨⟨shared, c'⟩, hstep, rfl⟩ := Option.map_eq_some_iff.mp h
      exact ⟨c, shared, c', rfl, hstep, rfl⟩

theorem onCall_eq {s : Server} {i : Nat} {c c' : Call} {shared : Shared}
    {step : Server → Call → Option (Shared × Call)} (hc : s.calls[i]? = some c)
    (h : step s c = some (shared, c')) : s.onCall i step = some (s.moved i shared c') := by
  rw [onCall, hc]
  simp only [h, Option.map_some]
  rfl

theorem tell_inv {s t : Server} {i : Nat} (h : s.step (.tell i) = some t) :
    ∃ c, s.calls[i]? = some c ∧ t = s.moved i s.shared { c with told := true } := by
  have honCall : s.onCall i (fun s c => some (s.shared, { c with told := true })) = some t := h
  obtain ⟨c, shared, c', hc, hstep, rfl⟩ := onCall_inv honCall
  cases hstep
  exact ⟨c, hc, rfl⟩

/-- The call that an action is about, unless it makes one. -/
def Action.actor? : Action → Option Nat
  | make => none
  | tell i | call i | bind i _ | notifier i | drainer i => some i

/-- An action makes a call or moves the one that it is about. -/
theorem step_inv {s t : Server} {a : Action} (h : s.step a = some t) :
    t = s.withCall ∨ ∃ i c shared c', a.actor? = some i ∧ s.calls[i]? = some c ∧
      Move s c shared c' ∧ t = s.moved i shared c' := by
  have hmoved : ∀ {i : Nat} {step : Server → Call → Option (Shared × Call)},
      a.actor? = some i → s.onCall i step = some t →
      (∀ c shared c', step s c = some (shared, c') → Move s c shared c') →
      ∃ i c shared c', a.actor? = some i ∧ s.calls[i]? = some c ∧ Move s c shared c' ∧
        t = s.moved i shared c' := by
    intro i step hactor honCall hmove
    obtain ⟨c, shared, c', hc, hstep, rfl⟩ := onCall_inv honCall
    exact ⟨i, c, shared, c', hactor, hc, hmove c shared c' hstep, rfl⟩
  cases a with
  | make => exact .inl (Option.some.inj h).symm
  | tell i =>
      obtain ⟨c, hc, rfl⟩ := tell_inv h
      exact .inr ⟨i, c, _, _, rfl, hc, .tell, rfl⟩
  | call i => exact .inr (hmoved rfl h fun _ _ _ hstep => .call (callMove_of_callStep hstep))
  | bind i refusal =>
      exact .inr (hmoved rfl h fun _ _ _ hstep => .call (callMove_of_bindStep hstep))
  | notifier i =>
      refine .inr (hmoved rfl h fun c shared c' hstep => ?_)
      obtain ⟨phase, hmove, rfl⟩ := notifierMove_of_notifierStep hstep
      exact .notifier hmove
  | drainer i =>
      refine .inr (hmoved rfl h fun c shared c' hstep => ?_)
      obtain ⟨phase, hmove, rfl⟩ := drainerMove_of_drainerStep hstep
      exact .drainer hmove

/-! ## Runs -/

theorem perform_cons (s : Server) (a : Action) (actions : List Action) :
    s.perform (a :: actions) = (s.step a).bind fun t => t.perform actions := rfl

theorem perform_append (s : Server) (first rest : List Action) :
    s.perform (first ++ rest) = (s.perform first).bind fun t => t.perform rest := by
  rw [perform, List.foldlM_append]
  rfl

/-- What all actions keep. -/
structure Kept (P : Server → Prop) : Prop where
  /-- It is kept when a call is made. -/
  make : ∀ s, P s → P s.withCall
  /-- It is kept by the moves of calls. -/
  move : ∀ s i c shared c', P s → s.calls[i]? = some c → Move s c shared c' →
    P (s.moved i shared c')

theorem Kept.step {P : Server → Prop} (h : Kept P) {s t : Server} {a : Action} (hs : P s)
    (hstep : s.step a = some t) : P t := by
  rcases step_inv hstep with rfl | ⟨i, c, shared, c', -, hc, hmove, rfl⟩
  · exact h.make s hs
  · exact h.move s i c shared c' hs hc hmove

/-- What is kept holds after a run when it holds before. -/
theorem Kept.perform {P : Server → Prop} (h : Kept P) {s t : Server} {actions : List Action}
    (hs : P s) (hrun : s.perform actions = some t) : P t := by
  induction actions generalizing s with
  | nil =>
      cases hrun
      exact hs
  | cons a actions ih =>
      rw [perform_cons] at hrun
      obtain ⟨s', hstep, hrest⟩ := Option.bind_eq_some_iff.mp hrun
      exact ih (h.step hs hstep) hrest

/-- Calls are never forgotten. -/
theorem kept_length (n : Nat) : Kept fun s => n ≤ s.calls.length where
  make s h := by
    show n ≤ (s.calls ++ [Call.new]).length
    rw [List.length_append]
    exact Nat.le_add_right_of_le h
  move s k c shared c' h _ _ := by
    show n ≤ (s.calls.set k c').length
    rw [List.length_set]
    exact h

/-! ## Calls after an action -/

theorem getElem?_withCall {s : Server} {i : Nat} {c : Call} :
    s.withCall.calls[i]? = some c ↔
      s.calls[i]? = some c ∨ i = s.calls.length ∧ c = .new := by
  show (s.calls ++ [Call.new])[i]? = some c ↔ _
  rcases Nat.lt_trichotomy i s.calls.length with hlt | rfl | hgt
  · rw [List.getElem?_append_left hlt]
    exact ⟨.inl, fun h => h.resolve_right fun hnew => Nat.ne_of_lt hlt hnew.1⟩
  · rw [List.getElem?_concat_length, List.getElem?_eq_none (Nat.le_refl _)]
    simp [eq_comm]
  · rw [List.getElem?_eq_none (by rw [List.length_append]; exact hgt),
      List.getElem?_eq_none (Nat.le_of_lt hgt)]
    simp [Nat.ne_of_gt hgt]

theorem getElem?_moved {s : Server} {i j : Nat} {c c' d : Call} (hc : s.calls[i]? = some c)
    {shared : Shared} : (s.moved i shared c').calls[j]? = some d ↔
      j = i ∧ d = c' ∨ j ≠ i ∧ s.calls[j]? = some d := by
  show (s.calls.set i c')[j]? = some d ↔ _
  have hi : i < s.calls.length := (List.getElem?_eq_some_iff.mp hc).1
  rw [List.getElem?_set]
  by_cases hij : i = j
  · rw [if_pos hij, if_pos hi]
    simp [hij, eq_comm]
  · rw [if_neg hij]
    simp [Ne.symm hij]

theorem getElem?_moved_self {s : Server} {i : Nat} {c c' : Call} {shared : Shared}
    (hc : s.calls[i]? = some c) : (s.moved i shared c').calls[i]? = some c' :=
  (getElem?_moved hc).mpr (.inl ⟨rfl, rfl⟩)

/-- What holds of all calls and of a new one holds of all calls when one is made. -/
theorem forall_withCall {P : Nat → Call → Prop} {s : Server} (hnew : P s.calls.length .new)
    (hold : ∀ i c, s.calls[i]? = some c → P i c) : ∀ i c, s.withCall.calls[i]? = some c → P i c := by
  intro i c hc
  rcases getElem?_withCall.mp hc with hc | ⟨rfl, rfl⟩
  · exact hold i c hc
  · exact hnew

/-- What holds of a call after its move, and of all others, holds of all calls then. -/
theorem forall_moved {P : Nat → Call → Prop} {s : Server} {i : Nat} {c c' : Call} {shared : Shared}
    (hc : s.calls[i]? = some c) (hself : P i c')
    (hothers : ∀ j d, j ≠ i → s.calls[j]? = some d → P j d) :
    ∀ j d, (s.moved i shared c').calls[j]? = some d → P j d := by
  intro j d hd
  rcases (getElem?_moved hc).mp hd with ⟨rfl, rfl⟩ | ⟨hj, hd⟩
  · exact hself
  · exact hothers j d hj hd

/-! ## Making a step -/

theorem step_call {s : Server} {i : Nat} {c c' : Call} {shared : Shared} (hc : s.calls[i]? = some c)
    (h : callStep s c = some (shared, c')) : s.step (.call i) = some (s.moved i shared c') :=
  onCall_eq hc h

theorem step_notifier {s : Server} {i : Nat} {c c' : Call} {shared : Shared}
    (hc : s.calls[i]? = some c) (h : notifierStep s c = some (shared, c')) :
    s.step (.notifier i) = some (s.moved i shared c') :=
  onCall_eq hc h

theorem step_drainer {s : Server} {i : Nat} {c c' : Call} {shared : Shared}
    (hc : s.calls[i]? = some c) (h : drainerStep s c = some (shared, c')) :
    s.step (.drainer i) = some (s.moved i shared c') :=
  onCall_eq hc h

theorem callStep_made {s : Server} {c : Call} (hc : c.phase = .made) :
    callStep s c = some (s.shared,
      { c with phase := if s.shared.state = .stopped then .late else .admitted }) := by
  simp only [callStep, hc]

theorem callStep_late {s : Server} {c : Call} (hc : c.phase = .late) :
    callStep s c
      = some (s.shared.record s.span .serverWasStopped, { c with phase := .returned none }) := by
  simp only [callStep, hc]

end Webhook.Server
