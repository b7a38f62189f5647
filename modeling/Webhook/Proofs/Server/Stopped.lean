import Webhook.Proofs.Server.Owner

/-!
# After the server has stopped

Once it is published that a server has stopped, nothing else should be published, and later calls
should return at once.  Whether this is so depends on the drainer alone.  A drainer that has got past
its wait publishes that the server is draining when it comes to that, also when the call has asked it
to end and published in the meantime that the server has stopped.

A stopped server is `Quiet` when no drainer is on its way to publish.  From a quiet server on nothing
is published, and calls that have not begun are turned away (`StaysStopped`, `kept_staysStopped`).
From every other one a few steps lead to a server that is draining (`mayDrain_of_not_quiet`).  So
`stays_stopped_iff` tells both cases apart.
-/

namespace Webhook.Server

/-! ## Quiet servers -/

/-- The drainer is past its wait, and will publish that the server is draining. -/
@[simp] def DrainerPhase.isUnderWay : DrainerPhase → Bool
  | looking | told | asked => true
  | absent | waiting | published | ended => false

/-- The server has stopped, and no drainer is on its way to publish. -/
def Quiet (s : Server) : Prop :=
  s.state = .stopped ∧ ∀ c ∈ s.calls, c.drainer.phase.isUnderWay = false

instance (s : Server) : Decidable s.Quiet := inferInstanceAs (Decidable (_ ∧ _))

/-- A call that publishes nothing more when the server has stopped. -/
structure Call.Silent (c : Call) : Prop where
  /-- If it is the owner, it has published that the server has stopped. -/
  phase : c.phase.owns = true → c.phase.hasStopped = true
  /-- Its drainer is not on its way to publish. -/
  drainer : c.drainer.phase.isUnderWay = false
  /-- Its drainer will not get past its wait. -/
  waiting : c.drainer.phase = .waiting → c.drainer.aborted = true

theorem Call.Idle.silent {c : Call} (h : c.Idle) : c.Silent where
  phase hphase := by
    rcases h.phase with hc | hc | hc | hc | hc <;> simp [hc] at hphase ⊢
  drainer := by simp [h.drainer]
  waiting hwaiting := by simp [h.drainer] at hwaiting

theorem Call.Owns.silent {c : Call} {published : List State} (h : c.Owns published)
    (hstopped : .stopped ∈ published) (hdrainer : c.drainer.phase.isUnderWay = false) :
    c.Silent where
  phase _ := h.stopped.mp hstopped
  drainer := hdrainer
  waiting _ := by
    have hphase := h.stopped.mp hstopped
    rw [h.drainer_aborted]
    cases hc : c.phase <;> simp_all

/-! ## Calls that are turned away -/

/-- How many steps a call has left that finds the server stopped, and returns without a fault. -/
@[simp] def CallPhase.stepsLeft? : CallPhase → Option Nat
  | made => some 2
  | late => some 1
  | returned none => some 0
  | _ => none

/-- A call has not begun to run in a server, if it has been made at all. -/
def NotBegun (s : Server) (i : Nat) : Prop := ∀ c : Call, s.calls[i]? = some c → c.phase = .made

/-- A call returns without a fault and at once: it has returned, or it can go on, and has one step
less to go then. -/
def ReturnsAtOnce (s : Server) (i : Nat) (c : Call) : Prop :=
  c.phase.stepsLeft? = some 0 ∨ ∃ n t c', c.phase.stepsLeft? = some (n + 1) ∧
    s.step (.call i) = some t ∧ t.calls[i]? = some c' ∧ c'.phase.stepsLeft? = some n

/-- A server has stopped for good, and certain calls are turned away. -/
structure StaysStopped (turnedAway : Nat → Prop) (s : Server) : Prop where
  /-- It has stopped. -/
  state : s.state = .stopped
  /-- It has been run. -/
  started : s.shared.started = true
  /-- No call publishes anything. -/
  silent : ∀ (i : Nat) (c : Call), s.calls[i]? = some c → c.Silent
  /-- The calls do not serve. -/
  turned : ∀ (i : Nat) (c : Call), s.calls[i]? = some c → turnedAway i →
    c.phase.stepsLeft?.isSome = true

/-- In a stopped server a silent call stays silent, and changes nothing that counts. -/
theorem Call.Silent.move {s : Server} {c c' : Call} {shared : Shared} (h : c.Silent)
    (hstate : s.shared.state = .stopped) (hstarted : s.shared.started = true)
    (hmove : Move s c shared c') :
    shared.state = .stopped ∧ shared.started = true ∧ c'.Silent ∧
      (c.phase.stepsLeft?.isSome = true → c'.phase.stepsLeft?.isSome = true) := by
  obtain ⟨hphase, hdrainer, hwaiting⟩ := h
  cases hmove with
  | tell => exact ⟨hstate, hstarted, ⟨hphase, hdrainer, hwaiting⟩, id⟩
  | call hcall =>
      cases hcall with
      | readStopped hc => exact ⟨hstate, hstarted, ⟨by simp, hdrainer, hwaiting⟩, by simp⟩
      | turnBack hc => exact ⟨hstate, hstarted, ⟨by simp, hdrainer, hwaiting⟩, by simp⟩
      | refuse hc => exact ⟨hstate, hstarted, ⟨by simp, hdrainer, hwaiting⟩, by simp [hc]⟩
      | finish refusal hc => exact ⟨hstate, hstarted, ⟨by simp, hdrainer, hwaiting⟩, by simp [hc]⟩
      | readOther _ hother => exact absurd hstate hother
      | choose _ hfree => exact absurd (hfree.symm.trans hstarted) Bool.false_ne_true
      | _ => simp_all
  | notifier hnotifier =>
      cases hnotifier with
      | publish _ hother => rw [hstate] at hother; cases hother
      | _ => exact ⟨hstate, hstarted, ⟨hphase, hdrainer, hwaiting⟩, id⟩
  | drainer hmove =>
      cases hmove with
      | record => exact ⟨hstate, hstarted, ⟨hphase, rfl, by simp⟩, id⟩
      | wake hc haborted => exact absurd (haborted.symm.trans (hwaiting hc)) Bool.false_ne_true
      | _ => simp_all

theorem kept_staysStopped (turnedAway : Nat → Prop) : Kept (StaysStopped turnedAway) where
  make s h := ⟨h.state, h.started, forall_withCall Call.idle_new.silent h.silent,
    forall_withCall (fun _ => rfl) h.turned⟩
  move s k c shared c' h hc hmove := by
    obtain ⟨hstate, hstarted, hsilent, hturned⟩ := (h.silent k c hc).move h.state h.started hmove
    exact ⟨hstate, hstarted, forall_moved hc hsilent fun j d _ hd => h.silent j d hd,
      forall_moved hc (fun hk => hturned (h.turned k c hc hk)) fun j d _ hd => h.turned j d hd⟩

theorem Quiet.staysStopped {s : Server} (h : s.Quiet) (howned : s.Owned) :
    s.StaysStopped s.NotBegun := by
  obtain ⟨hstate, hdrainers⟩ := h
  have hmem : .stopped ∈ s.published := List.mem_cons.mpr (.inl hstate.symm)
  have hturned : ∀ (i : Nat) (c : Call), s.calls[i]? = some c → s.NotBegun i →
      c.phase.stepsLeft?.isSome = true := by
    intro i c hc hi
    rw [hi c hc]
    rfl
  cases howned with
  | free _ hstopped _ => exact absurd hmem hstopped
  | taken k o hstarted ho howns hidle =>
      refine ⟨hstate, hstarted, fun i c hc => ?_, hturned⟩
      by_cases hi : i = k
      · obtain rfl : c = o := by
          rw [hi, ho] at hc
          exact (Option.some.inj hc).symm
        exact howns.silent hmem (hdrainers c (List.mem_of_getElem? hc))
      · exact (hidle i c hc hi).silent

theorem StaysStopped.returnsAtOnce {turnedAway : Nat → Prop} {s : Server}
    (h : s.StaysStopped turnedAway) {i : Nat} {c : Call} (hi : turnedAway i)
    (hc : s.calls[i]? = some c) : s.ReturnsAtOnce i c := by
  have hsome := h.turned i c hc hi
  have hstate : s.shared.state = .stopped := h.state
  cases hphase : c.phase with
  | made =>
      refine .inr ⟨1, _, _, by simp [hphase], step_call hc (callStep_made hphase),
        getElem?_moved_self hc, ?_⟩
      rw [if_pos hstate]
      rfl
  | late =>
      exact .inr ⟨0, _, _, by simp [hphase], step_call hc (callStep_late hphase),
        getElem?_moved_self hc, rfl⟩
  | returned fault =>
      cases fault with
      | none => exact .inl (by simp [hphase])
      | some fault => simp [hphase] at hsome
  | _ => simp [hphase] at hsome

/-! ## Servers that are not quiet -/

/-- Some way to go on leads to a server that is draining. -/
def MayDrain (s : Server) : Prop := ∃ more t, s.perform more = some t ∧ t.state = .draining

theorem MayDrain.of_step {s t : Server} {a : Action} (hstep : s.step a = some t)
    (h : t.MayDrain) : s.MayDrain := by
  obtain ⟨more, u, hrun, hstate⟩ := h
  refine ⟨a :: more, u, ?_, hstate⟩
  rw [perform_cons, hstep]
  exact hrun

theorem mayDrain_of_asked {s : Server} {i : Nat} {c : Call} (hc : s.calls[i]? = some c)
    (hphase : c.drainer.phase = .asked) : s.MayDrain := by
  have hstep : drainerStep s c = some (s.shared.publish .draining,
      { c with drainer := { c.drainer with phase := .published } }) := by
    simp only [drainerStep, hphase]
  exact .of_step (step_drainer hc hstep) ⟨[], _, rfl, rfl⟩

theorem mayDrain_of_told {s : Server} {i : Nat} {c : Call} (hc : s.calls[i]? = some c)
    (hphase : c.drainer.phase = .told) : s.MayDrain := by
  have hstep : drainerStep s c = some ({ s.shared with askedToEnd := true },
      { c with drainer := { c.drainer with phase := .asked } }) := by
    simp only [drainerStep, hphase]
  exact .of_step (step_drainer hc hstep) (mayDrain_of_asked (getElem?_moved_self hc) rfl)

/-- A drainer that looks goes on when the call is told to stop, and that can happen at any time. -/
theorem mayDrain_of_looking {s : Server} {i : Nat} {c : Call} (hc : s.calls[i]? = some c)
    (hphase : c.drainer.phase = .looking) : s.MayDrain := by
  let told : Call := { c with told := true }
  have hmark : s.onCall i (fun s c => some (s.shared, { c with told := true }))
      = some (s.moved i s.shared told) := onCall_eq hc rfl
  have htell : s.step (.tell i) = some (s.moved i s.shared told) := hmark
  have htold : (s.moved i s.shared told).calls[i]? = some told := getElem?_moved_self hc
  have hstep : drainerStep (s.moved i s.shared told) told
      = some (s.shared, { told with drainer := { c.drainer with phase := .told } }) := by
    simp only [drainerStep, told, hphase]
    rfl
  exact .of_step htell (.of_step (step_drainer htold hstep)
    (mayDrain_of_told (getElem?_moved_self htold) rfl))

/-- When a server that has stopped is not quiet, it may be draining again. -/
theorem mayDrain_of_not_quiet {s : Server} (hstate : s.state = .stopped) (h : ¬ s.Quiet) :
    s.MayDrain := by
  have hdrainer : ∃ c ∈ s.calls, c.drainer.phase.isUnderWay = true := by
    by_cases hall : ∀ c ∈ s.calls, c.drainer.phase.isUnderWay = false
    · exact absurd ⟨hstate, hall⟩ h
    · simpa only [Classical.not_forall, Bool.not_eq_false, exists_prop] using hall
  obtain ⟨c, hmem, hunder⟩ := hdrainer
  obtain ⟨i, hc⟩ := List.mem_iff_getElem?.mp hmem
  cases hphase : c.drainer.phase with
  | looking => exact mayDrain_of_looking hc hphase
  | told => exact mayDrain_of_told hc hphase
  | asked => exact mayDrain_of_asked hc hphase
  | _ => simp [hphase] at hunder

/-- When a server has not stopped, a new call is not turned away. -/
theorem not_returnsAtOnce {s : Server} (h : s.state ≠ .stopped) :
    ¬ s.withCall.ReturnsAtOnce s.calls.length .new := by
  have hnew : s.withCall.calls[s.calls.length]? = some .new :=
    getElem?_withCall.mpr (.inr ⟨rfl, rfl⟩)
  rintro (hleft | ⟨n, t, c', -, hstep, hc', hleft⟩)
  · cases hleft
  · rw [step_call hnew (callStep_made rfl)] at hstep
    obtain rfl := Option.some.inj hstep
    rw [getElem?_moved_self hnew] at hc'
    obtain rfl := Option.some.inj hc'
    have hstate : s.withCall.shared.state ≠ .stopped := h
    rw [if_neg hstate] at hleft
    cases hleft

/-! ## Both cases -/

/-- A server is quiet exactly when it stays stopped, whatever happens from then on, and exactly when
all calls that have not begun return at once, whatever happens from then on. -/
theorem stays_stopped_iff {config : Config} {span : Span} {files : String → Tls.FileState}
    {s t : Server} {actions : List Action} (hnew : new config span files = .ok s)
    (hrun : s.perform actions = some t) :
    ((∀ more u, t.perform more = some u → u.state = .stopped) ↔ t.Quiet) ∧
    ((∀ more u, t.perform more = some u → ∀ (i : Nat) (c : Call), t.NotBegun i →
      u.calls[i]? = some c → u.ReturnsAtOnce i c) ↔ t.Quiet) := by
  have hstays : t.Quiet → ∀ more u, t.perform more = some u → u.StaysStopped t.NotBegun := by
    intro hquiet more u hmore
    exact (kept_staysStopped _).perform (hquiet.staysStopped (owned_of_perform hnew hrun)) hmore
  have hquiet : (∀ more u, t.perform more = some u → u.state = .stopped) → t.Quiet := by
    intro hall
    by_cases h : t.Quiet
    · exact h
    · obtain ⟨more, u, hmore, hdraining⟩ := mayDrain_of_not_quiet (hall [] t rfl) h
      rw [hall more u hmore] at hdraining
      cases hdraining
  refine ⟨⟨hquiet, fun h more u hmore => (hstays h more u hmore).state⟩, fun hall => ?_,
    fun h more u hmore i c hi hc => (hstays h more u hmore).returnsAtOnce hi hc⟩
  -- A new call would show it, were another state published at any time.
  refine hquiet fun more u hmore => ?_
  by_cases hstate : u.state = .stopped
  · exact hstate
  · have hmake : t.perform (more ++ [.make]) = some u.withCall := by
      rw [perform_append, hmore]
      rfl
    have hbegun : t.NotBegun u.calls.length := by
      intro c hc
      rw [List.getElem?_eq_none ((kept_length _).perform (Nat.le_refl _) hmore)] at hc
      cases hc
    exact absurd (hall _ _ hmake _ _ hbegun (getElem?_withCall.mpr (.inr ⟨rfl, rfl⟩)))
      (not_returnsAtOnce hstate)

/-- A call that serves until it is told to stop, where its drainer has done all it does before the
serving ends. -/
def orderlyRun : List Action :=
  [.make, .call 0, .call 0, .call 0, .bind 0 none,
    .notifier 0, .notifier 0, .notifier 0, .notifier 0, .tell 0,
    .drainer 0, .drainer 0, .drainer 0, .drainer 0, .drainer 0,
    .call 0, .call 0, .call 0, .call 0, .call 0]

theorem stays_stopped_orderlyRun : ∃ t, sample.perform orderlyRun = some t ∧
    t.published = [.stopped, .draining, .listening, .configured, .created] ∧
    t.result? 0 = some none ∧ (∀ more u, t.perform more = some u → u.state = .stopped) ∧
    ∀ more u, t.perform more = some u → ∀ (i : Nat) (c : Call), t.NotBegun i →
      u.calls[i]? = some c → u.ReturnsAtOnce i c := by
  have hend : (sample.perform orderlyRun).map (fun t => (t.published, t.result? 0, decide t.Quiet))
      = some ([.stopped, .draining, .listening, .configured, .created], some none, true) := by
    decide +kernel
  obtain ⟨t, hrun, ht⟩ := Option.map_eq_some_iff.mp hend
  simp only [Prod.mk.injEq, decide_eq_true_eq] at ht
  obtain ⟨hpublished, hresult, hquiet⟩ := ht
  have hnew : new (.new ⟨.v4 [127, 0, 0, 1], 8443⟩) ⟨"server", []⟩ (fun _ => .missing) = .ok sample :=
    rfl
  obtain ⟨hstays, hreturns⟩ := stays_stopped_iff hnew hrun
  exact ⟨t, hrun, hpublished, hresult, hstays.mpr hquiet, hreturns.mpr hquiet⟩

/-- A call that serves until it is told to stop, where its drainer publishes last. -/
def lateDrain : List Action :=
  [.make, .call 0, .call 0, .call 0, .bind 0 none, .tell 0,
    .drainer 0, .drainer 0, .drainer 0,
    .call 0, .call 0, .call 0, .call 0, .drainer 0, .call 0]

theorem drains_after_stopped : ∃ t u,
    new (.new ⟨.v4 [127, 0, 0, 1], 8443⟩) ⟨"server", []⟩ (fun _ => .missing) = .ok sample ∧
    sample.perform lateDrain = some t ∧
    t.published = [.draining, .stopped, .configured, .created] ∧ t.result? 0 = some none ∧
    t.calls.length = 1 ∧ t.perform [.make, .call 1, .call 1] = some u ∧
    u.result? 1 = some (some .alreadyRunning) := by
  have hend : (sample.perform lateDrain).map (fun t => (t.published, t.result? 0, t.calls.length,
      (t.perform [.make, .call 1, .call 1]).map (·.result? 1)))
      = some ([.draining, .stopped, .configured, .created], some none, 1,
        some (some (some .alreadyRunning))) := by
    decide +kernel
  obtain ⟨t, hrun, ht⟩ := Option.map_eq_some_iff.mp hend
  simp only [Prod.mk.injEq] at ht
  obtain ⟨hpublished, hresult, hlength, hlater⟩ := ht
  obtain ⟨u, hlater, hrefused⟩ := Option.map_eq_some_iff.mp hlater
  exact ⟨t, u, rfl, hrun, hpublished, hresult, hlength, hlater, hrefused⟩

end Webhook.Server
