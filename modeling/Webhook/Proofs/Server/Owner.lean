import Webhook.Proofs.Server.Moves

/-!
# The call that runs a server

Of all calls of a server at most one runs it, the *owner*.  Every other call is *idle*: it has no
tasks, and publishes nothing.  `Owned` says so of a server, and how far the owner is tells which
tasks it has asked to end and whether it has published that the server has stopped (`Call.Owns`).

A new server is `Owned`, and so it stays (`kept_owned`, `owned_of_perform`).
-/

namespace Webhook.Server

/-! ## How far the owner is -/

namespace CallPhase

/-- The call runs the server, or has run it, if it is not idle. -/
@[simp] def owns : CallPhase → Bool
  | made | late | admitted => false
  | chosen | prepared | serving | served _ | leftNotifier _ | leftTasks _ | published _
  | returned _ => true

/-- The owner has asked its notifier to end. -/
@[simp] def hasLeftNotifier : CallPhase → Bool
  | leftNotifier _ | leftTasks _ | published _ | returned _ => true
  | made | late | admitted | chosen | prepared | serving | served _ => false

/-- The owner has asked its drainer to end. -/
@[simp] def hasLeftDrainer : CallPhase → Bool
  | leftTasks _ | published _ | returned _ => true
  | made | late | admitted | chosen | prepared | serving | served _ | leftNotifier _ => false

/-- The owner has published that the server has stopped. -/
@[simp] def hasStopped : CallPhase → Bool
  | published _ | returned _ => true
  | made | late | admitted | chosen | prepared | serving | served _ | leftNotifier _
  | leftTasks _ => false

end CallPhase

/-! ## Idle calls -/

/-- A call that does not run the server: it has no tasks, and returns, if it does, because the
server has stopped or another call runs it. -/
structure Call.Idle (c : Call) : Prop where
  /-- It has no notifier. -/
  notifier : c.notifier = ⟨.absent, false⟩
  /-- It has no drainer. -/
  drainer : c.drainer = ⟨.absent, false⟩
  /-- How far it is. -/
  phase : c.phase = .made ∨ c.phase = .late ∨ c.phase = .admitted ∨ c.phase = .returned none ∨
    c.phase = .returned (some .alreadyRunning)

theorem Call.idle_new : Call.new.Idle := ⟨rfl, rfl, .inl rfl⟩

theorem NotifierMove.ne_absent {s : Server} {c : Call} {shared : Shared} {phase : NotifierPhase}
    (h : NotifierMove s c shared phase) : c.notifier.phase ≠ .absent ∧ phase ≠ .absent := by
  cases h <;> simp_all

theorem DrainerMove.ne_absent {s : Server} {c : Call} {shared : Shared} {phase : DrainerPhase}
    (h : DrainerMove s c shared phase) : c.drainer.phase ≠ .absent ∧ phase ≠ .absent := by
  cases h <;> simp_all

/-- An idle call stays idle and changes nothing that counts, or becomes the owner when there is none
yet. -/
theorem Call.Idle.move {s : Server} {c c' : Call} {shared : Shared} (h : c.Idle)
    (hmove : Move s c shared c') :
    (c'.Idle ∧ shared.started = s.shared.started ∧ shared.published = s.shared.published) ∨
      (s.shared.started = false ∧ shared = { s.shared with started := true } ∧
        c' = { c with phase := .chosen }) := by
  cases hmove with
  | tell => exact .inl ⟨⟨h.notifier, h.drainer, h.phase⟩, rfl, rfl⟩
  | call hcall =>
      cases hcall with
      | readStopped => exact .inl ⟨⟨h.notifier, h.drainer, by simp⟩, rfl, rfl⟩
      | readOther => exact .inl ⟨⟨h.notifier, h.drainer, by simp⟩, rfl, rfl⟩
      | turnBack => exact .inl ⟨⟨h.notifier, h.drainer, by simp⟩, rfl, rfl⟩
      | refuse => exact .inl ⟨⟨h.notifier, h.drainer, by simp⟩, rfl, rfl⟩
      | choose _ hstarted => exact .inr ⟨hstarted, rfl, rfl⟩
      | _ => have hphase := h.phase; simp_all
  | notifier hnotifier => exact absurd (congrArg Task.phase h.notifier) hnotifier.ne_absent.1
  | drainer hdrainer => exact absurd (congrArg Task.phase h.drainer) hdrainer.ne_absent.1

/-! ## The owner -/

/-- The owner of a server that has published certain states. -/
structure Call.Owns (published : List State) (c : Call) : Prop where
  /-- It has got past the choice of the owner. -/
  phase : c.phase.owns = true
  /-- It is not turned away. -/
  phase_ne : c.phase ≠ .returned (some .alreadyRunning)
  /-- It starts its tasks when it goes on. -/
  notifier : c.notifier.phase = .absent ↔ c.phase = .chosen
  /-- It starts its tasks when it goes on. -/
  drainer : c.drainer.phase = .absent ↔ c.phase = .chosen
  /-- It asks its notifier to end after it has served. -/
  notifier_aborted : c.notifier.aborted = c.phase.hasLeftNotifier
  /-- It asks its drainer to end after that. -/
  drainer_aborted : c.drainer.aborted = c.phase.hasLeftDrainer
  /-- It publishes that the server has stopped after that. -/
  stopped : .stopped ∈ published ↔ c.phase.hasStopped = true

theorem NotifierMove.stopped_mem {s : Server} {c : Call} {shared : Shared} {phase : NotifierPhase}
    (h : NotifierMove s c shared phase) :
    (.stopped ∈ shared.published ↔ .stopped ∈ s.shared.published) ∧
      shared.started = s.shared.started := by
  cases h <;> simp

theorem DrainerMove.stopped_mem {s : Server} {c : Call} {shared : Shared} {phase : DrainerPhase}
    (h : DrainerMove s c shared phase) :
    (.stopped ∈ shared.published ↔ .stopped ∈ s.shared.published) ∧
      shared.started = s.shared.started := by
  cases h <;> simp

/-- An idle call that is chosen is the owner, as long as the server has not stopped. -/
theorem Call.Idle.owns {c : Call} {published : List State} (h : c.Idle)
    (hstopped : .stopped ∉ published) : Owns published { c with phase := .chosen } where
  phase := rfl
  phase_ne := by simp
  notifier := by simp [h.notifier]
  drainer := by simp [h.drainer]
  notifier_aborted := by simp [h.notifier]
  drainer_aborted := by simp [h.drainer]
  stopped := by simp [hstopped]

/-- The owner stays the owner. -/
theorem Call.Owns.move {s : Server} {c c' : Call} {shared : Shared}
    (h : c.Owns s.shared.published) (hmove : Move s c shared c') :
    c'.Owns shared.published ∧ shared.started = s.shared.started := by
  obtain ⟨hphase, hne, hnotifier, hdrainer, hnaborted, hdaborted, hstopped⟩ := h
  cases hmove with
  | tell => exact ⟨⟨hphase, hne, hnotifier, hdrainer, hnaborted, hdaborted, hstopped⟩, rfl⟩
  | call hcall =>
      cases hcall with
      | readStopped hc | readOther hc | turnBack hc | refuse hc | choose hc => simp [hc] at hphase
      | _ => exact ⟨by constructor <;> simp_all, rfl⟩
  | notifier hmove =>
      obtain ⟨habsent, habsent'⟩ := hmove.ne_absent
      obtain ⟨hmem, hstarted⟩ := hmove.stopped_mem
      have hlater : c.phase ≠ .chosen := fun h => habsent (hnotifier.mpr h)
      have hnotifier' : _ = NotifierPhase.absent ↔ c.phase = .chosen :=
        ⟨fun h => absurd h habsent', fun h => absurd h hlater⟩
      exact ⟨⟨hphase, hne, hnotifier', hdrainer, hnaborted, hdaborted, hmem.trans hstopped⟩, hstarted⟩
  | drainer hmove =>
      obtain ⟨habsent, habsent'⟩ := hmove.ne_absent
      obtain ⟨hmem, hstarted⟩ := hmove.stopped_mem
      have hlater : c.phase ≠ .chosen := fun h => habsent (hdrainer.mpr h)
      have hdrainer' : _ = DrainerPhase.absent ↔ c.phase = .chosen :=
        ⟨fun h => absurd h habsent', fun h => absurd h hlater⟩
      exact ⟨⟨hphase, hne, hnotifier, hdrainer', hnaborted, hdaborted, hmem.trans hstopped⟩, hstarted⟩

/-! ## One owner -/

/-- At most one call runs the server. -/
inductive Owned (s : Server) : Prop where
  /-- None does. -/
  | free (hstarted : s.shared.started = false) (hstopped : .stopped ∉ s.published)
      (hidle : ∀ (i : Nat) (c : Call), s.calls[i]? = some c → c.Idle)
  /-- One does. -/
  | taken (i : Nat) (c : Call) (hstarted : s.shared.started = true) (hc : s.calls[i]? = some c)
      (howns : c.Owns s.published)
      (hidle : ∀ (j : Nat) (d : Call), s.calls[j]? = some d → j ≠ i → d.Idle)

/-- Every call is idle or the owner. -/
theorem Owned.idle_or_owns {s : Server} (h : s.Owned) {i : Nat} {c : Call}
    (hc : s.calls[i]? = some c) : c.Idle ∨ c.Owns s.published := by
  cases h with
  | free _ _ hidle => exact .inl (hidle i c hc)
  | taken k o _ ho howns hidle =>
      by_cases hi : i = k
      · obtain rfl : c = o := by
          rw [hi, ho] at hc
          exact (Option.some.inj hc).symm
        exact .inr howns
      · exact .inl (hidle i c hc hi)

theorem eq_ready_of_new {config : Config} {span : Span} {files : String → Tls.FileState} {s : Server}
    (h : new config span files = .ok s) : s = ready config span := by
  rw [new] at h
  cases hfiles : config.loadMaterial files with
  | error f =>
      rw [hfiles] at h
      cases h
  | ok material =>
      rw [hfiles] at h
      exact (Except.ok.inj h).symm

theorem owned_ready (config : Config) (span : Span) : (ready config span).Owned := by
  refine .free rfl ?_ fun i c hc => ?_
  · simp [ready, published]
  · simp [ready] at hc

theorem kept_owned : Kept Owned where
  make s h := by
    cases h with
    | free hstarted hstopped hidle =>
        exact .free hstarted hstopped (forall_withCall Call.idle_new hidle)
    | taken i c hstarted hc howns hidle =>
        exact .taken i c hstarted (getElem?_withCall.mpr (.inl hc)) howns
          (forall_withCall (fun _ => Call.idle_new) hidle)
  move s k c shared c' h hc hmove := by
    cases h with
    | free hstarted hstopped hidle =>
        rcases (hidle k c hc).move hmove with ⟨hidle', hstarted', hpublished⟩ | ⟨-, rfl, rfl⟩
        · refine .free (hstarted'.trans hstarted) ?_
            (forall_moved hc hidle' fun j d _ hd => hidle j d hd)
          show .stopped ∉ shared.published
          rw [hpublished]
          exact hstopped
        · exact .taken k _ rfl (getElem?_moved_self hc) ((hidle k c hc).owns hstopped)
            (forall_moved hc (absurd rfl) fun j d _ hd _ => hidle j d hd)
    | taken i o hstarted ho howns hidle =>
        by_cases hk : k = i
        · obtain rfl : c = o := by
            rw [hk, ho] at hc
            exact (Option.some.inj hc).symm
          obtain ⟨howns', hstarted'⟩ := howns.move hmove
          exact .taken k c' (hstarted'.trans hstarted) (getElem?_moved_self hc) howns'
            (forall_moved hc (absurd rfl) fun j d hj hd _ => hidle j d hd (hk ▸ hj))
        · rcases (hidle k c hc hk).move hmove with ⟨hidle', hstarted', hpublished⟩ | ⟨hfree, -, -⟩
          · refine .taken i o (hstarted'.trans hstarted)
              ((getElem?_moved hc).mpr (.inr ⟨Ne.symm hk, ho⟩)) ?_
              (forall_moved hc (fun _ => hidle') fun j d _ hd => hidle j d hd)
            show o.Owns shared.published
            rw [hpublished]
            exact howns
          · exact absurd (hfree.symm.trans hstarted) Bool.false_ne_true

/-- Whatever a new server goes through, at most one call runs it. -/
theorem owned_of_perform {config : Config} {span : Span} {files : String → Tls.FileState}
    {s t : Server} {actions : List Action} (hnew : new config span files = .ok s)
    (hrun : s.perform actions = some t) : t.Owned := by
  obtain rfl := eq_ready_of_new hnew
  exact kept_owned.perform (owned_ready config span) hrun

end Webhook.Server
