import Webhook.Proofs.Pattern.Openings
import Webhook.Proofs.Pattern.Sets

/-!
# Moves of a builder

`Builder.step` reads some characters and changes the builder.  Here this is taken apart.  What is
read is a `Move`, which depends on the builder only in whether blanks are skipped, and
`Builder.apply` makes the move.  `Builder.Reads` is a run of moves, and a pattern is read exactly
when moves lead from an empty builder to its end with no group left open (`Builder.run_iff`).

All of this is about builders and trees without their stretches.
-/

namespace Webhook.Pattern

open Reading

variable {v : Bool} {s t : List Char}

/-! ## Moves -/

/-- What a step does. -/
inductive Move where
  /-- A part is added. -/
  | part (n : Node)
  /-- A group is opened, or flags are set. -/
  | opened (o : Opening)
  /-- A group is closed. -/
  | closed
  /-- A branch is ended. -/
  | bar
  /-- The last part is repeated. -/
  | repeated (least : Nat) (greatest : Option Nat)

namespace Reading

/-- A move after its first character. -/
def moveAs (v : Bool) (c : Char) : Reading Move :=
  match c with
  | '(' => .opened <$> opening v
  | ')' => pure .closed
  | '|' => pure .bar
  | '[' => .part <$> setBody v
  | '?' => (fun _ => .repeated 0 (some 1)) <$> lazyMark
  | '*' => (fun _ => .repeated 0 none) <$> lazyMark
  | '+' => (fun _ => .repeated 1 none) <$> lazyMark
  | '\x7b' => (fun o => .repeated o.1 o.2) <$> count v
  | '\\' => (fun e => .part (Builder.nodeOfEscape e)) <$> escaped v
  | '.' => pure (.part (.dot .nil))
  | '^' => pure (.part (.assertion .nil .lineStart))
  | '$' => pure (.part (.assertion .nil .lineEnd))
  | c => pure (.part (.literal ⟨.nil, c, false⟩))

/-- A move. -/
def move (v : Bool) : Reading Move := next >>= moveAs v

theorem map_bind_apply {α β : Type} (f : Reading α) (g : α → Move) (k : Move × List Char → Option β)
    (s : List Char) : ((g <$> f) s).bind k = (f s).bind fun o => k (g o.1, o.2) := by
  rw [map_apply]
  cases f s <;> rfl

theorem move_cons (c : Char) (r : List Char) : move v (c :: r) = moveAs v c r := rfl

end Reading

variable {m : Move} {r u : List Char}

/-- A character that has no meaning of its own stands for itself. -/
theorem moveAs_literal {c : Char}
    (hc : c ∉ ['(', ')', '|', '[', '?', '*', '+', '\x7b', '\\', '.', '^', '$']) :
    moveAs v c = pure (.part (.literal ⟨.nil, c, false⟩)) := by
  unfold Reading.moveAs
  split
  case h_13 => rfl
  all_goals exact absurd (by decide) hc

theorem Steady.moveAs {c : Char} (hc : c ≠ '\\') : Steady (moveAs v c) := by
  unfold Reading.moveAs
  split
  · exact .map .opening _
  · exact .pure _
  · exact .pure _
  · exact .map .setBody _
  · exact .map .lazyMark _
  · exact .map .lazyMark _
  · exact .map .lazyMark _
  · exact .map .count _
  · contradiction
  all_goals exact .pure _

theorem moveAs_suffix {c : Char} (h : moveAs v c s = some (m, r)) : r <:+ s := by
  by_cases hc : c = '\\'
  · subst hc
    have h : ((fun e => Move.part (Builder.nodeOfEscape e)) <$> escaped v) s = some (m, r) := h
    rw [map_apply] at h
    obtain ⟨⟨e, r'⟩, he, heq⟩ := Option.map_eq_some_iff.mp h
    obtain ⟨-, rfl⟩ := Prod.mk.inj heq
    exact escaped_suffix he
  · exact (Steady.moveAs hc).suffix h

/-- A move takes at least one character. -/
theorem move_length (h : move v s = some (m, r)) : r.length < s.length := by
  match s, h with
  | c :: s, h => exact Nat.lt_succ_of_le (moveAs_suffix h).length_le

/-! ## Builders without their stretches -/

/-- A level without its stretches. -/
def Level.bare (l : Level) : Level := ⟨0, l.branches.map Node.bare, 0, l.parts.map Node.bare⟩

/-- An open group without its stretches. -/
def OpenGroup.bare (g : OpenGroup) : OpenGroup :=
  ⟨.nil, g.remembered, g.items, g.outer.bare, g.outerVerbose⟩

namespace Builder

/-- A builder without its stretches. -/
def bare (b : Builder) : Builder :=
  ⟨b.verbose, b.level.bare, b.groups.map OpenGroup.bare, b.names.map fun p => (p.1, .nil)⟩

/-- Makes a move. -/
def apply (b : Builder) : Move → Option Builder
  | .part n => some (b.push n)
  | .opened (.remembered none) => some (b.openGroup .nil true [] [])
  | .opened (.remembered (some (name, _))) =>
    if (b.names.lookup name).isSome then none
    else some ({ b with names := (name, .nil) :: b.names }.openGroup .nil true [] [])
  | .opened (.plain items) => some (b.openGroup .nil false items [])
  | .opened (.flags items) =>
    some ({ b with verbose := (flagState .verbose true items).getD b.verbose }.push
      (.flags .nil items))
  | .closed => (b.stepClose [] []).toOption
  | .bar => some { b with level := b.level.nextBranch [] [] }
  | .repeated least greatest => (b.repeatLast [] [] least greatest).toOption

end Builder

theorem Level.branch_bare (l : Level) (s : List Char) : (l.branch s).bare = l.bare.branch [] := by
  simp [branch, bare, Span.nil]

theorem Level.close_bare (l : Level) (s : List Char) : (l.close s).bare = l.bare.close [] := by
  have hbranches : l.bare.branches = l.branches.map Node.bare := rfl
  unfold close
  rw [hbranches]
  cases l.branches with
  | nil => exact l.branch_bare s
  | cons n ns =>
      simp only [List.map_cons, ← l.branch_bare s, Node.bare, Node.bares_eq_map,
        List.map_reverse]
      rfl

theorem Level.nextBranch_bare (l : Level) (bar after : List Char) :
    (l.nextBranch bar after).bare = l.bare.nextBranch [] [] := by
  simp only [nextBranch, bare, List.map_cons, l.branch_bare bar]
  rfl

namespace Builder

variable {b b' : Builder}

/-- What a move makes of a builder. -/
inductive Makes (b : Builder) : Move → Builder → Prop where
  | part (n : Node) : Makes b (.part n) (b.push n)
  | opened (o : Opening) (names : List (String × Span)) (remembered : Bool)
      (items : List FlagItem) :
      Makes b (.opened o) ({ b with names }.openGroup .nil remembered items [])
  | flags (items : List FlagItem) (verbose : Bool) :
      Makes b (.opened (.flags items)) ({ b with verbose }.push (.flags .nil items))
  | closed (g : OpenGroup) (groups : List OpenGroup) (span : Span) (h : b.groups = g :: groups) :
      Makes b .closed { b with
        verbose := g.outerVerbose
        level := g.outer.push (.group span g.remembered g.items (b.level.close []))
        groups }
  | bar : Makes b .bar { b with level := b.level.nextBranch [] [] }
  | repeated (least : Nat) (greatest : Option Nat) (n : Node) (parts : List Node) (span : Span)
      (h : b.level.parts = n :: parts) :
      Makes b (.repeated least greatest)
        ({ b with level := { b.level with parts } }.push (.repetition span least greatest n))

theorem makes_of_apply (h : b.apply m = some b') : Makes b m b' := by
  cases m with
  | part n =>
      obtain rfl := Option.some.inj h
      exact .part n
  | bar =>
      obtain rfl := Option.some.inj h
      exact .bar
  | closed =>
      rw [apply, stepClose] at h
      split at h
      · cases h
      next g groups hgroups =>
        obtain rfl := Option.some.inj h
        exact .closed g groups _ hgroups
  | opened o =>
      cases o with
      | remembered name =>
          cases name with
          | none =>
              obtain rfl := Option.some.inj h
              exact .opened _ b.names true []
          | some name =>
              rw [apply] at h
              split at h
              · cases h
              · obtain rfl := Option.some.inj h
                exact .opened _ ((name.1, .nil) :: b.names) true []
      | plain items =>
          obtain rfl := Option.some.inj h
          exact .opened _ b.names false items
      | flags items =>
          obtain rfl := Option.some.inj h
          exact .flags items _
  | repeated least greatest =>
      rw [apply, repeatLast, toOption_bind] at h
      obtain ⟨⟨n, b₁⟩, htake, hpush⟩ := Option.bind_eq_some_iff.mp h
      obtain rfl := Option.some.inj hpush
      rw [takeRepeated] at htake
      split at htake
      next n' parts hparts =>
        split at htake
        · obtain ⟨rfl, rfl⟩ := Prod.mk.inj (Option.some.inj htake)
          exact .repeated least greatest n' parts _ hparts
        · cases htake
      · cases htake

theorem push_bare (b : Builder) (n : Node) : (b.push n).bare = b.bare.push n.bare := rfl

theorem nextBranch_bare (b : Builder) (s r : List Char) :
    ({ b with level := b.level.nextBranch s r } : Builder).bare
      = { b.bare with level := b.bare.level.nextBranch [] [] } := by
  simp only [bare, Level.nextBranch_bare]

theorem stepClose_bare (b : Builder) (s rest : List Char) :
    (b.stepClose s rest).toOption.map bare = (b.bare.stepClose [] []).toOption := by
  have hgroups : b.bare.groups = b.groups.map OpenGroup.bare := rfl
  unfold stepClose
  rw [hgroups]
  cases b.groups with
  | nil => rfl
  | cons g gs =>
      have hclose := b.level.close_bare s
      simp only [List.map_cons, toOption_ok, Option.map_some, bare, Level.bare, Level.push,
        Node.bare, hclose]
      rfl

theorem takeRepeated_bare (b : Builder) (s : List Char) :
    (b.takeRepeated s).toOption.map (fun o => (o.1.bare, o.2.bare))
      = (b.bare.takeRepeated []).toOption := by
  have hparts : b.bare.level.parts = b.level.parts.map Node.bare := rfl
  unfold takeRepeated
  rw [hparts]
  cases b.level.parts with
  | nil => rfl
  | cons n ns =>
      simp only [List.map_cons, Node.repeatable_bare]
      split <;> rfl

theorem repeatLast_bare (b : Builder) (s rest : List Char) (least : Nat)
    (greatest : Option Nat) : (b.repeatLast s rest least greatest).toOption.map bare
      = (b.bare.repeatLast [] [] least greatest).toOption := by
  simp only [repeatLast, toOption_bind, ← b.takeRepeated_bare s]
  cases (b.takeRepeated s).toOption with
  | none => rfl
  | some o =>
      simp only [Option.bind_some, Option.map_some, toOption_pure, push_bare, Node.bare,
        Node.span_bare]
      rfl

theorem lookup_bare (b : Builder) (name : String) :
    (b.bare.names.lookup name).isSome = (b.names.lookup name).isSome := by
  have hnames : b.bare.names = b.names.map fun p => (p.1, .nil) := rfl
  rw [hnames]
  induction b.names with
  | nil => rfl
  | cons p ps ih =>
      obtain ⟨other, span⟩ := p
      rw [List.map_cons, List.lookup_cons, List.lookup_cons]
      cases name == other with
      | true => rfl
      | false => exact ih

theorem finish_bare (b : Builder) : b.finish.toOption.map Node.bare = b.bare.finish.toOption := by
  have hgroups : b.bare.groups = b.groups.map OpenGroup.bare := rfl
  unfold finish
  rw [hgroups]
  cases b.groups with
  | nil => exact congrArg some (b.level.close_bare [])
  | cons g gs => rfl

/-! ## A step is a move -/

theorem toOption_stepOpen (b : Builder) (s : List Char) :
    (b.stepOpen s).toOption.map (fun o => (o.1.bare, o.2))
      = ((Move.opened <$> opening b.verbose) (s.drop 1)).bind fun o =>
          (b.bare.apply o.1).map fun b => (b, o.2) := by
  rw [stepOpen, map_bind_apply, ← toOption_readOpening, toOption_bind]
  cases readOpening b.verbose s with
  | error f => rfl
  | ok o =>
      obtain ⟨opening, rest⟩ := o
      cases opening with
      | remembered name =>
          cases name with
          | none => rfl
          | some p =>
              simp only [toOption_ok, Option.bind_some, Option.map_some, Opening.bare, apply,
                lookup_bare]
              cases b.names.lookup p.1 <;> rfl
      | plain items => rfl
      | flags items => rfl

/-- Repeating the last part, after the operator. -/
theorem toOption_repeat (b : Builder) (s rest : List Char) (least : Nat) (greatest : Option Nat) :
    ((b.repeatLast s rest least greatest).toOption.bind fun b => some (b, rest)).map
        (fun o => (o.1.bare, o.2))
      = (b.bare.apply (.repeated least greatest)).map fun b => (b, rest) := by
  rw [apply, ← b.repeatLast_bare s rest]
  cases (b.repeatLast s rest least greatest).toOption <;> rfl

theorem toOption_stepMark (b : Builder) (s r : List Char) (least : Nat) (greatest : Option Nat) :
    ((b.repeatLast s (dropLazy r) least greatest).map fun b => (b, dropLazy r)).toOption.map
        (fun o => (o.1.bare, o.2))
      = (((fun _ => Move.repeated least greatest) <$> lazyMark) r).bind fun o =>
          (b.bare.apply o.1).map fun b => (b, o.2) := by
  rw [map_bind_apply, lazyMark_apply, Option.bind_some, ← b.toOption_repeat s (dropLazy r),
    toOption_map]
  cases (b.repeatLast s (dropLazy r) least greatest).toOption <;> rfl

theorem toOption_stepCount (b : Builder) (s : List Char) :
    (b.stepCount s).toOption.map (fun o => (o.1.bare, o.2))
      = (((fun o => Move.repeated o.1 o.2) <$> count b.verbose) (s.drop 1)).bind fun o =>
          (b.bare.apply o.1).map fun b => (b, o.2) := by
  rw [stepCount, map_bind_apply, ← toOption_readCount]
  simp only [toOption_bind, toOption_pure]
  cases hread : readCount b.verbose s with
  | error f => cases (b.takeRepeated s).toOption <;> rfl
  | ok o =>
      obtain ⟨least, greatest, rest⟩ := o
      simp only [toOption_ok, Option.bind_some, Option.map_some, ← b.toOption_repeat s rest]
      rw [repeatLast, toOption_bind]
      cases (b.takeRepeated s).toOption <;> rfl

theorem toOption_stepSet (b : Builder) (s : List Char) :
    ((readSet b.verbose s).map fun p => (b.push p.1, p.2)).toOption.map (fun o => (o.1.bare, o.2))
      = ((Move.part <$> setBody b.verbose) (s.drop 1)).bind fun o =>
          (b.bare.apply o.1).map fun b => (b, o.2) := by
  rw [map_bind_apply, ← toOption_readSet, toOption_map]
  cases (readSet b.verbose s).toOption <;> rfl

theorem bare_nodeOfEscape (e : Escaped) : (nodeOfEscape e).bare = nodeOfEscape e.bare := by
  cases e <;> rfl

theorem toOption_stepEscape (b : Builder) (s : List Char) :
    ((readEscape b.verbose s).map fun p => (b.push (nodeOfEscape p.1), p.2)).toOption.map
        (fun o => (o.1.bare, o.2))
      = (((fun e => Move.part (nodeOfEscape e)) <$> escaped b.verbose) (s.drop 1)).bind fun o =>
          (b.bare.apply o.1).map fun b => (b, o.2) := by
  rw [map_bind_apply, ← toOption_readEscape, toOption_map]
  cases (readEscape b.verbose s).toOption with
  | none => rfl
  | some o =>
      simp only [Option.map_some, Option.bind_some, push_bare, bare_nodeOfEscape]
      rfl

theorem toOption_stepClose (b : Builder) (s r : List Char) :
    ((b.stepClose s r).map fun b => (b, r)).toOption.map (fun o => (o.1.bare, o.2))
      = (b.bare.apply .closed).map fun b => (b, r) := by
  rw [apply, ← b.stepClose_bare s r, toOption_map]
  cases (b.stepClose s r).toOption <;> rfl

/-- A step reads a move and makes it. -/
theorem toOption_step (b : Builder) (c : Char) (r : List Char) :
    (b.step (c :: r)).toOption.map (fun o => (o.1.bare, o.2))
      = (move b.verbose (c :: r)).bind fun o =>
          (b.bare.apply o.1).map fun b => (b, o.2) := by
  rw [move_cons]
  unfold step
  dsimp only
  split
  · exact b.toOption_stepOpen ('(' :: r)
  · exact b.toOption_stepClose (')' :: r) r
  · exact congrArg (fun b => some (b, r)) (b.nextBranch_bare ('|' :: r) r)
  · exact b.toOption_stepSet ('[' :: r)
  · exact b.toOption_stepMark ('?' :: r) r 0 (some 1)
  · exact b.toOption_stepMark ('*' :: r) r 0 none
  · exact b.toOption_stepMark ('+' :: r) r 1 none
  · exact b.toOption_stepCount ('\x7b' :: r)
  · exact b.toOption_stepEscape ('\\' :: r)
  · rfl
  · rfl
  · rfl
  · rw [moveAs_literal (by simp_all)]
    rfl

/-! ## Runs of moves -/

/-- Moves lead from a builder and a rest to another builder and another rest.  Blanks and comments
are skipped before each move and after the last one. -/
inductive Reads : Builder → List Char → Builder → List Char → Prop where
  /-- No move. -/
  | done {b : Builder} {s : List Char} : Reads b s b (skip b.verbose s)
  /-- One more move in front. -/
  | step {b b' b'' : Builder} {s r u : List Char} {m : Move} :
      move b.verbose (skip b.verbose s) = some (m, r) → b.apply m = some b' → Reads b' r b'' u →
      Reads b s b'' u

variable {b'' : Builder}

theorem skip_skip (v : Bool) (s : List Char) : skip v (skip v s) = skip v s := by
  have hfrom : ∀ (s : List Char) (inComment : Bool),
      skipFrom false (skipFrom inComment s) = skipFrom inComment s := by
    intro s
    induction s with
    | nil => intro inComment; cases inComment <;> rfl
    | cons c s ih =>
        intro inComment
        cases inComment with
        | true => exact ih _
        | false =>
            simp only [skipFrom]
            split
            · exact ih _
            · split
              · exact ih _
              next hblank hmark => rw [skipFrom, if_neg hblank, if_neg hmark]
  cases v with
  | false => rfl
  | true => exact hfrom s false

namespace Reads

/-- A run to the end makes no move, or one more move in front of another run. -/
theorem inv (h : Reads b s b'' []) : (skip b.verbose s = [] ∧ b'' = b) ∨
    ∃ m r b', move b.verbose (skip b.verbose s) = some (m, r) ∧ b.apply m = some b' ∧
      Reads b' r b'' [] := by
  generalize hu : ([] : List Char) = u at h
  cases h with
  | done => exact .inl ⟨rfl, rfl⟩
  | step hmove happly h => exact .inr ⟨_, _, _, hmove, happly, h⟩

theorem skip_iff : Reads b (skip b.verbose s) b'' [] ↔ Reads b s b'' [] := by
  constructor
  · intro h
    rcases h.inv with ⟨hskip, rfl⟩ | ⟨m, r, b', hmove, happly, h⟩
    · rw [skip_skip] at hskip
      rw [← hskip]
      exact .done
    · rw [skip_skip] at hmove
      exact .step hmove happly h
  · intro h
    rcases h.inv with ⟨hskip, rfl⟩ | ⟨m, r, b', hmove, happly, h⟩
    · have hnil : skip b''.verbose [] = [] := by cases b''.verbose <;> rfl
      have hdone : Reads b'' [] b'' (skip b''.verbose []) := .done
      rw [hnil] at hdone
      rw [hskip]
      exact hdone
    · rw [← skip_skip] at hmove
      exact .step hmove happly h

/-- After some moves a run to the end goes on from there. -/
theorem iff_of_reads (h : Reads b s b' r) : Reads b s b'' [] ↔ Reads b' r b'' [] := by
  induction h with
  | done => exact skip_iff.symm
  | @step b b' _ s r _ m hmove happly _ ih =>
      rw [← ih]
      constructor
      · intro h
        rcases h.inv with ⟨hskip, -⟩ | ⟨m', r', b', hmove', happly', h⟩
        · rw [hskip] at hmove
          cases hmove
        · obtain ⟨rfl, rfl⟩ := Prod.mk.inj (Option.some.inj (hmove.symm.trans hmove'))
          obtain rfl := Option.some.inj (happly.symm.trans happly')
          exact h
      · exact .step hmove happly

end Reads

/-- With enough fuel, a pattern is read exactly when moves lead to its end with no group left
open. -/
theorem run_iff : ∀ {fuel : Nat} {b : Builder} {s : List Char} {n : Node}, s.length < fuel →
    ((run fuel b s).toOption.map Node.bare = some n ↔
      ∃ b', Reads b.bare s b' [] ∧ b'.finish.toOption = some n)
  | fuel + 1, b, s, n, hfuel => by
      have hlength := (skip_suffix b.verbose s).length_le
      rw [run]
      cases hskip : skip b.verbose s with
      | nil =>
          dsimp only
          rw [b.finish_bare]
          constructor
          · intro h
            refine ⟨b.bare, ?_, h⟩
            rw [← hskip]
            exact .done
          · rintro ⟨b', h, hfinish⟩
            rcases h.inv with ⟨-, rfl⟩ | ⟨m, r, b', hmove, -, -⟩
            · exact hfinish
            · have hmove : move b.verbose (skip b.verbose s) = some (m, r) := hmove
              rw [hskip] at hmove
              cases hmove
      | cons c r =>
          have hstep := b.toOption_step c r
          rw [hskip] at hlength
          dsimp only
          rw [toOption_bind]
          cases hb : b.step (c :: r) with
          | error f =>
              rw [hb] at hstep
              constructor
              · intro h
                cases h
              · rintro ⟨b', h, -⟩
                rcases h.inv with ⟨hnil, -⟩ | ⟨m, r', b1, hmove, happly, -⟩
                · cases hskip.symm.trans hnil
                · have hmove : move b.verbose (skip b.verbose s) = some (m, r') := hmove
                  rw [hskip] at hmove
                  rw [hmove, Option.bind_some, happly] at hstep
                  cases hstep
          | ok o =>
              obtain ⟨b1, rest⟩ := o
              rw [hb] at hstep
              obtain ⟨⟨m, r'⟩, hmove, happly⟩ := Option.bind_eq_some_iff.mp hstep.symm
              obtain ⟨b2, happly, heq⟩ := Option.map_eq_some_iff.mp happly
              obtain ⟨rfl, rfl⟩ := Prod.mk.inj heq
              have hrest := move_length hmove
              rw [toOption_ok, Option.bind_some]
              dsimp only
              rw [run_iff (by omega)]
              refine exists_congr fun b' => and_congr_left fun _ => ?_
              have hone : Reads b.bare s b1.bare (skip b1.bare.verbose r') :=
                .step (hskip.symm ▸ hmove) happly .done
              rw [hone.iff_of_reads, Reads.skip_iff]

/-- A parenthesis that closes no group is reported as such. -/
theorem run_unopened {b : Builder} (h : Reads b.bare s b' (')' :: r)) (hgroups : b'.groups = []) :
    ∀ {fuel : Nat}, s.length < fuel → ∃ f, run fuel b s = .error f ∧ f.slip = .unopenedGroup := by
  generalize hbare : b.bare = b₀ at h
  generalize hu : ')' :: r = u at h
  induction h generalizing b with
  | done =>
      intro fuel hfuel
      subst hbare
      match fuel, hfuel with
      | fuel + 1, _ =>
          have hskip : skip b.verbose _ = ')' :: r := hu.symm
          have hnone : b.groups = [] := List.map_eq_nil_iff.mp hgroups
          refine ⟨fault .unopenedGroup (.first (')' :: r)), ?_, rfl⟩
          rw [run, hskip]
          simp only [step, stepClose, hnone]
          rfl
  | @step b₀ b₁ _ s r' _ m hmove happly _ ih =>
      intro fuel hfuel
      subst hbare
      match fuel, hfuel with
      | fuel + 1, hfuel =>
          have hmove : move b.verbose (skip b.verbose s) = some (m, r') := hmove
          have hlength := (skip_suffix b.verbose s).length_le
          have hrest := move_length hmove
          match hskip : skip b.verbose s with
          | [] =>
              rw [hskip] at hmove
              cases hmove
          | c :: w =>
              have hstep := b.toOption_step c w
              rw [← hskip, hmove, Option.bind_some, happly] at hstep
              obtain ⟨⟨b₂, w'⟩, hb, heq⟩ := Option.map_eq_some_iff.mp hstep
              obtain ⟨hbare, rfl⟩ := Prod.mk.inj heq
              have hshort : s.length < fuel + 1 := hfuel
              obtain ⟨f, hf, hslip⟩ := @ih _ hgroups hbare hu fuel (by omega)
              refine ⟨f, ?_, hslip⟩
              rw [run, hskip]
              dsimp only
              rw [← hskip, toOption_eq_some.mp hb]
              exact hf

end Builder

end Webhook.Pattern
