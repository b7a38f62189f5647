import Mathlib.Data.List.Basic
import Webhook.Pattern.Escape
import Webhook.Proofs.Pattern.Bare

/-!
# Reading what is followed by a parenthesis

A pattern may be put in a group, and then its text is followed by a closing parenthesis and
perhaps a dollar.  A reader that starts in the text sees these when it gets that far.  `Follows`
lists what can happen then.

A reader is steady when one of these happens wherever it starts, and when it only takes characters
away.  The readers of this library are made of a few steady ones, and `Steady.bind` says that what
they make is steady again.
-/

namespace Webhook.Pattern

/-- A reader without its faults: what has been read, and the rest. -/
abbrev Reading (α : Type) := StateT (List Char) Option α

variable {α β : Type} {v : Bool} {s t : List Char}

namespace Reading

@[simp] theorem bind_apply (f : Reading α) (g : α → Reading β) (s : List Char) :
    (f >>= g) s = (f s).bind fun o => g o.1 o.2 := rfl

@[simp] theorem map_apply (f : Reading α) (g : α → β) (s : List Char) :
    (g <$> f) s = (f s).map fun o => (g o.1, o.2) := by
  show (f s).bind (fun o => some (g o.1, o.2)) = _
  cases f s <;> rfl

@[simp] theorem pure_apply (x : α) (s : List Char) : (pure x : Reading α) s = some (x, s) := rfl

/-- Nothing can be read. -/
def fail : Reading α := fun _ => none

/-- The next character. -/
def next : Reading Char
  | [] => none
  | c :: r => some (c, r)

/-- Skips blanks and comments where they are to be skipped. -/
def skipping (v : Bool) : Reading Unit := fun s => some ((), skip v s)

/-- The longest run of characters of a kind. -/
def runOf (v : Bool) (p : Char → Bool) : Reading (List Char) := fun s => some (run v p false s)

/-- Reads in one way after a mark, and in another way where the mark does not stand. -/
def after (mark : List Char) (f g : Reading α) : Reading α := fun s =>
  match strip? mark s with
  | some r => f r
  | none => g s

@[simp] theorem next_cons (c : Char) (r : List Char) : next (c :: r) = some (c, r) := rfl

@[simp] theorem skipping_apply (s : List Char) : skipping v s = some ((), skip v s) := rfl

@[simp] theorem runOf_apply (p : Char → Bool) (s : List Char) :
    runOf v p s = some (run v p false s) := rfl

theorem if_apply (c : Prop) [Decidable c] (f g : Reading α) (s : List Char) :
    (if c then f else g) s = if c then f s else g s := by
  split <;> rfl

end Reading

open Reading

/-! ## Tails -/

/-- What may be put after a text that is read: nothing, the end of a group, or that and the end of
the text. -/
inductive IsTail : List Char → Prop where
  | nil : IsTail []
  | close : IsTail [')']
  | anchor : IsTail [')', '$']

/-- What a reader may do when its text is followed by a tail. -/
inductive Follows (read : Reading α) : Prop where
  /-- It ends before the tail, and does not depend on it. -/
  | apart (x : α) (r : List Char) (h : ∀ t, IsTail t → read t = some (x, r ++ t))
  /-- It ends in a comment, which takes the tail as well. -/
  | swallowed (x : α) (h : ∀ t, IsTail t → read t = some (x, []))
  /-- It fails, or else it takes some of the tail.  Without a tail it fails. -/
  | broken (h : ∀ t, IsTail t → ∀ x r, read t = some (x, r) → r.length < t.length)

/-- A reader that only takes characters away, and that does one of a few things where its text is
followed by a tail. -/
structure Steady (f : Reading α) : Prop where
  /-- It only takes characters away. -/
  suffix : ∀ {s x r}, f s = some (x, r) → r <:+ s
  /-- It does one of a few things where its text is followed by a tail. -/
  follows : ∀ s, Follows fun t => f (s ++ t)

theorem Follows.congr {read read' : Reading α} (h : Follows read)
    (heq : ∀ t, IsTail t → read' t = read t) : Follows read' := by
  cases h with
  | apart x r h => exact .apart x r fun t ht => (heq t ht).trans (h t ht)
  | swallowed x h => exact .swallowed x fun t ht => (heq t ht).trans (h t ht)
  | broken h => exact .broken fun t ht x r hread => h t ht x r ((heq t ht).symm.trans hread)

/-- A reader that always fails. -/
theorem Follows.of_none {read : Reading α} (h : ∀ t, IsTail t → read t = none) :
    Follows read := by
  refine .broken fun t ht x r hread => ?_
  rw [h t ht] at hread
  cases hread

theorem Follows.map {read : Reading α} (h : Follows read) (g : α → β) :
    Follows (g <$> read : Reading β) := by
  cases h with
  | apart x r h =>
      refine .apart (g x) r fun t ht => ?_
      rw [map_apply, h t ht]
      rfl
  | swallowed x h =>
      refine .swallowed (g x) fun t ht => ?_
      rw [map_apply, h t ht]
      rfl
  | broken h =>
      refine .broken fun t ht y r hy => ?_
      rw [map_apply] at hy
      obtain ⟨⟨x, r'⟩, hx, heq⟩ := Option.map_eq_some_iff.mp hy
      obtain ⟨rfl, rfl⟩ := Prod.mk.inj heq
      exact h t ht x r' hx

/-! ## Steady readers -/

namespace Steady

theorem pure (x : α) : Steady (pure x : Reading α) where
  suffix h := by
    obtain ⟨rfl, rfl⟩ := Prod.mk.inj (Option.some.inj h)
    exact List.suffix_rfl
  follows s := .apart x s fun _ _ => rfl

theorem fail : Steady (fail : Reading α) where
  suffix h := nomatch h
  follows _ := .of_none fun _ _ => rfl

theorem ite {c : Prop} [Decidable c] {f g : Reading α} (hf : c → Steady f) (hg : ¬c → Steady g) :
    Steady (if c then f else g) := by
  split
  next h => exact hf h
  next h => exact hg h

theorem next : Steady next where
  suffix {s} := by
    intro _ _ h
    cases s with
    | nil => cases h
    | cons c s =>
        obtain ⟨rfl, rfl⟩ := Prod.mk.inj (Option.some.inj h)
        exact List.suffix_cons ..
  follows
    | c :: s => .apart c s fun _ _ => rfl
    | [] => by
        refine .broken fun t ht x r h => ?_
        cases ht with
        | nil => cases h
        | _ =>
            obtain ⟨rfl, rfl⟩ := Prod.mk.inj (Option.some.inj h)
            exact Nat.lt_succ_self _

/-- One steady reader after another. -/
theorem bind {f : Reading α} {g : α → Reading β} (hf : Steady f) (hg : ∀ x, Steady (g x)) :
    Steady (f >>= g) where
  suffix h := by
    obtain ⟨⟨x, r⟩, hx, hy⟩ := Option.bind_eq_some_iff.mp h
    exact ((hg x).suffix hy).trans (hf.suffix hx)
  follows s := by
    have hread : ∀ t, (f >>= g) (s ++ t) = (f (s ++ t)).bind fun o => g o.1 o.2 := fun _ => rfl
    cases hf.follows s with
    | apart x r h =>
        refine ((hg x).follows r).congr fun t ht => ?_
        rw [hread, h t ht]
        rfl
    | swallowed x h =>
        have hnil : ∀ t, IsTail t → (f >>= g) (s ++ t) = g x [] := by
          intro t ht
          rw [hread, h t ht]
          rfl
        match hx : g x [] with
        | none => exact .of_none fun t ht => (hnil t ht).trans hx
        | some (y, r) =>
            obtain rfl : r = [] := List.suffix_nil.mp ((hg x).suffix hx)
            exact .swallowed y fun t ht => (hnil t ht).trans hx
    | broken h =>
        refine .broken fun t ht y r' hy => ?_
        obtain ⟨⟨x, r⟩, hx, hy⟩ := Option.bind_eq_some_iff.mp hy
        exact Nat.lt_of_le_of_lt ((hg x).suffix hy).length_le (h t ht x r hx)

theorem map {f : Reading α} (hf : Steady f) (g : α → β) : Steady (g <$> f) :=
  hf.bind fun x => .pure (g x)

end Steady

/-! ## Blanks and comments -/

theorem skipFrom_suffix : ∀ (inComment : Bool) (s : List Char), skipFrom inComment s <:+ s
  | _, [] => by simp [skipFrom]
  | true, c :: s => (skipFrom_suffix _ s).trans (List.suffix_cons c s)
  | false, c :: s => by
      rw [skipFrom]
      split
      · exact (skipFrom_suffix _ s).trans (List.suffix_cons c s)
      · split
        · exact (skipFrom_suffix _ s).trans (List.suffix_cons c s)
        · exact List.suffix_rfl

theorem skip_suffix (v : Bool) (s : List Char) : skip v s <:+ s := by
  unfold skip
  split
  · exact skipFrom_suffix false s
  · exact List.suffix_rfl

/-- Skipping stops in a text, or it goes on in what follows the text. -/
theorem skipFrom_append : ∀ (inComment : Bool) (s : List Char),
    (∃ c r, ∀ t, skipFrom inComment (s ++ t) = c :: r ++ t) ∨
    ∃ inComment', ∀ t, skipFrom inComment (s ++ t) = skipFrom inComment' t
  | inComment, [] => .inr ⟨inComment, fun _ => rfl⟩
  | true, c :: s => skipFrom_append _ s
  | false, c :: s => by
      simp only [List.cons_append, skipFrom]
      split
      · exact skipFrom_append _ s
      · split
        · exact skipFrom_append _ s
        · exact .inl ⟨c, s, fun _ => rfl⟩

/-- A comment takes a whole tail. -/
theorem IsTail.skipFrom_true (ht : IsTail t) : skipFrom true t = [] := by
  cases ht <;> rfl

/-- A tail does not start with a blank or a comment. -/
theorem IsTail.skipFrom_false (ht : IsTail t) : skipFrom false t = t := by
  cases ht <;> rfl

theorem Steady.skipping : Steady (skipping v) where
  suffix {s} := by
    intro _ _ h
    obtain ⟨rfl, rfl⟩ := Prod.mk.inj (Option.some.inj h)
    exact skip_suffix v s
  follows s := by
    cases v with
    | false => exact .apart () s fun _ _ => rfl
    | true =>
        rcases skipFrom_append false s with ⟨c, r, h⟩ | ⟨_ | _, h⟩
        · exact .apart () (c :: r) fun t _ => congrArg (fun r => some ((), r)) (h t)
        · exact .apart () [] fun t ht =>
            congrArg (fun r => some ((), r)) ((h t).trans ht.skipFrom_false)
        · exact .swallowed () fun t ht =>
            congrArg (fun r => some ((), r)) ((h t).trans ht.skipFrom_true)

/-! ## Runs of characters -/

theorem run_suffix (p : Char → Bool) :
    ∀ (inComment : Bool) (s : List Char), (run v p inComment s).2 <:+ s
  | _, [] => by simp [run]
  | true, c :: s => (run_suffix p _ s).trans (List.suffix_cons c s)
  | false, c :: s => by
      rw [run]
      split
      · exact (run_suffix p _ s).trans (List.suffix_cons c s)
      · split
        · exact (run_suffix p _ s).trans (List.suffix_cons c s)
        · split
          · exact (run_suffix p _ s).trans (List.suffix_cons c s)
          · exact List.suffix_rfl

/-- A run stops in a text, or it goes on in what follows the text. -/
theorem run_append (p : Char → Bool) : ∀ (inComment : Bool) (s : List Char),
    (∃ cs c r, ∀ t, run v p inComment (s ++ t) = (cs, c :: r ++ t)) ∨
    ∃ cs inComment', ∀ t, run v p inComment (s ++ t)
      = (cs ++ (run v p inComment' t).1, (run v p inComment' t).2)
  | inComment, [] => .inr ⟨[], inComment, fun _ => rfl⟩
  | true, c :: s => run_append p _ s
  | false, c :: s => by
      simp only [List.cons_append, run]
      split
      · exact run_append p _ s
      · split
        · exact run_append p _ s
        · split
          · rcases run_append p false s with ⟨cs, d, r, h⟩ | ⟨cs, inComment', h⟩
            · exact .inl ⟨c :: cs, d, r, fun t => by rw [h]; rfl⟩
            · exact .inr ⟨c :: cs, inComment', fun t => by rw [h]; rfl⟩
          · exact .inl ⟨[], c, s, fun _ => rfl⟩

theorem IsTail.run_true (ht : IsTail t) (p : Char → Bool) : run v p true t = ([], []) := by
  cases ht <;> rfl

/-- A run of characters other than the parenthesis ends before a tail. -/
theorem IsTail.run_false (ht : IsTail t) {p : Char → Bool} (hp : p ')' = false) :
    run v p false t = ([], t) := by
  have hblank : Text.isBlank ')' = false := by decide
  cases ht <;> simp [run, hp, hblank]

theorem Steady.runOf {p : Char → Bool} (hp : p ')' = false) : Steady (runOf v p) where
  suffix {s} := by
    intro _ _ h
    obtain ⟨-, rfl⟩ := Prod.mk.inj (Option.some.inj h)
    exact run_suffix p false s
  follows s := by
    rcases run_append (v := v) p false s with ⟨cs, c, r, h⟩ | ⟨cs, _ | _, h⟩
    · exact .apart cs (c :: r) fun t _ => congrArg some (h t)
    · refine .apart cs [] fun t ht => congrArg some ((h t).trans ?_)
      rw [ht.run_false hp, List.append_nil]
      rfl
    · refine .swallowed cs fun t ht => congrArg some ((h t).trans ?_)
      rw [ht.run_true, List.append_nil]

/-! ## Marks -/

theorem strip?_eq_some : ∀ {mark s r : List Char}, strip? mark s = some r → s = mark ++ r
  | [], s, _, h => Option.some.inj h
  | p :: mark, c :: s, r, h => by
      rw [strip?] at h
      split at h
      next hc => rw [hc, strip?_eq_some h, List.cons_append]
      · cases h

theorem strip?_of_ne {p c : Char} (h : c ≠ p) (mark s : List Char) :
    strip? (p :: mark) (c :: s) = none := by
  rw [strip?, if_neg (Ne.symm h)]

/-- What is read after a mark or without it. -/
theorem after_eq_some {mark : List Char} {f g : Reading α} {o : α × List Char}
    (h : after mark f g s = some o) : (∃ r, s = mark ++ r ∧ f r = some o) ∨ g s = some o := by
  unfold Reading.after at h
  split at h
  next r hr => exact .inl ⟨r, strip?_eq_some hr, h⟩
  · exact .inr h

theorem strip?_suffix {mark s r : List Char} (h : strip? mark s = some r) : r <:+ s :=
  ⟨mark, (strip?_eq_some h).symm⟩

/-- A mark without a parenthesis stands before a tail or not at all. -/
theorem IsTail.strip?_append (ht : IsTail t) : ∀ {mark s : List Char}, ')' ∉ mark →
    strip? mark (s ++ t) = (strip? mark s).map (· ++ t)
  | [], _, _ => rfl
  | p :: mark, [], hmark => by
      have hp : p ≠ ')' := fun h => hmark (h ▸ List.mem_cons_self)
      cases ht <;> simp [strip?, hp]
  | p :: mark, c :: s, hmark => by
      have hrest : ')' ∉ mark := fun h => hmark (List.mem_cons_of_mem p h)
      rw [List.cons_append, strip?, strip?]
      split
      · exact ht.strip?_append hrest
      · rfl

theorem Steady.after {mark : List Char} {f g : Reading α} (hmark : ')' ∉ mark) (hf : Steady f)
    (hg : Steady g) : Steady (after mark f g) where
  suffix h := by
    rcases after_eq_some h with ⟨u, hu, hread⟩ | hread
    · rw [hu]
      exact (hf.suffix hread).trans (List.suffix_append mark u)
    · exact hg.suffix hread
  follows s := by
    cases hs : strip? mark s with
    | none =>
        refine (hg.follows s).congr fun t ht => ?_
        simp only [Reading.after, ht.strip?_append hmark, hs, Option.map_none]
    | some r =>
        refine (hf.follows r).congr fun t ht => ?_
        simp only [Reading.after, ht.strip?_append hmark, hs, Option.map_some]

end Webhook.Pattern
