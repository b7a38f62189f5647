import Webhook.Pattern.Bracket
import Webhook.Proofs.Pattern.Escapes

/-!
# Parts of a set before a tail

A set in brackets is read part by part.  The readers of its parts and of its start are given here
without faults and stretches.

They need not be steady: a last part may end where the tail begins, whereas without the tail the set
is open there.  They are `Enclosed`, which says less about what happens at the end of the text.
-/

namespace Webhook.Pattern

open Reading

variable {α β : Type} {v : Bool} {s t : List Char}

/-! ## Enclosed readers -/

/-- What a reader of a part of a set may do when its text is followed by a tail. -/
inductive Leaves (read : Reading α) : Prop where
  /-- It leaves some of the text, and does not depend on the tail. -/
  | inside (x : α) (c : Char) (r : List Char)
      (h : ∀ t, IsTail t → read t = some (x, c :: r ++ t))
  /-- It fails, or else it leaves some end of the tail. -/
  | beyond (h : ∀ t, IsTail t → ∀ x r, read t = some (x, r) → r <:+ t)

/-- A reader that only takes characters away, and that does one of a few things where its text is
followed by a tail. -/
structure Enclosed (f : Reading α) : Prop where
  /-- It only takes characters away. -/
  suffix : ∀ {s x r}, f s = some (x, r) → r <:+ s
  /-- It does one of a few things where its text is followed by a tail. -/
  leaves : ∀ s, Leaves fun t => f (s ++ t)

theorem Leaves.congr {read read' : Reading α} (h : Leaves read)
    (heq : ∀ t, IsTail t → read' t = read t) : Leaves read' := by
  cases h with
  | inside x c r h => exact .inside x c r fun t ht => (heq t ht).trans (h t ht)
  | beyond h => exact .beyond fun t ht x r hread => h t ht x r ((heq t ht).symm.trans hread)

/-- A reader that ends before the tail. -/
theorem Leaves.of_apart {read : Reading α} {x : α} {r : List Char}
    (h : ∀ t, IsTail t → read t = some (x, r ++ t)) : Leaves read := by
  cases r with
  | nil =>
      refine .beyond fun t ht y r' hy => ?_
      obtain ⟨-, rfl⟩ := Prod.mk.inj (Option.some.inj ((h t ht).symm.trans hy))
      exact List.suffix_rfl
  | cons c r => exact .inside x c r h

namespace Enclosed

theorem of_steady {f : Reading α} (hf : Steady f) : Enclosed f where
  suffix := hf.suffix
  leaves s := by
    cases hf.follows s with
    | apart x r h => exact .of_apart h
    | swallowed x h =>
        refine .beyond fun t ht y r' hy => ?_
        obtain ⟨-, rfl⟩ := Prod.mk.inj (Option.some.inj ((h t ht).symm.trans hy))
        exact List.nil_suffix
    | broken h =>
        refine .beyond fun t ht x r hx => ?_
        exact List.suffix_of_suffix_length_le (hf.suffix hx) (List.suffix_append s t)
          (Nat.le_of_lt (h t ht x r hx))

theorem bind {f : Reading α} {g : α → Reading β} (hf : Enclosed f) (hg : ∀ x, Enclosed (g x)) :
    Enclosed (f >>= g) where
  suffix h := by
    obtain ⟨⟨x, r⟩, hx, hy⟩ := Option.bind_eq_some_iff.mp h
    exact ((hg x).suffix hy).trans (hf.suffix hx)
  leaves s := by
    have hread : ∀ t, (f >>= g) (s ++ t) = (f (s ++ t)).bind fun o => g o.1 o.2 := fun _ => rfl
    cases hf.leaves s with
    | inside x c r h =>
        refine ((hg x).leaves (c :: r)).congr fun t ht => ?_
        rw [hread, h t ht]
        rfl
    | beyond h =>
        refine .beyond fun t ht y r' hy => ?_
        obtain ⟨⟨x, r⟩, hx, hy⟩ := Option.bind_eq_some_iff.mp hy
        exact ((hg x).suffix hy).trans (h t ht x r hx)

theorem skipping : Enclosed (skipping v) := .of_steady .skipping

theorem pure (x : α) : Enclosed (pure x : Reading α) := .of_steady (.pure x)

theorem map {f : Reading α} (hf : Enclosed f) (g : α → β) : Enclosed (g <$> f) :=
  hf.bind fun x => .pure (g x)

theorem ite {c : Prop} [Decidable c] {f g : Reading α} (hf : Enclosed f) (hg : Enclosed g) :
    Enclosed (if c then f else g) := by
  split
  · exact hf
  · exact hg

theorem after {mark : List Char} {f g : Reading α} (hmark : ')' ∉ mark) (hf : Enclosed f)
    (hg : Enclosed g) : Enclosed (after mark f g) where
  suffix h := by
    rcases after_eq_some h with ⟨u, hu, hread⟩ | hread
    · rw [hu]
      exact (hf.suffix hread).trans (List.suffix_append mark u)
    · exact hg.suffix hread
  leaves s := by
    cases hs : strip? mark s with
    | none =>
        refine (hg.leaves s).congr fun t ht => ?_
        simp only [Reading.after, ht.strip?_append hmark, hs, Option.map_none]
    | some r =>
        refine (hf.leaves r).congr fun t ht => ?_
        simp only [Reading.after, ht.strip?_append hmark, hs, Option.map_some]

end Enclosed

/-- There is no bracket in a tail. -/
theorem IsTail.not_mem (ht : IsTail t) : ']' ∉ t := by
  cases ht <;> decide

/-! ## Parts -/

namespace Reading

/-- A value if there is one. -/
def lift (x : Option α) : Reading α := fun s => x.map (·, s)

/-- Nothing, unless the text is at its end. -/
def nonempty : Reading Unit := fun s => if s.isEmpty then none else some ((), s)

/-- A character, an escape or a class after its first character. -/
def memberAs (v : Bool) (c : Char) : Reading Escaped :=
  if c = '\\' then escaped v >>= Escaped.unlessAssertion else pure (.literal ⟨.nil, c, false⟩)

end Reading

/-- A range between two members of a set, if both are characters and in order. -/
def Escaped.rangeTo? (low high : Escaped) : Option SetNode := do
  let lowest ← low.toLimit.toOption
  let highest ← high.toLimit.toOption
  if highest.char < lowest.char then none else some (.range .nil lowest highest)

/-- Whether the minus before a text is the minus of a range. -/
def isRange (v : Bool) (r : List Char) : Bool :=
  peekPast v ('-' :: r) != some ']' && peekPast v ('-' :: r) != some '-'

namespace Reading

/-- The end of a range after its minus. -/
def rangeEnd (v : Bool) (low : Escaped) : Reading SetNode := do
  skipping v
  let c ← next
  let high ← memberAs v c
  lift (low.rangeTo? high)

/-- What follows after a member of a set: a range, or else nothing is read. -/
def partEnd (v : Bool) (low : Escaped) : Reading SetNode
  | [] => none
  | c :: r =>
    if c = '-' && isRange v r then rangeEnd v low r
    else lift low.toPart.toOption (c :: r)

/-- A part of a set after its first character. -/
def partAs (v : Bool) (c : Char) : Reading SetNode := do
  let low ← memberAs v c
  skipping v
  partEnd v low

end Reading

theorem toOption_toPart (e : Escaped) :
    e.toPart.toOption.map SetNode.bare = e.bare.toPart.toOption := by
  cases e <;> rfl

theorem toOption_readMember (c : Char) (r : List Char) :
    ((readMember v (c :: r)).toOption.map (fun o => (o.1.bare, o.2))).bind
        (fun o => o.1.unlessAssertion o.2) = memberAs v c r := by
  by_cases hc : c = '\\'
  · subst hc
    have hread : readMember v ('\\' :: r) = readEscape v ('\\' :: r) := rfl
    rw [hread, toOption_readEscape]
    rfl
  · rw [memberAs, if_neg hc]
    unfold readMember
    split
    · simp_all
    next c' r' _ heq =>
      obtain ⟨rfl, rfl⟩ := List.cons.inj heq
      rfl
    · contradiction

/-- Without an assertion on either side, the range between two members of a set. -/
theorem toOption_range (low high : Escaped) (r : List Char) :
    (do
        let lowest ← low.toLimit
        let highest ← high.toLimit
        if highest.char < lowest.char then throw (fault .emptyRange (low.span.cover high.span))
        return (.range (low.span.cover high.span) lowest highest, r) :
          Except Fault (SetNode × List Char)).toOption.map (fun o => (o.1.bare, o.2))
      = high.bare.unlessAssertion r >>= fun o => lift (low.bare.rangeTo? o.1) o.2 := by
  match low, high with
  | .literal l, .literal h =>
      show ((if h.char < l.char then _ else _ : Except Fault (SetNode × List Char)).toOption.map _)
        = (if h.char < l.char then none else some _).map _
      split <;> rfl
  | .literal _, .assertion .. | .literal _, .letter .. | .literal _, .property .. => rfl
  | .assertion .., high | .letter .., high | .property .., high => cases high <;> rfl

/-- An assertion is refused, and other escapes are not. -/
theorem Escaped.unlessAssertion_bare (e : Escaped) : (∃ span a, e = .assertion span a) ∨
    ∀ s, e.bare.unlessAssertion s = some (e.bare, s) := by
  cases e with
  | assertion span a => exact .inl ⟨span, a, rfl⟩
  | _ => exact .inr fun _ => rfl

/-- What is read after the low end of a range. -/
theorem toOption_rangeEnd (opened : Span) (low : Escaped) (u : List Char) :
    (do
        if u.isEmpty then throw (fault .openSet opened)
        let (high, afterHigh) ← readMember v u
        let lowest ← low.toLimit
        let highest ← high.toLimit
        if highest.char < lowest.char then throw (fault .emptyRange (low.span.cover high.span))
        return (.range (low.span.cover high.span) lowest highest, afterHigh) :
          Except Fault (SetNode × List Char)).toOption.map (fun o => (o.1.bare, o.2))
      = (next u).bind fun o => (memberAs v o.1 o.2).bind fun p =>
          lift (low.bare.rangeTo? p.1) p.2 := by
  match u with
  | [] => rfl
  | c :: r =>
      simp only [next_cons, Option.bind_some, ← toOption_readMember]
      cases readMember v (c :: r) with
      | error f => rfl
      | ok o => exact toOption_range low o.1 o.2

theorem toOption_readPart (opened : Span) (c : Char) (r : List Char) :
    (readPart v opened (c :: r)).toOption.map (fun o => (o.1.bare, o.2)) = partAs v c r := by
  simp only [partAs, bind_apply, ← toOption_readMember]
  cases hlow : readMember v (c :: r) with
  | error f =>
      simp only [readPart, hlow]
      rfl
  | ok o =>
      obtain ⟨low, s⟩ := o
      rcases low.unlessAssertion_bare with ⟨span, a, rfl⟩ | hlow'
      · simp only [readPart, hlow, apply_ite Except.toOption, toOption_bind, toOption_throw,
          Escaped.toPart, Escaped.toLimit, toOption_ok, toOption_error, Option.bind_none,
          Option.bind_some, Option.bind_fun_none, ite_self, Option.map_none]
        rfl
      · simp only [readPart, hlow, toOption_ok, Option.map_some, Option.bind_some, skipping_apply,
          hlow']
        cases hskip : skip v s with
        | nil =>
            simp only [toOption_bind, toOption_ok, Option.bind_some, hskip, List.isEmpty_nil, if_true]
            rfl
        | cons d u =>
            simp only [toOption_bind, toOption_ok, Option.bind_some, hskip, List.isEmpty_cons,
              Bool.false_eq_true, if_false, List.head?_cons, partEnd]
            have hpart : ∀ u : List Char, Option.map (fun o : SetNode × List Char => (o.1.bare, o.2))
                (low.toPart.toOption.bind fun n => some (n, u))
                = lift low.bare.toPart.toOption u := by
              intro u
              rw [← toOption_toPart]
              cases low.toPart.toOption <;> rfl
            by_cases hd : d = '-'
            · subst hd
              have hcond : (some '-' != some '-' || peekPast v ('-' :: u) == some ']'
                  || peekPast v ('-' :: u) == some '-') = !isRange v u := by
                simp [isRange, bne]
              rw [hcond]
              cases isRange v u with
              | true => exact toOption_rangeEnd opened low (skip v u)
              | false =>
                  rw [Bool.not_false, if_pos rfl, toOption_bind]
                  exact hpart ('-' :: u)
            · have hne : (some d != some '-') = true := by simpa using hd
              simp only [hne, Bool.true_or, if_true, hd, decide_false, Bool.false_and,
                Bool.false_eq_true, if_false, toOption_bind]
              exact hpart (d :: u)

/-! ## Starts of sets -/

namespace Reading

/-- The minuses at the start of a set. -/
def minuses (v : Bool) : Reading (List SetNode) := fun s =>
  some ((leadingMinuses v false [] s).1.map SetNode.bare, (leadingMinuses v false [] s).2)

/-- The start of a set after its bracket and its negation. -/
def setMinuses (v negated : Bool) : Reading OpenSet := do
  let ns ← minuses v
  if ns.isEmpty then
    after [']']
      (do skipping v
          nonempty
          pure ⟨.nil, negated, none, [.literal ⟨.nil, ']', false⟩], 0⟩)
      (do nonempty
          pure ⟨.nil, negated, none, [], 0⟩)
  else
    nonempty
    pure ⟨.nil, negated, none, ns, 0⟩

/-- The start of a set after its bracket. -/
def setStart (v : Bool) : Reading OpenSet := do
  skipping v
  after ['^'] (skipping v >>= fun _ => setMinuses v true) (setMinuses v false)

end Reading

/-- An open set without its stretches. -/
def OpenSet.bare (o : OpenSet) : OpenSet :=
  ⟨.nil, o.negated, o.pending.map fun p => (p.1, p.2.bare), o.parts.map SetNode.bare, 0⟩

theorem toOption_setMinuses (s first : List Char) (negated : Bool) :
    (do
        if first.isEmpty then throw (fault .openSet (.between s first))
        let (minuses, t) := leadingMinuses v false [] first
        if t.isEmpty then throw (fault .openSet (.point s))
        if minuses.isEmpty && t.head? == some ']' then
          let u := advance v t
          if u.isEmpty then throw (fault .openSet (.between s u))
          return (⟨.between s u, negated, none, [.literal ⟨.first t, ']', false⟩], t.length⟩, u)
        return (⟨.between s t, negated, none, minuses, t.length⟩, t) :
          Except Fault (OpenSet × List Char)).toOption.map (fun o => (o.1.bare, o.2))
      = setMinuses v negated first := by
  simp only [setMinuses, minuses, bind_apply, Option.bind_some, if_apply, List.isEmpty_map]
  cases first with
  | nil => rfl
  | cons c r =>
      simp only [List.isEmpty_cons, Bool.false_eq_true, if_false]
      generalize leadingMinuses v false [] (c :: r) = o
      obtain ⟨ns, t⟩ := o
      match ns, t with
      | [], [] | _ :: _, [] | _ :: _, _ :: _ => rfl
      | [], d :: u =>
          simp only [List.isEmpty_cons, Bool.false_eq_true, if_false, List.isEmpty_nil, if_true,
            List.head?_cons, Bool.true_and, advance, List.drop_succ_cons, List.drop_zero]
          by_cases hd : d = ']'
          · subst hd
            simp only [beq_self_eq_true, if_true, after, strip?, bind_apply, skipping_apply,
              Option.bind_some]
            cases skip v u <;> rfl
          · have hstrip : strip? [']'] (d :: u) = none := strip?_of_ne hd _ _
            simp only [beq_iff_eq, Option.some.injEq, hd, if_false, after, hstrip]
            rfl

/-- Reading the start of a set, without faults and stretches. -/
theorem toOption_readOpen (s : List Char) :
    (readOpen v s).toOption.map (fun o => (o.1.bare, o.2)) = setStart v (s.drop 1) := by
  obtain ⟨inside, hinside⟩ : ∃ inside, inside = skip v (s.drop 1) := ⟨_, rfl⟩
  rw [setStart, bind_apply, skipping_apply, Option.bind_some, ← hinside]
  cases inside with
  | nil =>
      simp only [readOpen, advance, ← hinside, List.isEmpty_nil, if_true]
      rfl
  | cons c r =>
      by_cases hc : c = '^'
      · subst hc
        simp only [readOpen, advance, ← hinside, List.isEmpty_cons, Bool.false_eq_true, if_false,
          List.head?_cons, List.drop_succ_cons, List.drop_zero, beq_self_eq_true, if_true]
        exact toOption_setMinuses s (skip v r) true
      · have hstrip : strip? ['^'] (c :: r) = none := strip?_of_ne hc _ _
        have hbeq : (some c == some '^') = false := by simpa using hc
        simp only [readOpen, advance, ← hinside, List.isEmpty_cons, Bool.false_eq_true, if_false,
          List.head?_cons, hbeq, after, hstrip]
        exact toOption_setMinuses s (c :: r) false

/-! ## Parts and starts before a tail -/

theorem Steady.memberAs (c : Char) : Steady (memberAs v c) :=
  .ite (fun _ => .escapedPart) fun _ => .pure _

theorem Steady.lift (x : Option α) : Steady (lift x) := by
  cases x with
  | none => exact .fail
  | some x => exact .pure x

theorem Steady.rangeEnd (low : Escaped) : Steady (rangeEnd v low) :=
  .bind .skipping fun _ => .bind .next fun _ => .bind (.memberAs _) fun _ => .lift _

/-- A search that goes past the blanks and comments in a text finds something there, or it goes on
in what follows the text. -/
theorem peekFrom_append : ∀ (inComment : Bool) (s : List Char),
    (∃ c, ∀ t, peekFrom inComment (s ++ t) = some c) ∨
    ∃ inComment', ∀ t, peekFrom inComment (s ++ t) = peekFrom inComment' t
  | inComment, [] => .inr ⟨inComment, fun _ => rfl⟩
  | inComment, c :: s => by
      simp only [List.cons_append, peekFrom]
      split
      · exact peekFrom_append inComment s
      · split
        · exact peekFrom_append true s
        · exact .inl ⟨c, fun _ => rfl⟩

/-- A character that does not matter after a minus. -/
def IsOrdinary (c : Option Char) : Prop := c ≠ some ']' ∧ c ≠ some '-'

theorem IsTail.ordinary_head (ht : IsTail t) : IsOrdinary t.head? := by
  cases ht <;> simp [IsOrdinary]

theorem IsTail.ordinary_peekFrom (ht : IsTail t) (inComment : Bool) {c : Option Char}
    (hc : IsOrdinary c) : IsOrdinary ((peekFrom inComment t).or c) := by
  cases ht <;> cases inComment <;> first | exact hc | simp [IsOrdinary, peekFrom, Text.isBlank]

/-- Where nothing is found, the first character is a blank or starts a comment. -/
theorem ordinary_of_peekFrom_none {s : List Char} (h : peekFrom false s = none) :
    IsOrdinary s.head? := by
  match s with
  | [] => simp [IsOrdinary]
  | c :: s =>
      rw [peekFrom] at h
      split at h
      next hblank =>
        constructor <;> rintro ⟨⟩ <;> revert hblank <;> decide
      · split at h
        next hmark =>
          have hc : c = '#' := by simpa using hmark
          simp [IsOrdinary, hc]
        · cases h

/-- After a minus, either the same character is found whatever the tail is, or it does not
matter. -/
theorem IsTail.peekPast_append (ht : IsTail t) (r : List Char) :
    peekPast v ('-' :: (r ++ t)) = peekPast v ('-' :: r) ∨
    IsOrdinary (peekPast v ('-' :: (r ++ t))) ∧ IsOrdinary (peekPast v ('-' :: r)) := by
  have hhead : r = [] ∨ (r ++ t).head? = r.head? := by
    cases r with
    | nil => exact .inl rfl
    | cons c r => exact .inr rfl
  cases v with
  | false =>
      rcases hhead with rfl | hhead
      · exact .inr ⟨ht.ordinary_head, IsTail.nil.ordinary_head⟩
      · exact .inl hhead
  | true =>
      show (peekFrom false (r ++ t)).or (r ++ t).head? = (peekFrom false r).or r.head? ∨
        IsOrdinary ((peekFrom false (r ++ t)).or (r ++ t).head?) ∧
          IsOrdinary ((peekFrom false r).or r.head?)
      rcases peekFrom_append false r with ⟨c, h⟩ | ⟨inComment, h⟩
      · have hnil := h []
        rw [List.append_nil] at hnil
        rw [h t, hnil]
        exact .inl rfl
      · have hnil : peekFrom false r = none := by
          rw [← List.append_nil r, h []]
          rfl
        rw [h t, hnil, Option.none_or]
        have hr := ordinary_of_peekFrom_none hnil
        rcases hhead with rfl | hhead
        · exact .inr ⟨ht.ordinary_peekFrom _ ht.ordinary_head, hr⟩
        · rw [hhead]
          exact .inr ⟨ht.ordinary_peekFrom _ hr, hr⟩

/-- A minus is the minus of a range, or not, whatever the tail is. -/
theorem IsTail.isRange (ht : IsTail t) (r : List Char) : isRange v (r ++ t) = isRange v r := by
  unfold Pattern.isRange
  rcases ht.peekPast_append (v := v) r with h | ⟨htail, hplain⟩
  · rw [h]
  · rw [bne_iff_ne.mpr htail.1, bne_iff_ne.mpr htail.2, bne_iff_ne.mpr hplain.1,
      bne_iff_ne.mpr hplain.2]

theorem Enclosed.partEnd (low : Escaped) : Enclosed (partEnd v low) where
  suffix {s} := by
    intro x r h
    match s, h with
    | c :: s, h =>
        rw [Reading.partEnd] at h
        split at h
        · exact ((Steady.rangeEnd low).suffix h).trans (List.suffix_cons c s)
        · exact (Steady.lift _).suffix h
  leaves s := by
    match s with
    | [] =>
        refine .beyond fun t ht x r h => ?_
        match t, ht, h with
        | c :: t, ht, h =>
            have hc : c ≠ '-' := by cases ht <;> decide
            rw [List.nil_append, Reading.partEnd, if_neg (by simp [hc])] at h
            exact (Steady.lift _).suffix h
    | c :: s =>
        cases hrange : decide (c = '-') && Pattern.isRange v s with
        | true =>
            refine ((Enclosed.of_steady (Steady.rangeEnd (v := v) low)).leaves s).congr fun t ht => ?_
            rw [List.cons_append, Reading.partEnd, ht.isRange, if_pos hrange]
        | false =>
            refine ((Enclosed.of_steady (.lift low.toPart.toOption)).leaves (c :: s)).congr
              fun t ht => ?_
            rw [List.cons_append, Reading.partEnd, ht.isRange, if_neg (by simp [hrange])]

theorem Enclosed.partAs (c : Char) : Enclosed (partAs v c) :=
  .bind (.of_steady (.memberAs c)) fun _ => .bind .skipping fun _ => .partEnd _

theorem leadingMinuses_suffix : ∀ (inComment : Bool) (done : List SetNode) (s : List Char),
    (leadingMinuses v inComment done s).2 <:+ s
  | _, _, [] => by simp [leadingMinuses]
  | true, done, c :: s => (leadingMinuses_suffix _ done s).trans (List.suffix_cons c s)
  | false, done, c :: s => by
      rw [leadingMinuses]
      split
      · exact (leadingMinuses_suffix _ done s).trans (List.suffix_cons c s)
      · split
        · exact (leadingMinuses_suffix _ done s).trans (List.suffix_cons c s)
        · split
          · exact (leadingMinuses_suffix _ _ s).trans (List.suffix_cons c s)
          · exact List.suffix_rfl

/-- The minuses at the start of a set end in a text, or they go on in what follows the text. -/
theorem leadingMinuses_append : ∀ (inComment : Bool) (done done' : List SetNode) (s : List Char),
    done'.map SetNode.bare = done.map SetNode.bare →
    (∃ ns ns' c r, leadingMinuses v inComment done s = (ns, c :: r) ∧
      leadingMinuses v inComment done' (s ++ t) = (ns', c :: r ++ t) ∧
      ns'.map SetNode.bare = ns.map SetNode.bare) ∨
    (leadingMinuses v inComment done s).2 = [] ∧
      ∃ inComment' done'', leadingMinuses v inComment done' (s ++ t)
        = leadingMinuses v inComment' done'' t
  | inComment, done, done', [], _ => by
      refine .inr ⟨?_, inComment, done', rfl⟩
      cases inComment <;> rfl
  | true, done, done', c :: s, h => leadingMinuses_append _ done done' s h
  | false, done, done', c :: s, h => by
      simp only [List.cons_append, leadingMinuses]
      split
      · exact leadingMinuses_append _ done done' s h
      · split
        · exact leadingMinuses_append _ done done' s h
        · split
          · refine leadingMinuses_append _ _ _ s ?_
            rw [List.map_cons, List.map_cons, h]
            rfl
          · exact .inl ⟨done, done', c, s, rfl, rfl, h⟩

theorem Enclosed.minuses : Enclosed (minuses v) where
  suffix {s} := by
    intro _ _ h
    obtain ⟨-, rfl⟩ := Prod.mk.inj (Option.some.inj h)
    exact leadingMinuses_suffix false [] s
  leaves s := by
    cases hplain : (leadingMinuses v false [] s).2 with
    | cons c r =>
        refine .inside ((leadingMinuses v false [] s).1.map SetNode.bare) c r fun t _ => ?_
        rcases leadingMinuses_append (v := v) (t := t) false [] [] s rfl with
          ⟨ns, ns', d, u, h, h', hns⟩ | ⟨h, -⟩
        · rw [h] at hplain
          obtain ⟨rfl, rfl⟩ := List.cons.inj hplain
          rw [Reading.minuses, h, h', hns]
        · cases hplain.symm.trans h
    | nil =>
        refine .beyond fun t _ x r hread => ?_
        obtain ⟨-, rfl⟩ := Prod.mk.inj (Option.some.inj hread)
        rcases leadingMinuses_append (v := v) (t := t) false [] [] s rfl with
          ⟨ns, ns', d, u, h, -⟩ | ⟨-, inComment, done, h⟩
        · rw [h] at hplain
          cases hplain
        · rw [h]
          exact leadingMinuses_suffix inComment done t

theorem Enclosed.nonempty : Enclosed nonempty where
  suffix {s} := by
    intro _ _ h
    unfold Reading.nonempty at h
    split at h
    · cases h
    · obtain ⟨-, rfl⟩ := Prod.mk.inj (Option.some.inj h)
      exact List.suffix_rfl
  leaves s := by
    match s with
    | c :: r => exact .inside () c r fun _ _ => rfl
    | [] =>
        refine .beyond fun t _ x r h => ?_
        rw [List.nil_append, Reading.nonempty] at h
        split at h
        · cases h
        · obtain ⟨-, rfl⟩ := Prod.mk.inj (Option.some.inj h)
          exact List.suffix_rfl

theorem Enclosed.setStart : Enclosed (setStart v) := by
  have hminuses : ∀ negated, Enclosed (setMinuses v negated) := fun negated =>
    .bind .minuses fun ns => .ite
      (.after (by decide)
        (.bind .skipping fun _ => .bind .nonempty fun _ => .pure _)
        (.bind .nonempty fun _ => .pure _))
      (.bind .nonempty fun _ => .pure _)
  exact .bind .skipping fun _ =>
    .after (by decide) (.bind .skipping fun _ => hminuses true) (hminuses false)

end Webhook.Pattern
