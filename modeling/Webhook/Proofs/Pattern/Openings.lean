import Webhook.Pattern.Parser
import Webhook.Proofs.Pattern.Steady

/-!
# Starts of groups and counts before a tail

The readers of what follows an opening parenthesis and of counts in braces, without faults and
stretches.  All of them are steady.
-/

namespace Webhook.Pattern

open Reading

variable {v : Bool} {s t : List Char}

/-! ## Names and flags -/

/-- What a parenthesis starts, without its stretch. -/
def Opening.bare : Opening → Opening
  | .remembered name => .remembered (name.map fun p => (p.1, .nil))
  | .plain items => .plain items
  | .flags items => .flags items

/-- The flag of a letter, or the minus. -/
def FlagItem.ofChar? (c : Char) : Option FlagItem :=
  if c = '-' then some .minus else (Flag.ofChar? c).map .flag

namespace Reading

/-- The rest of a name up to its closing mark. -/
def nameFrom (first : Bool) (done : List Char) : Reading String := fun s =>
  (readNameFrom [] first done s).toOption.map fun o => (o.1, o.2.2)

/-- Flags and the character that closes them.  `done` are the flags before, latest first. -/
def flagsFrom (done : List FlagItem) : Reading (List FlagItem × Char)
  | [] => none
  | c :: r =>
    if c = ':' || c = ')' then
      if done.head? = some .minus then none else some ((done.reverse, c), r)
    else
      match FlagItem.ofChar? c with
      | none => none
      | some item => if item ∈ done then none else flagsFrom (item :: done) r

/-- A named group. -/
def namedOpening : Reading Opening :=
  (fun name => .remembered (some (name, .nil))) <$> nameFrom true []

/-- A group with flags, or flags for the rest of the group around them. -/
def flagsOpening : Reading Opening := do
  let (items, c) ← flagsFrom []
  if c = ')' then
    if items.isEmpty then fail else pure (.flags items)
  else pure (.plain items)

/-- What a parenthesis starts, after the blanks and comments behind it. -/
def openingMark : Reading Opening :=
  after "?=".toList fail <| after "?!".toList fail <| after "?<=".toList fail <|
  after "?<!".toList fail <| after "?P<".toList namedOpening <| after "?<".toList namedOpening <|
  after "?".toList flagsOpening (pure (.remembered none))

/-- What a parenthesis starts, after the parenthesis. -/
def opening (v : Bool) : Reading Opening := do
  skipping v
  openingMark

end Reading

theorem toOption_readNameFrom (start : List Char) : ∀ (s : List Char) (first : Bool)
    (done : List Char),
    (readNameFrom start first done s).toOption.map (fun o => (o.1, o.2.2)) = nameFrom first done s
  | [], _, _ => rfl
  | c :: s, first, done => by
      simp only [nameFrom, readNameFrom]
      split
      · split <;> rfl
      · split
        · exact toOption_readNameFrom start s false (c :: done)
        · rfl

theorem lookup_eq_none_iff {items : List (FlagItem × Span)} {item : FlagItem} :
    items.lookup item = none ↔ item ∉ items.map (·.1) := by
  simp only [List.lookup_eq_none_iff, List.mem_map, bne_iff_ne, not_exists, not_and]
  exact forall_congr' fun p => forall_congr' fun _ => ne_comm

/-- Flags end before a colon or a parenthesis. -/
theorem readFlagsFrom_rest : ∀ {s : List Char} {done : List (FlagItem × Span)}
    {items : List FlagItem} {rest : List Char}, readFlagsFrom done s = .ok (items, rest) →
    ∃ c r, rest = c :: r
  | [], _, _, _, h => nomatch h
  | c :: s, done, _, _, h => by
      unfold readFlagsFrom at h
      split at h
      · split at h
        · cases h
        · exact ⟨c, s, (Prod.mk.inj (Except.ok.inj h)).2.symm⟩
      · dsimp only at h
        split at h
        · cases h
        · split at h
          · cases h
          · exact readFlagsFrom_rest h

theorem toOption_readFlagsFrom : ∀ (s : List Char) (done : List (FlagItem × Span)),
    ((readFlagsFrom done s).toOption.bind fun o => (next o.2).map fun p => ((o.1, p.1), p.2))
      = flagsFrom (done.map (·.1)) s
  | [], _ => rfl
  | c :: s, done => by
      unfold readFlagsFrom flagsFrom
      split
      · match done with
        | [] => rfl
        | (.minus, span) :: done => rfl
        | (.flag f, span) :: done => simp
      · show ((match FlagItem.ofChar? c with
          | none => _
          | some item => _ : Except Fault (List FlagItem × List Char)).toOption.bind _) = _
        cases FlagItem.ofChar? c with
        | none => rfl
        | some item =>
            dsimp only
            cases hlookup : done.lookup item with
            | none =>
                rw [if_neg (lookup_eq_none_iff.mp hlookup)]
                exact toOption_readFlagsFrom s _
            | some earlier =>
                have hmem : item ∈ done.map (·.1) := by
                  by_contra hmem
                  rw [lookup_eq_none_iff.mpr hmem] at hlookup
                  cases hlookup
                rw [if_pos hmem]
                rfl

theorem toOption_flagsOpening (r inside : List Char) :
    (do
        let (items, rest) ← readFlagsFrom [] r
        match rest with
        | ')' :: rest =>
          if items.isEmpty then throw (fault .nothingToRepeat (.point inside))
          return (.flags items, rest)
        | _ => return (.plain items, rest.drop 1) :
          Except Fault (Opening × List Char)).toOption.map (fun o => (o.1.bare, o.2))
      = flagsOpening r := by
  have hflags : _ = flagsFrom [] r := toOption_readFlagsFrom r []
  simp only [flagsOpening, bind_apply, ← hflags, toOption_bind]
  cases hread : readFlagsFrom [] r with
  | error f => rfl
  | ok o =>
      obtain ⟨items, rest⟩ := o
      obtain ⟨c, r', rfl⟩ := readFlagsFrom_rest hread
      simp only [toOption_ok, Option.bind_some, next_cons, Option.map_some, if_apply]
      by_cases hc : c = ')'
      · subst hc
        rw [if_pos rfl]
        cases items <;> rfl
      · rw [if_neg hc]
        split
        · simp_all
        · rfl

/-- Reading the start of a group, without faults and stretches. -/
theorem toOption_readOpening (s : List Char) :
    (readOpening v s).toOption.map (fun o => (o.1.bare, o.2)) = opening v (s.drop 1) := by
  simp only [readOpening, opening, openingMark, advance, lookMarks, bind_apply, skipping_apply,
    Option.bind_some, List.findSome?_cons, List.findSome?_nil]
  generalize skip v (s.drop 1) = inside
  unfold after
  cases strip? "?=".toList inside with
  | some r => rfl
  | none =>
  cases strip? "?!".toList inside with
  | some r => rfl
  | none =>
  cases strip? "?<=".toList inside with
  | some r => rfl
  | none =>
  cases strip? "?<!".toList inside with
  | some r => rfl
  | none =>
  have hname : ∀ r, (readName r >>= fun o =>
      pure (Opening.remembered (some (o.1, o.2.1)), o.2.2)).toOption.map
        (fun o => (o.1.bare, o.2)) = namedOpening r := by
    intro r
    rw [toOption_bind, namedOpening, map_apply, ← toOption_readNameFrom r r true []]
    show _ = ((readName r).toOption.map _).map _
    cases (readName r).toOption <;> rfl
  cases strip? "?P<".toList inside with
  | some r => exact hname r
  | none =>
  cases strip? "?<".toList inside with
  | some r => exact hname r
  | none =>
  rw [Option.or_none]
  dsimp only
  split
  next flagged =>
    have hstrip : strip? "?".toList ('?' :: flagged) = some flagged := by
      simp [strip?]
    rw [hstrip]
    cases flagged with
    | nil => rfl
    | cons c r => exact toOption_flagsOpening (c :: r) _
  next hmark =>
    have hstrip : strip? "?".toList inside = none := by
      cases inside with
      | nil => rfl
      | cons c r =>
          have hc : c ≠ '?' := fun hc => hmark r (hc ▸ rfl)
          exact strip?_of_ne hc _ _
    rw [hstrip]
    rfl

/-- A name needs its closing mark. -/
theorem nameFrom_of_not_mem : ∀ {s : List Char} {first : Bool} {done : List Char}, '>' ∉ s →
    nameFrom first done s = none
  | [], _, _, _ => rfl
  | c :: s, first, done, h => by
      obtain ⟨hc, hs⟩ := not_or.mp (mt List.mem_cons.mpr h)
      simp only [nameFrom, readNameFrom, if_neg (Ne.symm hc)]
      split
      · exact nameFrom_of_not_mem hs
      · rfl

theorem Steady.nameFrom (first : Bool) (done : List Char) : Steady (nameFrom first done) where
  suffix {s} := by
    induction s generalizing first done with
    | nil => intro _ _ h; cases h
    | cons c s ih =>
        intro x r h
        refine List.IsSuffix.trans ?_ (List.suffix_cons c s)
        simp only [Reading.nameFrom, readNameFrom] at h
        split at h
        · split at h
          · cases h
          · obtain ⟨-, rfl⟩ := Prod.mk.inj (Option.some.inj h)
            exact List.suffix_rfl
        · split at h
          · exact ih false (c :: done) h
          · cases h
  follows s := by
    induction s generalizing first done with
    | nil =>
        refine .of_none fun t ht => nameFrom_of_not_mem ?_
        cases ht <;> decide
    | cons c s ih =>
        by_cases hc : c = '>'
        · subst hc
          cases first with
          | true => exact .of_none fun _ _ => rfl
          | false => exact .apart _ s fun _ _ => rfl
        · cases hname : isNameChar first c with
          | true =>
              refine (ih false (c :: done)).congr fun t _ => ?_
              simp only [List.cons_append, Reading.nameFrom, readNameFrom, hc, hname, if_true,
                if_false]
          | false =>
              refine .of_none fun t _ => ?_
              simp [Reading.nameFrom, readNameFrom, hc, hname]

theorem Steady.flagsFrom (done : List FlagItem) : Steady (flagsFrom done) where
  suffix {s} := by
    induction s generalizing done with
    | nil => intro _ _ h; cases h
    | cons c s ih =>
        intro x r h
        refine List.IsSuffix.trans ?_ (List.suffix_cons c s)
        unfold Reading.flagsFrom at h
        split at h
        · split at h
          · cases h
          · obtain ⟨-, rfl⟩ := Prod.mk.inj (Option.some.inj h)
            exact List.suffix_rfl
        · split at h
          · cases h
          · split at h
            · cases h
            · exact ih _ h
  follows s := by
    induction s generalizing done with
    | nil =>
        refine .broken fun t ht x r h => ?_
        match t, ht, h with
        | c :: t, ht, h =>
            have hc : c = ')' := by cases ht <;> rfl
            subst hc
            have hclose : (decide (')' = ':') || decide (')' = ')')) = true := rfl
            rw [List.nil_append, Reading.flagsFrom, if_pos hclose] at h
            split at h
            · cases h
            · obtain ⟨-, rfl⟩ := Prod.mk.inj (Option.some.inj h)
              exact Nat.lt_succ_self _
    | cons c s ih =>
        simp only [List.cons_append, Reading.flagsFrom]
        split
        · split
          · exact .of_none fun _ _ => rfl
          · exact .apart _ s fun _ _ => rfl
        · split
          · exact .of_none fun _ _ => rfl
          · split
            · exact .of_none fun _ _ => rfl
            · exact ih _

theorem Steady.namedOpening : Steady namedOpening := .map (.nameFrom true []) _

theorem Steady.flagsOpening : Steady flagsOpening :=
  .bind (.flagsFrom []) fun _ => .ite (fun _ => .ite (fun _ => .fail) fun _ => .pure _)
    fun _ => .pure _

theorem Steady.opening : Steady (opening v) :=
  .bind .skipping fun _ =>
    .after (by decide) .fail <| .after (by decide) .fail <| .after (by decide) .fail <|
    .after (by decide) .fail <| .after (by decide) .namedOpening <|
    .after (by decide) .namedOpening <| .after (by decide) .flagsOpening (.pure _)

/-! ## Counts -/

namespace Reading

/-- Skips blanks. -/
def skippingBlanks : Reading Unit := fun s => some ((), s.dropWhile Text.isBlank)

/-- The number of digits, if there are digits and it is not too large. -/
def numberOf? (digits : List Char) : Option Nat :=
  let n := digits.foldl (fun n c => n * 10 + (c.toNat - '0'.toNat)) 0
  if digits.isEmpty then none else if n < 0x100000000 then some n else none

/-- A number of repetitions. -/
def number (v : Bool) : Reading Nat := do
  skippingBlanks
  let digits ← runOf v Char.isDigit
  skippingBlanks
  match numberOf? digits with
  | some n => pure n
  | none => fail

/-- The question mark that may follow a repetition. -/
def lazyMark : Reading Unit := after ['?'] (pure ()) (pure ())

/-- The end of a count, after its closing brace. -/
def countEnd (v : Bool) (least : Nat) (greatest : Option Nat) : Reading (Nat × Option Nat) := do
  skipping v
  lazyMark
  if (greatest.map fun g => decide (g < least)).getD false then fail else pure (least, greatest)

/-- A closing brace and the end of a count. -/
def countClose (v : Bool) (least : Nat) (greatest : Option Nat) : Reading (Nat × Option Nat) := do
  let c ← next
  if c = '\x7d' then countEnd v least greatest else fail

/-- The greatest number of a count, if there is one, and the end of the count. -/
def countGreatest (v : Bool) (least : Nat) : Reading (Nat × Option Nat) := do
  skipping v
  after ['\x7d'] (countEnd v least none) do
    let greatest ← number v
    countClose v least (some greatest)

/-- The rest of a count, after its least number. -/
def countAfter (v : Bool) (least : Nat) : Reading (Nat × Option Nat) :=
  after [','] (countGreatest v least) (countClose v least (some least))

/-- A count in braces, after the first one. -/
def count (v : Bool) : Reading (Nat × Option Nat) := do
  skipping v
  let least ← number v
  countAfter v least

end Reading

theorem Steady.skippingBlanks : Steady skippingBlanks where
  suffix {s} := by
    intro _ _ h
    obtain ⟨-, rfl⟩ := Prod.mk.inj (Option.some.inj h)
    exact List.dropWhile_suffix _
  follows s := by
    refine .apart () (s.dropWhile Text.isBlank) fun t ht => congrArg (fun r => some ((), r)) ?_
    have htail : t.dropWhile Text.isBlank = t := by cases ht <;> decide
    rw [List.dropWhile_append, htail]
    split
    next hnil => rw [List.isEmpty_iff.mp hnil, List.nil_append]
    · rfl

theorem Steady.number : Steady (number v) := by
  refine .bind .skippingBlanks fun _ => .bind (.runOf (by decide)) fun digits =>
    .bind .skippingBlanks fun _ => ?_
  cases numberOf? digits with
  | some n => exact .pure n
  | none => exact .fail

theorem Steady.lazyMark : Steady lazyMark := .after (by decide) (.pure _) (.pure _)

theorem Steady.countEnd (least : Nat) (greatest : Option Nat) : Steady (countEnd v least greatest) :=
  .bind .skipping fun _ => .bind .lazyMark fun _ => .ite (fun _ => .fail) fun _ => .pure _

theorem Steady.countClose (least : Nat) (greatest : Option Nat) :
    Steady (countClose v least greatest) :=
  .bind .next fun _ => .ite (fun _ => .countEnd _ _) fun _ => .fail

theorem Steady.countGreatest (least : Nat) : Steady (countGreatest v least) :=
  .bind .skipping fun _ => .after (by decide) (.countEnd _ _)
    (.bind .number fun _ => .countClose _ _)

theorem Steady.count : Steady (count v) :=
  .bind .skipping fun _ => .bind .number fun _ => .after (by decide) (.countGreatest _)
    (.countClose _ _)

theorem toOption_readNumber (s : List Char) :
    (Builder.readNumber v s).1.toOption.map (fun n => (n, (Builder.readNumber v s).2))
      = number v s := by
  simp only [Builder.readNumber, number, bind_apply, skippingBlanks, runOf_apply, Option.bind_some,
    numberOf?]
  generalize run v Char.isDigit false (s.dropWhile Text.isBlank) = o
  split
  · rfl
  · split <;> rfl

theorem lazyMark_apply (s : List Char) : lazyMark s = some ((), Builder.dropLazy s) := by
  match s with
  | [] => rfl
  | c :: s =>
      by_cases hc : c = '?'
      · subst hc
        rfl
      · have hstrip : strip? ['?'] (c :: s) = none := strip?_of_ne hc _ _
        have hsame : Builder.dropLazy (c :: s) = c :: s := by
          unfold Builder.dropLazy
          split
          · simp_all
          · rfl
        rw [lazyMark, after, hstrip, hsame]
        rfl

theorem toOption_countEnd (s u : List Char) (least : Nat) (greatest : Option Nat) :
    (do
        let rest := Builder.dropLazy (advance v ('\x7d' :: u))
        if (greatest.map fun g => decide (g < least)).getD false then
          throw (fault .emptyCounts (.between s rest))
        return (least, greatest, rest) :
          Except Fault (Nat × Option Nat × List Char)).toOption.map (fun o => ((o.1, o.2.1), o.2.2))
      = countEnd v least greatest u := by
  simp only [countEnd, bind_apply, skipping_apply, Option.bind_some, lazyMark_apply,
    if_apply, advance,
    List.drop_one, List.tail_cons]
  split <;> rfl

theorem toOption_countClose (s u : List Char) (least : Nat) (greatest : Option Nat) :
    (do
        if u.head? != some '\x7d' then throw (fault .openCount (.between s u))
        let rest := Builder.dropLazy (advance v u)
        if (greatest.map fun g => decide (g < least)).getD false then
          throw (fault .emptyCounts (.between s rest))
        return (least, greatest, rest) :
          Except Fault (Nat × Option Nat × List Char)).toOption.map (fun o => ((o.1, o.2.1), o.2.2))
      = countClose v least greatest u := by
  match u with
  | [] => rfl
  | c :: u =>
      simp only [countClose, bind_apply, next_cons, Option.bind_some, if_apply, List.head?_cons]
      by_cases hc : c = '\x7d'
      · subst hc
        exact toOption_countEnd s u least greatest
      · have hne : (some c != some '\x7d') = true := by simpa using hc
        rw [if_pos hne, if_neg hc]
        rfl

/-- Reading a count, without faults and stretches. -/
theorem toOption_readCount (s : List Char) :
    (Builder.readCount v s).toOption.map (fun o => ((o.1, o.2.1), o.2.2)) = count v (s.drop 1) := by
  obtain ⟨inside, hinside⟩ : ∃ inside, inside = skip v (s.drop 1) := ⟨_, rfl⟩
  obtain ⟨⟨first, t⟩, hfirst⟩ : ∃ o, o = Builder.readNumber v inside := ⟨_, rfl⟩
  have hcount : count v (s.drop 1) = first.toOption.bind fun least => countAfter v least t := by
    simp only [count, bind_apply, skipping_apply, Option.bind_some, ← hinside,
      ← toOption_readNumber, ← hfirst]
    cases first <;> rfl
  rw [hcount]
  cases first with
  | error f =>
      simp only [Builder.readCount, advance, ← hinside, ← hfirst, apply_ite Except.toOption,
        toOption_bind, toOption_throw, toOption_error, Option.bind_none, ite_self, Option.map_none]
  | ok least =>
      have hne : inside.isEmpty = false := by
        match inside, hfirst with
        | c :: inside, _ => rfl
        | [], hfirst => cases v <;> cases hfirst
      cases t with
      | nil =>
          simp only [Builder.readCount, advance, ← hinside, ← hfirst, hne, Bool.false_eq_true,
            if_false, List.isEmpty_nil, if_true]
          rfl
      | cons c t =>
          simp only [Builder.readCount, advance, ← hinside, ← hfirst, hne, Bool.false_eq_true,
            if_false, List.isEmpty_cons, List.head?_cons, List.drop_succ_cons, List.drop_zero]
          by_cases hc : c = ','
          · subst hc
            simp only [beq_self_eq_true, if_true, toOption_ok, Option.bind_some, countAfter,
              countGreatest, after, strip?, bind_apply, skipping_apply]
            cases skip v t with
            | nil =>
                have hnil : number v [] = none := by cases v <;> rfl
                rw [hnil]
                rfl
            | cons d u =>
                simp only [List.isEmpty_cons, Bool.false_eq_true, if_false, List.head?_cons]
                by_cases hd : d = '\x7d'
                · subst hd
                  exact toOption_countClose s ('\x7d' :: u) least none
                · have hstrip : strip? ['\x7d'] (d :: u) = none := strip?_of_ne hd _ _
                  simp only [beq_iff_eq, Option.some.injEq, hd, if_false, hstrip,
                    ← toOption_readNumber]
                  cases (Builder.readNumber v (d :: u)).1 with
                  | error f => rfl
                  | ok greatest => exact toOption_countClose s _ least (some greatest)
          · have hstrip : strip? [','] (c :: t) = none := strip?_of_ne hc _ _
            simp only [beq_iff_eq, Option.some.injEq, hc, if_false, toOption_ok, Option.bind_some,
              countAfter, after, hstrip]
            exact toOption_countClose s (c :: t) least (some least)

end Webhook.Pattern
