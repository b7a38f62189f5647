import Webhook.Proofs.Pattern.Moves

/-!
# Reading a pattern inside a group

The moves that read a text by itself are also made inside one more group, as long as no parenthesis
closes that group (`Builder.Reads.inside`).  So the reading of a text by itself and its reading in a
group, with a tail, can be compared.  `Fate` lists what may happen, and `fate` says that one of
these does.
-/

namespace Webhook.Pattern

open Reading

variable {v : Bool} {s t r : List Char} {m : Move}

namespace Builder

variable {b b' : Builder} {g : OpenGroup}

/-- A builder inside one more group. -/
def inside (b : Builder) (g : OpenGroup) : Builder := { b with groups := b.groups ++ [g] }

theorem takeRepeated_inside (s : List Char) : ((b.inside g).takeRepeated s).toOption
    = (b.takeRepeated s).toOption.map fun o => (o.1, o.2.inside g) := by
  have hparts : (b.inside g).level.parts = b.level.parts := rfl
  unfold takeRepeated
  rw [hparts]
  cases b.level.parts with
  | nil => rfl
  | cons n ns =>
      dsimp only
      split <;> rfl

/-- A move is made inside one more group as it is by itself, unless it closes that group. -/
theorem apply_inside (h : m = .closed → b.groups ≠ []) :
    (b.inside g).apply m = (b.apply m).map fun b => b.inside g := by
  cases m with
  | part n => rfl
  | bar => rfl
  | opened o =>
      cases o with
      | remembered name =>
          cases name with
          | none => rfl
          | some name =>
              show (if (b.names.lookup name.1).isSome then none else _) = _
              rw [apply]
              split <;> rfl
      | plain items => rfl
      | flags items => rfl
  | closed =>
      have hgroups := h rfl
      have happend : (b.inside g).groups = b.groups ++ [g] := rfl
      rw [apply, apply, stepClose, stepClose, happend]
      cases hb : b.groups with
      | nil => contradiction
      | cons h hs => rfl
  | repeated least greatest =>
      rw [apply, apply, repeatLast, repeatLast, toOption_bind, toOption_bind, takeRepeated_inside]
      cases (b.takeRepeated []).toOption <;> rfl

/-- A closing parenthesis needs an open group. -/
theorem apply_closed_nil (h : b.groups = []) : b.apply .closed = none := by
  rw [apply, stepClose, h]
  rfl

/-- No other move closes a group. -/
theorem apply_groups (h : b.apply m = some b') (hm : m ≠ .closed) (hb : b.groups ≠ []) :
    b'.groups ≠ [] := by
  cases makes_of_apply h with
  | opened => exact List.cons_ne_nil _ _
  | closed => contradiction
  | _ => exact hb

end Builder

/-- Only a parenthesis closes a group, and nothing else is read with it. -/
theorem moveAs_closed {c : Char} (h : moveAs v c s = some (.closed, r)) : c = ')' ∧ r = s := by
  unfold moveAs at h
  split at h
  case h_2 =>
    obtain ⟨-, rfl⟩ := Prod.mk.inj (Option.some.inj h)
    exact ⟨rfl, rfl⟩
  case h_3 | h_10 | h_11 | h_12 | h_13 => cases h
  all_goals
    rw [map_apply] at h
    obtain ⟨o, -, heq⟩ := Option.map_eq_some_iff.mp h
    cases heq

namespace Builder.Reads

variable {b b' : Builder} {g : OpenGroup}

/-- What is read by itself is read in the same way inside one more group. -/
theorem inside (h : Reads b s b' r) : Reads (b.inside g) s (b'.inside g) r := by
  induction h with
  | @done b s => exact @done (b.inside g) s
  | @step b b₁ b' s r u m hmove happly _ ih =>
      have hm : m = .closed → b.groups ≠ [] := by
        rintro rfl hnil
        cases (apply_closed_nil hnil).symm.trans happly
      refine .step hmove ?_ ih
      rw [apply_inside hm, happly]
      rfl

/-- Where no parenthesis stands, a group that is open stays open. -/
theorem groups_ne_nil (h : Reads b s b' r) (hs : ')' ∉ s) (hb : b.groups ≠ []) :
    b'.groups ≠ [] := by
  induction h with
  | done => exact hb
  | @step b b₁ b' s r u m hmove happly _ ih =>
      match hskip : skip b.verbose s, hmove with
      | c :: w, hmove =>
          have hw : ')' ∉ c :: w := mt (List.IsSuffix.mem · (hskip ▸ skip_suffix b.verbose s)) hs
          have hr : r <:+ w := moveAs_suffix hmove
          refine ih (mt (fun h => List.mem_cons_of_mem c (hr.mem h)) hw) (apply_groups happly ?_ hb)
          rintro rfl
          obtain ⟨rfl, -⟩ := moveAs_closed hmove
          exact hw List.mem_cons_self

end Builder.Reads

/-! ## What happens to a text -/

open Builder (Reads)

/-- What may happen to a text that is read by a builder, or by the same builder inside one more
group and with a tail. -/
inductive Fate (b : Builder) (s : List Char) : Prop where
  /-- It is read up to the tail, in the same way for every tail. -/
  | apart (b' : Builder) (h : ∀ t, IsTail t → Reads b (s ++ t) b' t)
  /-- It ends in a comment, which takes the tail as well. -/
  | swallowed (b' : Builder) (h : ∀ t, IsTail t → Reads b (s ++ t) b' [])
  /-- A parenthesis closes no group. -/
  | unopened (b' : Builder) (r : List Char) (h : Reads b s b' (')' :: r)) (hb : b'.groups = [])
  /-- It is not read, and inside one more group that group stays open. -/
  | broken (hplain : ∀ b', ¬Reads b s b' [])
      (hgroup : ∀ (g : OpenGroup) (t : List Char), IsTail t → ∀ b',
        Reads (b.inside g) (s ++ t) b' [] → b'.groups ≠ [])

/-- Where a text starts with blanks and comments only, the rest of it has the same fate. -/
theorem IsTail.skip_append (ht : IsTail t) {u : List Char} (h : skip v u = []) :
    skip v (u ++ t) = t ∨ skip v (u ++ t) = [] := by
  have hskip : Follows fun t => skipping v (u ++ t) := Steady.skipping.follows u
  cases hskip with
  | apart _ r hr =>
      have hnil : skip v (u ++ []) = r ++ [] := (Prod.mk.inj (Option.some.inj (hr [] .nil))).2
      rw [List.append_nil, h, List.append_nil] at hnil
      exact .inl ((Prod.mk.inj (Option.some.inj (hr t ht))).2.trans (hnil ▸ rfl))
  | swallowed _ hr => exact .inr (Prod.mk.inj (Option.some.inj (hr t ht))).2
  | broken hr => exact absurd (hr [] .nil () _ rfl) (Nat.not_lt_zero _)

variable {b b' : Builder} {c : Char} {w : List Char}

/-- How a move follows from the first character of a text, apart from the edge of a word before a
brace with nothing in it. -/
theorem moveAs_follows (c : Char) (w : List Char) : Follows (fun t => moveAs v c (w ++ t)) ∨
    c = '\\' ∧ ∃ u, w = 'b' :: '\x7b' :: u ∧ skip v u = [] := by
  by_cases hc : c = '\\'
  · subst hc
    rcases escaped_follows w with h | h
    · exact .inl ((h.map fun e => .part (Builder.nodeOfEscape e)).congr fun _ _ => rfl)
    · exact .inr ⟨rfl, h⟩
  · exact .inl ((Steady.moveAs hc).follows w)

/-- What holds at the end of every run holds if it does so after the first move. -/
theorem Builder.Reads.forall_of_move {P : Builder → Prop} (hskip : skip b.verbose s = c :: w)
    (h : ∀ m r b₁, moveAs b.verbose c w = some (m, r) → b.apply m = some b₁ →
      ∀ b', Reads b₁ r b' [] → P b') (b' : Builder) (hreads : Reads b s b' []) : P b' := by
  rcases hreads.inv with ⟨hnil, -⟩ | ⟨m, r, b₁, hmove, happly, hreads⟩
  · cases hskip.symm.trans hnil
  · rw [hskip] at hmove
    exact h m r b₁ hmove happly b' hreads

/-- A text is broken if what follows its first move is. -/
theorem Fate.of_first (hskip : ∀ t, IsTail t → skip b.verbose (s ++ t) = c :: w ++ t)
    (hplain : ∀ m r b₁, moveAs b.verbose c w = some (m, r) → b.apply m = some b₁ →
      ∀ b', ¬Reads b₁ r b' [])
    (hgroup : ∀ (g : OpenGroup) (t : List Char), IsTail t → ∀ m r b₁,
      moveAs b.verbose c (w ++ t) = some (m, r) → (b.inside g).apply m = some b₁ →
      ∀ b', Reads b₁ r b' [] → b'.groups ≠ []) : Fate b s := by
  refine .broken (fun b' => ?_) fun g t ht b' => ?_
  · have hnil := hskip [] .nil
    rw [List.append_nil, List.append_nil] at hnil
    exact Reads.forall_of_move hnil hplain b'
  · have hskip : skip (b.inside g).verbose (s ++ t) = c :: (w ++ t) := hskip t ht
    exact Reads.forall_of_move hskip (hgroup g t ht) b'

/-- A text is broken if its first move cannot be made. -/
theorem Fate.of_apply_none (hskip : ∀ t, IsTail t → skip b.verbose (s ++ t) = c :: w ++ t)
    (hmove : ∀ t, IsTail t → ∃ r, moveAs b.verbose c (w ++ t) = some (m, r))
    (happly : b.apply m = none) (hm : m = .closed → b.groups ≠ []) : Fate b s := by
  refine .of_first hskip (fun m' r b₁ hmove' happly' => ?_)
    fun g t ht m' r b₁ hmove' happly' => ?_
  · obtain ⟨r', hr'⟩ := hmove [] .nil
    rw [List.append_nil, hmove'] at hr'
    obtain ⟨rfl, -⟩ := Prod.mk.inj (Option.some.inj hr')
    cases happly.symm.trans happly'
  · obtain ⟨r', hr'⟩ := hmove t ht
    rw [hmove'] at hr'
    obtain ⟨rfl, -⟩ := Prod.mk.inj (Option.some.inj hr')
    rw [Builder.apply_inside hm, happly] at happly'
    cases happly'

/-- After a first move, the text has the fate of its rest. -/
theorem Fate.of_rest {b₁ : Builder}
    (hskip : ∀ t, IsTail t → skip b.verbose (s ++ t) = c :: w ++ t)
    (hmove : ∀ t, IsTail t → moveAs b.verbose c (w ++ t) = some (m, r ++ t))
    (happly : b.apply m = some b₁) (hm : m = .closed → b.groups ≠ []) (h : Fate b₁ r) :
    Fate b s := by
  have hstep : ∀ t, IsTail t → ∀ {b' : Builder} {u : List Char}, Reads b₁ (r ++ t) b' u →
      Reads b (s ++ t) b' u := by
    intro t ht b' u h
    exact .step (by rw [hskip t ht]; exact hmove t ht) happly h
  cases h with
  | apart b' h => exact .apart b' fun t ht => hstep t ht (h t ht)
  | swallowed b' h => exact .swallowed b' fun t ht => hstep t ht (h t ht)
  | unopened b' u h hb =>
      rw [← List.append_nil r] at h
      have hs := hstep [] .nil h
      rw [List.append_nil] at hs
      exact .unopened b' u hs hb
  | broken hplain hgroup =>
      refine .of_first hskip (fun m' r' b₂ hmove' happly' => ?_)
        fun g t ht m' r' b₂ hmove' happly' => ?_
      · have hnil := hmove [] .nil
        rw [List.append_nil, List.append_nil, hmove'] at hnil
        obtain ⟨rfl, rfl⟩ := Prod.mk.inj (Option.some.inj hnil)
        obtain rfl := Option.some.inj (happly'.symm.trans happly)
        exact hplain
      · rw [hmove t ht] at hmove'
        obtain ⟨rfl, rfl⟩ := Prod.mk.inj (Option.some.inj hmove')
        rw [Builder.apply_inside hm, happly] at happly'
        obtain rfl := Option.some.inj happly'
        exact hgroup g t ht

/-- A tail without its parenthesis closes nothing. -/
theorem IsTail.not_mem_of_length (ht : IsTail t) (hr : r <:+ t) (hlength : r.length < t.length) :
    ')' ∉ r := by
  cases ht with
  | nil => cases hlength
  | close =>
      obtain rfl : r = [] := List.length_eq_zero_iff.mp (Nat.lt_one_iff.mp hlength)
      decide
  | anchor =>
      have hsuffix : r <:+ ['$'] :=
        List.suffix_of_suffix_length_le hr (List.suffix_cons _ _) (Nat.le_of_lt_succ hlength)
      exact mt (List.IsSuffix.mem · hsuffix) (by decide)

/-- A move that takes some of the tail leaves open the group around it. -/
theorem groups_ne_nil_of_past {g : OpenGroup} {b₁ : Builder} (ht : IsTail t)
    (hmove : moveAs v c (w ++ t) = some (m, r)) (hlength : r.length < t.length)
    (happly : (b.inside g).apply m = some b₁) (hreads : Reads b₁ r b' []) : b'.groups ≠ [] := by
  have hr : r <:+ t :=
    List.suffix_of_suffix_length_le (moveAs_suffix hmove) (List.suffix_append w t)
      (Nat.le_of_lt hlength)
  refine hreads.groups_ne_nil (ht.not_mem_of_length hr hlength) (Builder.apply_groups happly ?_ ?_)
  · rintro rfl
    obtain ⟨-, rfl⟩ := moveAs_closed hmove
    rw [List.length_append] at hlength
    omega
  · exact List.append_ne_nil_of_right_ne_nil _ (List.cons_ne_nil g [])

/-- After an edge of a word and a brace with nothing in it, nothing is read. -/
theorem not_reads_brace {u : List Char} (hskip : skip b.verbose u = t) (ht : IsTail t) :
    ¬Reads b ('\x7b' :: u) b' [] := by
  have hbrace : skip b.verbose ('\x7b' :: u) = '\x7b' :: u := by
    cases b.verbose <;> rfl
  refine Reads.forall_of_move (P := fun _ => False) hbrace (fun m r b₁ hmove => ?_) b'
  have hnone : moveAs b.verbose '\x7b' u = none := by
    have hcount : count b.verbose u = none := by
      rw [count, bind_apply, skipping_apply, hskip]
      cases ht <;> cases b.verbose <;> rfl
    show ((fun o => Move.repeated o.1 o.2) <$> count b.verbose) u = none
    rw [map_apply, hcount]
    rfl
  cases hnone.symm.trans hmove

theorem bracedEdge_of_skip_nil {u : List Char} (hskip : skip v u = []) :
    bracedEdge v u = none := by
  rw [bracedEdge, hskip]

/-- What is read of an edge of a word and a brace with nothing in it: the brace is left. -/
theorem moveAs_openEdge {u : List Char} (ht : IsTail t) (hskip : skip v u = [])
    (hmove : moveAs v '\\' ('b' :: '\x7b' :: u ++ t) = some (m, r)) :
    t ≠ [] ∧ skip v (u ++ t) = t ∧ m = .part (.assertion .nil .wordEdge) ∧
      r = '\x7b' :: (u ++ t) := by
  have hread : ((fun a => Move.part (.assertion .nil a)) <$> bracedEdge v) (u ++ t)
      = some (m, r) := by
    rw [← hmove]
    show _ = ((fun e => Move.part (Builder.nodeOfEscape e)) <$> escaped v) _
    rw [map_apply, map_apply, List.cons_append, escaped, bind_apply, next_cons, Option.bind_some,
      escapedAs_edge, map_apply, Option.map_map]
    rfl
  rw [map_apply] at hread
  obtain ⟨⟨a, r'⟩, hedge, heq⟩ := Option.map_eq_some_iff.mp hread
  obtain ⟨rfl, rfl⟩ := Prod.mk.inj heq
  rcases ht.skip_append hskip with htail | hnil
  · cases ht with
    | nil =>
        rw [bracedEdge_of_skip_nil htail] at hedge
        cases hedge
    | close | anchor =>
        rw [bracedEdge, htail] at hedge
        obtain ⟨rfl, rfl⟩ := Prod.mk.inj (Option.some.inj hedge)
        exact ⟨List.cons_ne_nil _ _, htail, rfl, rfl⟩
  · rw [bracedEdge_of_skip_nil hnil] at hedge
    cases hedge

/-- The fate of a text by the way in which its first move follows. -/
theorem Fate.of_follows (hskip : ∀ t, IsTail t → skip b.verbose (s ++ t) = c :: w ++ t)
    (hclose : ∀ {u r m}, moveAs b.verbose c u = some (m, r) → m = .closed → b.groups ≠ [])
    (hfollows : Follows fun t => moveAs b.verbose c (w ++ t))
    (hrest : ∀ b₁ r, r <:+ w → Fate b₁ r) : Fate b s := by
  cases hfollows with
  | apart m r hmove =>
      cases happly : b.apply m with
      | none =>
          exact .of_apply_none hskip (fun t ht => ⟨_, hmove t ht⟩) happly (hclose (hmove [] .nil))
      | some b₁ =>
          have hr : moveAs b.verbose c w = some (m, r) := by
            have hnil := hmove [] .nil
            rwa [List.append_nil, List.append_nil] at hnil
          exact .of_rest hskip hmove happly (hclose hr) (hrest b₁ r (moveAs_suffix hr))
  | swallowed m hmove =>
      cases happly : b.apply m with
      | none =>
          exact .of_apply_none hskip (fun t ht => ⟨_, hmove t ht⟩) happly (hclose (hmove [] .nil))
      | some b₁ =>
          refine .swallowed b₁ fun t ht => .step (by rw [hskip t ht]; exact hmove t ht) happly ?_
          have hdone : Reads b₁ [] b₁ (skip b₁.verbose []) := .done
          rwa [List.suffix_nil.mp (skip_suffix b₁.verbose [])] at hdone
  | broken hmove =>
      refine .of_first hskip (fun m r b₁ h => ?_) fun g t ht m r b₁ h happly b' hreads => ?_
      · have hlt := hmove [] .nil m r (by rwa [List.append_nil])
        cases hlt
      · exact groups_ne_nil_of_past ht h (hmove t ht m r h) happly hreads

/-- The edge of a word and a brace with nothing in it are not read. -/
theorem Fate.of_openEdge {u : List Char} (hu : skip b.verbose u = [])
    (hskip : ∀ t, IsTail t → skip b.verbose (s ++ t) = '\\' :: ('b' :: '\x7b' :: u) ++ t) :
    Fate b s := by
  refine .of_first hskip (fun m r b₁ hmove => ?_) fun g t ht m r b₁ hmove happly b' hreads => ?_
  · have hmove : moveAs b.verbose '\\' ('b' :: '\x7b' :: u ++ []) = some (m, r) := by
      rwa [List.append_nil]
    exact absurd rfl (moveAs_openEdge .nil hu hmove).1
  · obtain ⟨-, hut, rfl, rfl⟩ := moveAs_openEdge ht hu hmove
    obtain rfl := Option.some.inj happly
    exact absurd hreads (not_reads_brace hut ht)

/-- One of the four things happens. -/
theorem fate (b : Builder) (s : List Char) : Fate b s := by
  have hskip : Follows fun t => skipping b.verbose (s ++ t) := Steady.skipping.follows s
  cases hskip with
  | broken h => exact absurd (h [] .nil () _ rfl) (Nat.not_lt_zero _)
  | swallowed _ h =>
      refine .swallowed b fun t ht => ?_
      rw [← (Prod.mk.inj (Option.some.inj (h t ht))).2]
      exact .done
  | apart _ u h =>
      have hs : ∀ t, IsTail t → skip b.verbose (s ++ t) = u ++ t := fun t ht =>
        (Prod.mk.inj (Option.some.inj (h t ht))).2
      cases u with
      | nil =>
          refine .apart b fun t ht => ?_
          have hdone : Reads b (s ++ t) b (skip b.verbose (s ++ t)) := .done
          rwa [hs t ht] at hdone
      | cons c w =>
          have hnil : skip b.verbose s = c :: w := by
            have := hs [] .nil
            rwa [List.append_nil, List.append_nil] at this
          by_cases hclose : c = ')' ∧ b.groups = []
          · obtain ⟨rfl, hb⟩ := hclose
            exact .unopened b w (hnil ▸ .done) hb
          rcases moveAs_follows c w with hfollows | ⟨rfl, u, rfl, hu⟩
          · refine .of_follows hs ?_ hfollows fun b₁ r hr => ?_
            · rintro u r m hmove rfl hb
              exact hclose ⟨(moveAs_closed hmove).1, hb⟩
            · have hlt : r.length < s.length := by
                have hle := (skip_suffix b.verbose s).length_le
                rw [hnil] at hle
                exact Nat.lt_of_lt_of_le (Nat.lt_succ_of_le hr.length_le) hle
              exact fate b₁ r
          · exact .of_openEdge hu hs
termination_by s.length

end Webhook.Pattern
