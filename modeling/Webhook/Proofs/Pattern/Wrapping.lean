import Webhook.Proofs.Pattern.Counts
import Webhook.Proofs.Pattern.Fates

/-!
# Patterns inside an anchored group

`anchored` puts a text in a group between the start and the end of the text, whether it is a
pattern by itself or not.  `Wrapped` lists what may come of that, and `wrapped` says that one of
these does.  Where a pattern is read as one part of the group, the tree of the whole is known
(`Node.wrap`), and so are its expression and its depth.

A text is not read as one part of the group in two cases.  A parenthesis of its own may close the
group.  Or it may end in a comment, which takes the parenthesis of the group.
-/

namespace Webhook.Pattern

open Builder (Reads)
open Reading

/-! ## Depth -/

section Depth

variable {small large : Nat}

/-- What is within the limit on nesting is so with fewer parts around it. -/
theorem limited_mono {a b : Except Fault Unit} {f : Fault}
    (h : (if large < depthLimit then a else .error f) = .ok ()) (hle : small ≤ large)
    (hab : a = .ok () → b = .ok ()) :
    (if small < depthLimit then b else .error f) = .ok () := by
  split at h
  next hlt => rw [if_pos (Nat.lt_of_le_of_lt hle hlt), hab h]
  · cases h

mutual

theorem SetNode.checkDepth_mono : ∀ {n : SetNode} {small large : Nat},
    n.checkDepth large = .ok () → small ≤ large → n.checkDepth small = .ok ()
  | .empty _, _, _, h, _ | .literal _, _, _, h, _ | .range .., _, _, h, _
  | .ascii .., _, _, h, _ | .letter .., _, _, h, _ | .property .., _, _, h, _ => h
  | .bracketed .., _, _, h, hle =>
      limited_mono h hle fun h => SetNode.checkDepth_mono h (Nat.succ_le_succ hle)
  | .union .., _, _, h, hle =>
      limited_mono h hle fun h => SetNode.checkDepths_mono h (Nat.succ_le_succ hle)
  | .op .., _, _, h, hle => by
      refine limited_mono h hle fun h => ?_
      obtain ⟨_, hleft, hright⟩ := Json.bind_eq_ok h
      rw [SetNode.checkDepth_mono hleft (Nat.succ_le_succ hle)]
      exact SetNode.checkDepth_mono hright (Nat.succ_le_succ hle)
termination_by structural n => n

theorem SetNode.checkDepths_mono : ∀ {ns : List SetNode} {small large : Nat},
    SetNode.checkDepths large ns = .ok () → small ≤ large → SetNode.checkDepths small ns = .ok ()
  | [], _, _, h, _ => h
  | n :: ns, _, _, h, hle => by
      obtain ⟨_, hn, hns⟩ := Json.bind_eq_ok h
      rw [SetNode.checkDepths, SetNode.checkDepth_mono hn hle]
      exact SetNode.checkDepths_mono hns hle
termination_by structural ns => ns

end

mutual

/-- A tree that is not nested too deeply is not so with fewer parts around it. -/
theorem Node.checkDepth_mono : ∀ {n : Node} {small large : Nat},
    n.checkDepth large = .ok () → small ≤ large → n.checkDepth small = .ok ()
  | .empty _, _, _, h, _ | .flags .., _, _, h, _ | .literal _, _, _, h, _ | .dot _, _, _, h, _
  | .assertion .., _, _, h, _ | .letter .., _, _, h, _ | .property .., _, _, h, _ => h
  | .set .., _, _, h, hle =>
      limited_mono h hle fun h => SetNode.checkDepth_mono h (Nat.succ_le_succ hle)
  | .repetition .., _, _, h, hle | .group .., _, _, h, hle =>
      limited_mono h hle fun h => Node.checkDepth_mono h (Nat.succ_le_succ hle)
  | .alternation .., _, _, h, hle | .concat .., _, _, h, hle =>
      limited_mono h hle fun h => Node.checkDepths_mono h (Nat.succ_le_succ hle)
termination_by structural n => n

theorem Node.checkDepths_mono : ∀ {ns : List Node} {small large : Nat},
    Node.checkDepths large ns = .ok () → small ≤ large → Node.checkDepths small ns = .ok ()
  | [], _, _, h, _ => h
  | n :: ns, _, _, h, hle => by
      obtain ⟨_, hn, hns⟩ := Json.bind_eq_ok h
      rw [Node.checkDepths, Node.checkDepth_mono hn hle]
      exact Node.checkDepths_mono hns hle
termination_by structural ns => ns

end

end Depth

/-! ## Whole texts -/

variable {p text : String} {s r : List Char} {b b' : Builder} {m n : Node} {e : Regex}

/-- The moves that read a whole text end at a builder. -/
def EndsAt (text : String) (b : Builder) : Prop := Reads (.empty []) text.toList b []

theorem reads_nil (h : Reads b [] b' []) : b' = b := by
  rcases h.inv with ⟨-, h⟩ | ⟨m, r, b₁, hmove, -, -⟩
  · exact h
  · rw [List.suffix_nil.mp (skip_suffix b.verbose [])] at hmove
    cases hmove

theorem EndsAt.unique (h : EndsAt text b) (h' : EndsAt text b') : b' = b :=
  reads_nil (h.iff_of_reads.mp h')

theorem parse_eq_ok : parse text = .ok m ↔
    Builder.run text.toList.length.succ (.empty text.toList) text.toList = .ok m ∧
      m.checkDepth 0 = .ok () := by
  rw [parse]
  constructor
  · intro h
    obtain ⟨m', hrun, h⟩ := Json.bind_eq_ok h
    obtain ⟨_, hdepth, h⟩ := Json.bind_eq_ok h
    obtain rfl := Except.ok.inj h
    exact ⟨hrun, hdepth⟩
  · rintro ⟨hrun, hdepth⟩
    rw [hrun]
    show (m.checkDepth 0 >>= fun _ => pure m) = _
    rw [hdepth]
    rfl

theorem checkDepth_bare (n : Node) (depth : Nat) :
    n.bare.checkDepth depth = .ok () ↔ n.checkDepth depth = .ok () := by
  rw [← toOption_eq_some, n.toOption_checkDepth_bare, toOption_eq_some]

theorem toRegex_bare (n : Node) : n.bare.toRegex.toOption = n.toRegex.toOption := by
  rw [Node.toRegex, Node.toRegex, toOption_map, toOption_map, n.toOption_meaning_bare]

/-- A text is read as a pattern when its moves end with no group left open, and the tree is not
nested too deeply. -/
theorem exists_parse_iff : (∃ m, parse text = .ok m ∧ m.bare = n) ↔
    ∃ b, EndsAt text b ∧ b.finish = .ok n ∧ n.checkDepth 0 = .ok () := by
  have hrun := @Builder.run_iff text.toList.length.succ (.empty text.toList) text.toList n
    (Nat.lt_succ_self _)
  simp only [Option.map_eq_some_iff, toOption_eq_some] at hrun
  constructor
  · rintro ⟨m, hm, rfl⟩
    obtain ⟨hm, hdepth⟩ := parse_eq_ok.mp hm
    obtain ⟨b, hb, hfinish⟩ := hrun.mp ⟨m, hm, rfl⟩
    exact ⟨b, hb, hfinish, (checkDepth_bare m 0).mpr hdepth⟩
  · rintro ⟨b, hb, hfinish, hdepth⟩
    obtain ⟨m, hm, rfl⟩ := hrun.mpr ⟨b, hb, hfinish⟩
    exact ⟨m, parse_eq_ok.mpr ⟨hm, (checkDepth_bare m 0).mp hdepth⟩, rfl⟩

/-- A parenthesis that closes no group is what a text is refused for. -/
theorem parse_unopened (h : Reads (.empty []) text.toList b (')' :: r)) (hb : b.groups = []) :
    ∃ f, parse text = .error f ∧ f.slip = .unopenedGroup := by
  have hbare : Reads (Builder.empty text.toList).bare text.toList b (')' :: r) := h
  obtain ⟨f, hf, hslip⟩ := Builder.run_unopened hbare hb (Nat.lt_succ_self _)
  refine ⟨f, ?_, hslip⟩
  rw [parse, hf]
  rfl

/-! ## Pattern texts -/

/-- A text is a pattern by itself, and this is its expression. -/
def Denotes (text : String) (e : Regex) : Prop := ∃ m, parse text = .ok m ∧ m.toRegex = .ok e

/-- A text is a pattern by itself. -/
def Valid (text : String) : Prop := ∃ e, Denotes text e

/-- A text is refused because one of its parentheses closes no group. -/
def Unopened (text : String) : Prop := ∃ f, parse text = .error f ∧ f.slip = .unopenedGroup

/-- A text is a pattern also with a parenthesis behind it, which then is part of a comment. -/
def Swallows (text : String) : Prop := Valid (text ++ ")")

/-- A text is read as a tree that may stand inside two more parts. -/
def Shallow (text : String) : Prop := ∃ m, parse text = .ok m ∧ m.checkDepth 2 = .ok ()

theorem Denotes.unique {d : Regex} (h : Denotes text e) (h' : Denotes text d) : d = e := by
  obtain ⟨m, hm, he⟩ := h
  obtain ⟨m', hm', hd⟩ := h'
  obtain rfl := Except.ok.inj (hm.symm.trans hm')
  exact Except.ok.inj (hd.symm.trans he)

theorem Unopened.not_denotes (h : Unopened text) : ¬Denotes text e := by
  rintro ⟨m, hm, -⟩
  obtain ⟨f, hf, -⟩ := h
  cases hf.symm.trans hm

theorem Unopened.not_valid (h : Unopened text) : ¬Valid text := fun ⟨_, he⟩ => h.not_denotes he

theorem denotes_iff : Denotes text e ↔
    ∃ b n, EndsAt text b ∧ b.finish = .ok n ∧ n.checkDepth 0 = .ok () ∧ n.toRegex = .ok e := by
  have hregex : ∀ m : Node, m.bare.toRegex = .ok e ↔ m.toRegex = .ok e := by
    intro m
    rw [← toOption_eq_some, toRegex_bare, toOption_eq_some]
  constructor
  · rintro ⟨m, hm, he⟩
    obtain ⟨b, hb, hfinish, hdepth⟩ := exists_parse_iff.mp ⟨m, hm, rfl⟩
    exact ⟨b, m.bare, hb, hfinish, hdepth, (hregex m).mpr he⟩
  · rintro ⟨b, n, hb, hfinish, hdepth, he⟩
    obtain ⟨m, hm, rfl⟩ := exists_parse_iff.mpr ⟨b, hb, hfinish, hdepth⟩
    exact ⟨m, hm, (hregex m).mp he⟩

theorem EndsAt.denotes_iff (hb : EndsAt text b) (hfinish : b.finish = .ok n) :
    Denotes text e ↔ n.checkDepth 0 = .ok () ∧ n.toRegex = .ok e := by
  rw [Pattern.denotes_iff]
  constructor
  · rintro ⟨b', n', hb', hfinish', h⟩
    obtain rfl := hb.unique hb'
    obtain rfl := Except.ok.inj (hfinish.symm.trans hfinish')
    exact h
  · intro h
    exact ⟨b, n, hb, hfinish, h⟩

theorem EndsAt.shallow_iff (hb : EndsAt text b) (hfinish : b.finish = .ok n) :
    Shallow text ↔ n.checkDepth 2 = .ok () := by
  constructor
  · rintro ⟨m, hm, hdepth⟩
    obtain ⟨b', hb', hfinish', -⟩ := exists_parse_iff.mp ⟨m, hm, rfl⟩
    obtain rfl := hb.unique hb'
    obtain rfl := Except.ok.inj (hfinish.symm.trans hfinish')
    exact (checkDepth_bare m 2).mpr hdepth
  · intro hdepth
    have hless := Node.checkDepth_mono hdepth (Nat.zero_le 2)
    obtain ⟨m, hm, rfl⟩ := exists_parse_iff.mpr ⟨b, hb, hfinish, hless⟩
    exact ⟨m, hm, (checkDepth_bare m 2).mp hdepth⟩

/-- A text with a group left open at its end is no pattern. -/
theorem not_valid_of_groups (h : ∀ b, EndsAt text b → b.groups ≠ []) : ¬Valid text := by
  rintro ⟨e, he⟩
  obtain ⟨b, n, hb, hfinish, -⟩ := denotes_iff.mp he
  have hgroups := h b hb
  rw [Builder.finish] at hfinish
  split at hfinish
  · contradiction
  · cases hfinish

/-! ## The tree of an anchored group -/

/-- A group around a tree, between the start and the end of a line. -/
def Node.wrap (n : Node) : Node :=
  .concat .nil [.assertion .nil .lineStart, .group .nil false [] n, .assertion .nil .lineEnd]

theorem Node.toRegex_wrap (n : Node) : n.wrap.toRegex = n.toRegex.map Regex.anchored := by
  have hflags : Settings.initial.apply [] = .initial := rfl
  simp only [toRegex, wrap, meaning, inTurn, bind, Except.bind, hflags]
  cases n.meaning .initial <;> rfl

theorem Node.checkDepth_wrap (n : Node) :
    n.wrap.checkDepth 0 = .ok () ↔ n.checkDepth 2 = .ok () := by
  have hone : 0 < depthLimit := by decide
  have htwo : 0 + 1 < depthLimit := by decide
  simp only [wrap, checkDepth, checkDepths, if_pos hone, if_pos htwo]
  cases n.checkDepth 2 with
  | error f => exact Iff.rfl
  | ok _ => exact Iff.rfl

/-! ## Reading an anchored group -/

/-- The group that is put around a text, while it is open. -/
def wrapping : OpenGroup :=
  ⟨.nil, false, [], (Level.empty []).push (.assertion .nil .lineStart), false⟩

theorem anchored_toList (p : String) :
    (anchored p).toList = '^' :: '(' :: '?' :: ':' :: (p.toList ++ [')', '$']) := by
  simp [anchored]

theorem reads_wrapping (s : List Char) :
    Reads (.empty []) ('^' :: '(' :: '?' :: ':' :: s) ((Builder.empty []).inside wrapping) s := by
  have hopening : moveAs false '(' ('?' :: ':' :: s) = some (.opened (.plain []), s) := by
    rfl
  refine .step rfl rfl (.step hopening rfl ?_)
  exact .done

/-- What an anchored group is read as depends on how its text is read inside the group. -/
theorem endsAt_anchored : EndsAt (anchored p) b ↔
    Reads ((Builder.empty []).inside wrapping) (p.toList ++ [')', '$']) b [] := by
  rw [EndsAt, anchored_toList]
  exact (reads_wrapping _).iff_of_reads

theorem skip_anchor (v : Bool) : skip v [')', '$'] = [')', '$'] := by cases v <;> rfl

theorem move_anchor (b : Builder) :
    move b.verbose (skip b.verbose [')', '$']) = some (.closed, ['$']) := by
  rw [skip_anchor]
  rfl

/-- Inside the group that is put around a text, the rest of the anchored group is read. -/
theorem reads_anchor (hb : b.groups = []) :
    ∃ b', Reads (b.inside wrapping) [')', '$'] b' [] ∧
      b'.finish = .ok (b.level.close []).wrap := by
  obtain ⟨verbose, level, groups, names⟩ := b
  obtain rfl : groups = [] := hb
  exact ⟨_, .step (move_anchor _) rfl (.step (r := []) rfl rfl .done), rfl⟩

/-- Where the text has left groups open, the rest of the anchored group does not close all of
them. -/
theorem groups_of_anchor (hb : b.groups ≠ []) (h : Reads (b.inside wrapping) [')', '$'] b' []) :
    b'.groups ≠ [] := by
  obtain ⟨b₁, hgroups, hclose⟩ : ∃ b₁ : Builder, b₁.groups ≠ [] ∧
      Reads (b.inside wrapping) [')', '$'] b₁ (skip b₁.verbose ['$']) := by
    obtain ⟨verbose, level, groups, names⟩ := b
    match groups, hb with
    | g :: gs, _ =>
        refine ⟨_, ?_, .step (move_anchor _) rfl .done⟩
        exact List.append_ne_nil_of_right_ne_nil gs (List.cons_ne_nil wrapping [])
  have hrest : Reads b₁ ['$'] b' [] := Reads.skip_iff.mp (hclose.iff_of_reads.mp h)
  exact hrest.groups_ne_nil (by decide) hgroups

/-! ## What comes of it -/

/-- What may come of a text in an anchored group. -/
inductive Wrapped (p : String) : Prop where
  /-- A parenthesis of the text closes no group of the text. -/
  | unopened (h : Unopened p)
  /-- The text is read as one part of the group. -/
  | grouped (n : Node) (b b' : Builder) (hplain : EndsAt p b) (hn : b.finish = .ok n)
      (hgroup : EndsAt (anchored p) b') (hn' : b'.finish = .ok n.wrap) (hclosed : ¬Swallows p)
  /-- The group stays open.  A pattern that this happens to ends in a comment. -/
  | opened (hplain : Valid p → Swallows p) (hgroup : ¬Valid (anchored p))

theorem closed_toList (p : String) : (p ++ ")").toList = p.toList ++ [')'] := by simp

/-- A comment at the end of a pattern takes a parenthesis as well. -/
theorem swallows_of_reads (h : ∀ t, IsTail t → Reads (.empty []) (p.toList ++ t) b [])
    (hp : Valid p) : Swallows p := by
  have hplain : EndsAt p b := by
    have hnil := h [] .nil
    rwa [List.append_nil] at hnil
  have hclose : EndsAt (p ++ ")") b := by
    rw [EndsAt, closed_toList]
    exact h [')'] .close
  obtain ⟨e, he⟩ := hp
  obtain ⟨b', n, hb', hfinish, hn⟩ := denotes_iff.mp he
  obtain rfl := hplain.unique hb'
  exact ⟨e, (hclose.denotes_iff hfinish).mpr hn⟩

/-- One of the three comes of it. -/
theorem wrapped (p : String) : Wrapped p := by
  cases fate (.empty []) p.toList with
  | unopened b r h hb => exact .unopened (parse_unopened h hb)
  | broken hplain hgroup =>
      refine .opened (fun hp => ?_) (not_valid_of_groups fun b hb => ?_)
      · obtain ⟨e, he⟩ := hp
        obtain ⟨b, n, hb, -⟩ := denotes_iff.mp he
        exact absurd hb (hplain b)
      · exact hgroup wrapping _ .anchor b (endsAt_anchored.mp hb)
  | swallowed b h =>
      refine .opened (swallows_of_reads h) (not_valid_of_groups fun b' hb' => ?_)
      have hgroup : Reads ((Builder.empty []).inside wrapping) (p.toList ++ [')', '$'])
          (b.inside wrapping) [] := (h _ .anchor).inside
      obtain rfl := reads_nil (hgroup.iff_of_reads.mp (endsAt_anchored.mp hb'))
      exact List.append_ne_nil_of_right_ne_nil _ (List.cons_ne_nil _ _)
  | apart b h =>
      have hplain : EndsAt p b := by
        have hnil := h [] .nil
        rwa [List.append_nil] at hnil
      have hgroup : ∀ b', EndsAt (anchored p) b' ↔ Reads (b.inside wrapping) [')', '$'] b' [] :=
        fun b' => endsAt_anchored.trans (h _ .anchor).inside.iff_of_reads
      by_cases hb : b.groups = []
      · obtain ⟨b', hb', hfinish⟩ := reads_anchor hb
        refine .grouped _ b b' hplain ?_ ((hgroup b').mpr hb') hfinish ?_
        · rw [Builder.finish, hb]
        · refine Unopened.not_valid (parse_unopened (b := b) (r := []) ?_ hb)
          rw [closed_toList]
          exact h [')'] .close
      · refine .opened (fun hp => absurd hp ?_) (not_valid_of_groups fun b' hb' => ?_)
        · refine not_valid_of_groups fun b' hb' => ?_
          obtain rfl := hplain.unique hb'
          exact hb
        · exact groups_of_anchor hb ((hgroup b').mp hb')

/-- An anchored group is a pattern exactly when its text is one by itself that does not end in a
comment and may stand inside two more parts.  Its expression is then that of the text, between the
start and the end. -/
theorem denotes_anchored_iff (hp : ¬Unopened p) : Denotes (anchored p) e ↔
    (∃ d, Denotes p d ∧ e = d.anchored) ∧ ¬Swallows p ∧ Shallow p := by
  cases wrapped p with
  | unopened h => exact absurd h hp
  | grouped n b b' hplain hn hgroup hn' hclosed =>
      have hregex : n.wrap.toRegex = .ok e ↔ ∃ d, n.toRegex = .ok d ∧ e = d.anchored := by
        rw [n.toRegex_wrap]
        cases n.toRegex <;> simp [Except.map, eq_comm]
      rw [hgroup.denotes_iff hn', hplain.shallow_iff hn, n.checkDepth_wrap, hregex]
      constructor
      · rintro ⟨hdepth, d, hd, he⟩
        exact ⟨⟨d, (hplain.denotes_iff hn).mpr ⟨n.checkDepth_mono hdepth (Nat.zero_le 2), hd⟩, he⟩,
          hclosed, hdepth⟩
      · rintro ⟨⟨d, hd, he⟩, -, hdepth⟩
        exact ⟨hdepth, d, ((hplain.denotes_iff hn).mp hd).2, he⟩
  | opened hplain hgroup =>
      constructor
      · intro he
        exact absurd ⟨e, he⟩ hgroup
      · rintro ⟨⟨d, hd, -⟩, hclosed, -⟩
        exact absurd (hplain ⟨d, hd⟩) hclosed

/-- The counts in the expression of a pattern are in order. -/
theorem Denotes.counted (h : Denotes text e) : e.Counted := by
  obtain ⟨b, n, hb, hfinish, -, he⟩ := denotes_iff.mp h
  obtain ⟨o, ho, rfl⟩ := Json.map_eq_ok he
  refine Node.counted_of_meaning ho ?_
  have hordered : b.Ordered := hb.ordered
    ⟨⟨List.forall_mem_nil _, List.forall_mem_nil _⟩, List.forall_mem_nil _⟩
  rw [Builder.finish] at hfinish
  split at hfinish
  · obtain rfl := Except.ok.inj hfinish
    exact hordered.1.close []
  · cases hfinish

end Webhook.Pattern
