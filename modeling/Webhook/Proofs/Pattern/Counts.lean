import Webhook.Proofs.Json.Readings
import Webhook.Proofs.Pattern.Matching
import Webhook.Proofs.Pattern.Moves

/-!
# Counts in order

A repetition whose least number is above its greatest is refused when it is read.  So no tree that
is read has one, which is an invariant of the moves of a builder (`Builder.Reads.ordered`), and
nor has its expression (`Node.counted_of_meaning`).
-/

namespace Webhook.Pattern

open Reading
open Json (bind_eq_ok map_eq_ok)

variable {v : Bool} {s r : List Char} {m : Move}

mutual

/-- In every repetition the least number is at most the greatest. -/
def Node.Ordered : Node → Prop
  | .repetition _ least greatest body => body.Ordered ∧ ∀ m ∈ greatest, least ≤ m
  | .group _ _ _ body => body.Ordered
  | .alternation _ parts | .concat _ parts => Node.AllOrdered parts
  | _ => True
termination_by structural n => n

/-- In every repetition of several parts the least number is at most the greatest. -/
def Node.AllOrdered : List Node → Prop
  | [] => True
  | n :: ns => n.Ordered ∧ Node.AllOrdered ns
termination_by structural ns => ns

end

theorem Node.allOrdered_iff : ∀ {ns : List Node}, Node.AllOrdered ns ↔ ∀ n ∈ ns, n.Ordered
  | [] => by simp [AllOrdered]
  | n :: ns => by simp [AllOrdered, @Node.allOrdered_iff ns]

theorem Node.ordered_ofParts {span : Span} : ∀ {ns : List Node}, (∀ n ∈ ns, n.Ordered) →
    (Node.ofParts span ns).Ordered
  | [], _ => trivial
  | [n], h => h n List.mem_cons_self
  | _ :: _ :: _, h => Node.allOrdered_iff.mpr h

/-! ## Expressions -/

theorem counted_of_literalMeaning {s : Settings} {l : Literal} {e : Regex}
    (h : literalMeaning s l = .ok e) : e.Counted := by
  obtain ⟨_, -, h⟩ := bind_eq_ok h
  obtain rfl := Except.ok.inj h
  trivial

theorem counted_of_dotMeaning {s : Settings} {span : Span} {e : Regex}
    (h : dotMeaning s span = .ok e) : e.Counted := by
  unfold dotMeaning at h
  split at h
  · cases h
  · obtain rfl := Except.ok.inj h
    trivial

mutual

/-- The expression of a tree whose counts are in order. -/
theorem Node.counted_of_meaning : ∀ {n : Node} {s : Settings} {o : Regex × Settings},
    n.meaning s = .ok o → n.Ordered → o.1.Counted
  | .empty _, _, _, h, _ | .flags .., _, _, h, _ | .assertion .., _, _, h, _ => by
      obtain rfl := Except.ok.inj h
      trivial
  | .literal l, _, _, h, _ => by
      obtain ⟨e, he, rfl⟩ := map_eq_ok h
      exact counted_of_literalMeaning he
  | .dot span, _, _, h, _ => by
      obtain ⟨e, he, rfl⟩ := map_eq_ok h
      exact counted_of_dotMeaning he
  | .letter .., _, _, h, _ | .property .., _, _, h, _ => by
      obtain ⟨set, -, rfl⟩ := map_eq_ok h
      trivial
  | .set .., _, _, h, _ => by
      obtain ⟨inner, -, h⟩ := bind_eq_ok h
      obtain ⟨set, -, h⟩ := bind_eq_ok h
      obtain rfl := Except.ok.inj h
      trivial
  | .repetition _ least greatest body, s, _, h, hn => by
      obtain ⟨o, hbody, h⟩ := bind_eq_ok h
      obtain rfl := Except.ok.inj h
      exact ⟨Node.counted_of_meaning hbody hn.1, hn.2⟩
  | .group _ _ items body, s, _, h, hn => by
      obtain ⟨o, hbody, h⟩ := bind_eq_ok h
      obtain rfl := Except.ok.inj h
      have hcounted : o.1.Counted := Node.counted_of_meaning hbody hn
      exact hcounted
  | .alternation _ parts, s, _, h, hn => Node.counted_of_oneOf h hn
  | .concat _ parts, s, _, h, hn => Node.counted_of_inTurn h hn

theorem Node.counted_of_oneOf : ∀ {ns : List Node} {s : Settings} {o : Regex × Settings},
    Node.oneOf s ns = .ok o → Node.AllOrdered ns → o.1.Counted
  | [], _, _, h, _ => by
      obtain rfl := Except.ok.inj h
      trivial
  | n :: ns, s, _, h, hn => by
      obtain ⟨a, ha, h⟩ := bind_eq_ok h
      obtain ⟨b, hb, h⟩ := bind_eq_ok h
      obtain rfl := Except.ok.inj h
      exact ⟨Node.counted_of_meaning ha hn.1, Node.counted_of_oneOf hb hn.2⟩

theorem Node.counted_of_inTurn : ∀ {ns : List Node} {s : Settings} {o : Regex × Settings},
    Node.inTurn s ns = .ok o → Node.AllOrdered ns → o.1.Counted
  | [], _, _, h, _ => by
      obtain rfl := Except.ok.inj h
      trivial
  | n :: ns, s, _, h, hn => by
      obtain ⟨a, ha, h⟩ := bind_eq_ok h
      obtain ⟨b, hb, h⟩ := bind_eq_ok h
      obtain rfl := Except.ok.inj h
      exact ⟨Node.counted_of_meaning ha hn.1, Node.counted_of_inTurn hb hn.2⟩

end

/-! ## Moves -/

/-- A move that keeps counts in order. -/
def Move.Ordered : Move → Prop
  | .part n => n.Ordered
  | .repeated least greatest => ∀ m ∈ greatest, least ≤ m
  | _ => True

theorem setFrom_ordered : ∀ {fuel : Nat} {current : OpenSet} {outer : List OpenSet}
    {s r : List Char} {n : Node}, setFrom v fuel current outer s = some (n, r) → n.Ordered
  | 0, _, _, _, _, _, h => nomatch h
  | fuel + 1, current, outer, s, r, n, h => by
      rw [setFrom_succ] at h
      obtain ⟨⟨c, u⟩, -, h⟩ := Option.bind_eq_some_iff.mp h
      dsimp only at h
      split at h
      · match outer, h with
        | [], h =>
            obtain ⟨rfl, -⟩ := Prod.mk.inj (Option.some.inj h)
            trivial
        | around :: outer, h => exact setFrom_ordered h
      · obtain ⟨o, -, h⟩ := Option.bind_eq_some_iff.mp h
        exact setFrom_ordered h

theorem setBody_ordered {n : Node} (h : setBody v s = some (n, r)) : n.Ordered := by
  obtain ⟨o, -, h⟩ := Option.bind_eq_some_iff.mp h
  exact setFrom_ordered h

theorem countEnd_ordered {least : Nat} {greatest : Option Nat} {o : Nat × Option Nat}
    (h : countEnd v least greatest s = some (o, r)) : ∀ m ∈ o.2, o.1 ≤ m := by
  rw [countEnd, bind_apply, skipping_apply, Option.bind_some, bind_apply, lazyMark_apply,
    Option.bind_some, if_apply] at h
  split at h
  · cases h
  next hcount =>
    obtain ⟨rfl, -⟩ := Prod.mk.inj (Option.some.inj h)
    rintro m ⟨⟩
    simpa using hcount

theorem countClose_ordered {least : Nat} {greatest : Option Nat} {o : Nat × Option Nat}
    (h : countClose v least greatest s = some (o, r)) : ∀ m ∈ o.2, o.1 ≤ m := by
  obtain ⟨⟨c, u⟩, -, h⟩ := Option.bind_eq_some_iff.mp h
  dsimp only at h
  rw [if_apply] at h
  split at h
  · exact countEnd_ordered h
  · cases h

theorem count_ordered {o : Nat × Option Nat} (h : count v s = some (o, r)) :
    ∀ m ∈ o.2, o.1 ≤ m := by
  rw [count, bind_apply, skipping_apply, Option.bind_some] at h
  obtain ⟨⟨least, u⟩, -, h⟩ := Option.bind_eq_some_iff.mp h
  rcases after_eq_some h with ⟨w, -, hrange⟩ | hexact
  · rw [countGreatest, bind_apply, skipping_apply, Option.bind_some] at hrange
    rcases after_eq_some hrange with ⟨_, -, hend⟩ | hgreatest
    · exact countEnd_ordered hend
    · obtain ⟨o, -, hclose⟩ := Option.bind_eq_some_iff.mp hgreatest
      exact countClose_ordered hclose
  · exact countClose_ordered hexact

theorem moveAs_ordered {c : Char} (h : moveAs v c s = some (m, r)) : m.Ordered := by
  unfold moveAs at h
  split at h
  case h_4 =>
    rw [map_apply] at h
    obtain ⟨⟨n, u⟩, hset, heq⟩ := Option.map_eq_some_iff.mp h
    obtain ⟨rfl, rfl⟩ := Prod.mk.inj heq
    exact setBody_ordered hset
  case h_8 =>
    rw [map_apply] at h
    obtain ⟨⟨o, u⟩, hcount, heq⟩ := Option.map_eq_some_iff.mp h
    obtain ⟨rfl, rfl⟩ := Prod.mk.inj heq
    exact count_ordered hcount
  case h_9 =>
    rw [map_apply] at h
    obtain ⟨⟨e, u⟩, -, heq⟩ := Option.map_eq_some_iff.mp h
    obtain ⟨rfl, rfl⟩ := Prod.mk.inj heq
    cases e <;> trivial
  case h_1 =>
    rw [map_apply] at h
    obtain ⟨⟨o, u⟩, -, heq⟩ := Option.map_eq_some_iff.mp h
    obtain ⟨rfl, rfl⟩ := Prod.mk.inj heq
    trivial
  case h_5 | h_6 | h_7 =>
    rw [map_apply] at h
    obtain ⟨⟨o, u⟩, -, heq⟩ := Option.map_eq_some_iff.mp h
    obtain ⟨rfl, rfl⟩ := Prod.mk.inj heq
    simp [Move.Ordered]
  all_goals
    obtain ⟨rfl, -⟩ := Prod.mk.inj (Option.some.inj h)
    trivial

/-- The counts in the parts and branches of a level are in order. -/
def Level.Ordered (l : Level) : Prop := (∀ n ∈ l.parts, n.Ordered) ∧ ∀ n ∈ l.branches, n.Ordered

namespace Level

variable {l : Level}

theorem Ordered.push {n : Node} (hl : l.Ordered) (hn : n.Ordered) : (l.push n).Ordered :=
  ⟨List.forall_mem_cons.mpr ⟨hn, hl.1⟩, hl.2⟩

theorem Ordered.branch (hl : l.Ordered) (s : List Char) : (l.branch s).Ordered :=
  Node.ordered_ofParts fun n hn => hl.1 n (List.mem_reverse.mp hn)

theorem Ordered.close (hl : l.Ordered) (s : List Char) : (l.close s).Ordered := by
  unfold Level.close
  split
  · exact hl.branch s
  · refine Node.allOrdered_iff.mpr fun n hn => ?_
    rcases List.mem_cons.mp (List.mem_reverse.mp hn) with rfl | hn
    · exact hl.branch s
    · exact hl.2 n hn

end Level

namespace Builder

variable {b b' : Builder}

/-- All counts that have been read are in order. -/
def Ordered (b : Builder) : Prop := b.level.Ordered ∧ ∀ g ∈ b.groups, g.outer.Ordered

theorem Ordered.push {n : Node} (hb : b.Ordered) (hn : n.Ordered) : (b.push n).Ordered :=
  ⟨hb.1.push hn, hb.2⟩

theorem Ordered.openGroup (hb : b.Ordered) (opened : Span) (remembered : Bool)
    (items : List FlagItem) (inside : List Char) :
    (b.openGroup opened remembered items inside).Ordered :=
  ⟨⟨List.forall_mem_nil _, List.forall_mem_nil _⟩, List.forall_mem_cons.mpr hb⟩

/-- Every move keeps counts in order. -/
theorem apply_ordered (h : b.apply m = some b') (hm : m.Ordered) (hb : b.Ordered) :
    b'.Ordered := by
  cases makes_of_apply h with
  | part n => exact hb.push hm
  | opened o names remembered items => exact Ordered.openGroup hb ..
  | flags items verbose => exact Ordered.push hb trivial
  | bar => exact ⟨⟨List.forall_mem_nil _, List.forall_mem_cons.mpr ⟨hb.1.branch [], hb.1.2⟩⟩, hb.2⟩
  | closed g groups span hgroups =>
      have houter := hb.2
      rw [hgroups] at houter
      have hclose : (b.level.close []).Ordered := hb.1.close []
      exact ⟨(houter g List.mem_cons_self).push hclose,
        fun g' hg' => houter g' (List.mem_cons_of_mem g hg')⟩
  | repeated least greatest n parts span hparts =>
      have hall := hb.1.1
      rw [hparts] at hall
      have hrest : Builder.Ordered { b with level := { b.level with parts } } :=
        ⟨⟨fun k hk => hall k (List.mem_cons_of_mem n hk), hb.1.2⟩, hb.2⟩
      exact hrest.push ⟨hall n List.mem_cons_self, hm⟩

/-- Every run of moves keeps counts in order. -/
theorem Reads.ordered (h : Reads b s b' r) (hb : b.Ordered) : b'.Ordered := by
  induction h with
  | done => exact hb
  | step hmove happly _ ih =>
      obtain ⟨⟨c, u⟩, -, hmove⟩ := Option.bind_eq_some_iff.mp hmove
      exact ih (apply_ordered happly (moveAs_ordered hmove) hb)

end Builder

end Webhook.Pattern
