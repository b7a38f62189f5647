import Webhook.Pattern.Meaning

/-!
# Trees without their stretches

The stretches in a tree only serve to report faults.  `Node.bare` is the same tree with all of them
at the end of the pattern.  It means the same (`Node.toOption_meaning_bare`), and it is nested as
deeply (`Node.toOption_checkDepth_bare`), apart from the stretches of the faults.  So two readings
of a pattern may be compared by their bare trees.
-/

namespace Webhook.Pattern

/-! ## Results without their faults -/

section
variable {ε α β : Type}

@[simp] theorem toOption_ok (a : α) : (Except.ok a : Except ε α).toOption = some a := rfl

@[simp] theorem toOption_error (e : ε) : (Except.error e : Except ε α).toOption = none := rfl

@[simp] theorem toOption_pure (a : α) : (pure a : Except ε α).toOption = some a := rfl

@[simp] theorem toOption_throw (e : ε) : (throw e : Except ε α).toOption = none := rfl

@[simp] theorem toOption_map (f : α → β) (x : Except ε α) :
    (x.map f).toOption = x.toOption.map f := by
  cases x <;> rfl

@[simp] theorem toOption_bind (x : Except ε α) (f : α → Except ε β) :
    (x >>= f).toOption = x.toOption.bind fun a => (f a).toOption := by
  cases x <;> rfl

theorem toOption_eq_some {x : Except ε α} {a : α} : x.toOption = some a ↔ x = .ok a := by
  cases x <;> simp [Except.toOption]

end

/-! ## Trees -/

/-- The empty stretch at the end of a pattern. -/
def Span.nil : Span := ⟨0, 0⟩

/-- A character without its stretch. -/
def Literal.bare (l : Literal) : Literal := { l with span := .nil }

mutual

/-- A part of a set without its stretches. -/
def SetNode.bare : SetNode → SetNode
  | .empty _ => .empty .nil
  | .literal l => .literal l.bare
  | .range _ low high => .range .nil low.bare high.bare
  | .ascii _ c negated => .ascii .nil c negated
  | .letter _ c negated => .letter .nil c negated
  | .property _ q negated => .property .nil q negated
  | .bracketed _ negated inner => .bracketed .nil negated inner.bare
  | .union _ parts => .union .nil (SetNode.bares parts)
  | .op _ o left right => .op .nil o left.bare right.bare
termination_by structural n => n

/-- Parts of a set without their stretches. -/
def SetNode.bares : List SetNode → List SetNode
  | [] => []
  | n :: ns => n.bare :: SetNode.bares ns
termination_by structural ns => ns

end

mutual

/-- A part of a pattern without its stretches. -/
def Node.bare : Node → Node
  | .empty _ => .empty .nil
  | .flags _ items => .flags .nil items
  | .literal l => .literal l.bare
  | .dot _ => .dot .nil
  | .assertion _ a => .assertion .nil a
  | .letter _ c negated => .letter .nil c negated
  | .property _ q negated => .property .nil q negated
  | .set _ negated inner => .set .nil negated inner.bare
  | .repetition _ least greatest body => .repetition .nil least greatest body.bare
  | .group _ remembered items body => .group .nil remembered items body.bare
  | .alternation _ branches => .alternation .nil (Node.bares branches)
  | .concat _ parts => .concat .nil (Node.bares parts)
termination_by structural n => n

/-- Parts of a pattern without their stretches. -/
def Node.bares : List Node → List Node
  | [] => []
  | n :: ns => n.bare :: Node.bares ns
termination_by structural ns => ns

end

@[simp] theorem SetNode.bares_eq_map : ∀ ns, SetNode.bares ns = ns.map SetNode.bare
  | [] => rfl
  | _ :: ns => congrArg _ (SetNode.bares_eq_map ns)

@[simp] theorem Node.bares_eq_map : ∀ ns, Node.bares ns = ns.map Node.bare
  | [] => rfl
  | _ :: ns => congrArg _ (Node.bares_eq_map ns)

@[simp] theorem SetNode.bare_ofParts (span : Span) :
    ∀ ns, (SetNode.ofParts span ns).bare = .ofParts .nil (ns.map bare)
  | [] => rfl
  | [_] => rfl
  | _ :: _ :: _ => by simp [SetNode.ofParts, bare]

@[simp] theorem Node.bare_ofParts (span : Span) :
    ∀ ns, (Node.ofParts span ns).bare = .ofParts .nil (ns.map bare)
  | [] => rfl
  | [_] => rfl
  | _ :: _ :: _ => by simp [Node.ofParts, bare]

@[simp] theorem SetNode.span_bare (n : SetNode) : n.bare.span = .nil := by
  cases n <;> rfl

@[simp] theorem Node.span_bare (n : Node) : n.bare.span = .nil := by
  cases n <;> rfl

@[simp] theorem Node.repeatable_bare (n : Node) : n.bare.repeatable = n.repeatable := by
  cases n <;> rfl

/-! ## Their meaning -/

theorem toOption_checkSet (s : Settings) (span : Span) (set : Text.Ranges) :
    (s.checkSet span set).toOption = (s.checkSet .nil set).toOption := by
  unfold Settings.checkSet
  split <;> rfl

theorem toOption_letterSet (s : Settings) (span : Span) (c : LetterClass) (negated : Bool) :
    (letterSet s span c negated).toOption = (letterSet s .nil c negated).toOption :=
  toOption_checkSet ..

theorem toOption_propertySet (s : Settings) (span : Span) (q : Query) (negated : Bool) :
    (propertySet s span q negated).toOption = (propertySet s .nil q negated).toOption := by
  unfold propertySet
  split
  · rfl
  · dsimp only
    split <;> rfl

theorem toOption_dotMeaning (s : Settings) (span : Span) :
    (dotMeaning s span).toOption = (dotMeaning s .nil).toOption := by
  unfold dotMeaning
  split <;> rfl

theorem toOption_checkLiteral (s : Settings) (l : Literal) :
    (checkLiteral s l).toOption
      = if !s.unicode && l.byte && 0x7F < l.char.toNat then none else some () := by
  unfold checkLiteral
  split <;> rfl

theorem toOption_memberOf (s : Settings) (l : Literal) :
    (memberOf s l).toOption = (checkLiteral s l).toOption.bind fun _ =>
      if !s.unicode && 0x7F < l.char.toNat then none else some l.char.toNat := by
  simp only [memberOf, toOption_bind]
  congr
  funext _
  split <;> rfl

theorem toOption_literalMeaning (s : Settings) (l : Literal) :
    (literalMeaning s l).toOption = (checkLiteral s l).toOption.map fun _ =>
      .ofSet (s.fold (.single l.char.toNat)) := by
  rw [literalMeaning, toOption_bind]
  cases (checkLiteral s l).toOption <;> rfl

theorem toOption_checkLiteral_bare (s : Settings) (l : Literal) :
    (checkLiteral s l.bare).toOption = (checkLiteral s l).toOption := by
  simp only [toOption_checkLiteral]
  rfl

theorem toOption_memberOf_bare (s : Settings) (l : Literal) :
    (memberOf s l.bare).toOption = (memberOf s l).toOption := by
  simp only [toOption_memberOf, toOption_checkLiteral_bare]
  rfl

theorem toOption_literalMeaning_bare (s : Settings) (l : Literal) :
    (literalMeaning s l.bare).toOption = (literalMeaning s l).toOption := by
  simp only [toOption_literalMeaning, toOption_checkLiteral_bare]
  rfl

mutual

theorem SetNode.toOption_meaning_bare (s : Settings) :
    ∀ n : SetNode, (n.bare.meaning s).toOption = (n.meaning s).toOption
  | .empty _ => rfl
  | .literal l => by
      simp only [bare, meaning, toOption_map, toOption_memberOf_bare]
  | .range _ low high => by
      simp only [bare, meaning, toOption_bind, toOption_memberOf_bare, toOption_pure]
  | .ascii span c negated => (toOption_checkSet s span _).symm
  | .letter span c negated => (toOption_letterSet s span c negated).symm
  | .property span q negated => (toOption_propertySet s span q negated).symm
  | .bracketed span negated inner => by
      simp only [bare, meaning, toOption_bind, inner.toOption_meaning_bare s,
        toOption_checkSet s span]
  | .union _ parts => SetNode.toOption_meanings_bares s parts
  | .op _ o left right => by
      simp only [bare, meaning, toOption_bind, left.toOption_meaning_bare s,
        right.toOption_meaning_bare s]
termination_by structural n => n

theorem SetNode.toOption_meanings_bares (s : Settings) :
    ∀ ns, (SetNode.meanings s (SetNode.bares ns)).toOption = (SetNode.meanings s ns).toOption
  | [] => rfl
  | n :: ns => by
      simp only [bares, meanings, toOption_bind, n.toOption_meaning_bare s,
        SetNode.toOption_meanings_bares s ns]
termination_by structural ns => ns

end

mutual

/-- A bare tree means the same, apart from the stretches of faults. -/
theorem Node.toOption_meaning_bare :
    ∀ (n : Node) (s : Settings), (n.bare.meaning s).toOption = (n.meaning s).toOption
  | .empty _, _ => rfl
  | .flags .., _ => rfl
  | .literal l, s => by
      simp only [bare, meaning, toOption_map, toOption_literalMeaning_bare]
  | .dot span, s => by
      simp only [bare, meaning, toOption_map, toOption_dotMeaning s span]
  | .assertion .., _ => rfl
  | .letter span c negated, s => by
      simp only [bare, meaning, toOption_map, toOption_letterSet s span]
  | .property span q negated, s => by
      simp only [bare, meaning, toOption_map, toOption_propertySet s span]
  | .set span negated inner, s => by
      simp only [bare, meaning, toOption_bind, inner.toOption_meaning_bare s,
        toOption_checkSet s span]
  | .repetition _ least greatest body, s => by
      simp only [bare, meaning, toOption_bind, body.toOption_meaning_bare]
  | .group _ remembered items body, s => by
      simp only [bare, meaning, toOption_bind, body.toOption_meaning_bare]
  | .alternation _ branches, s => Node.toOption_oneOf_bares branches s
  | .concat _ parts, s => Node.toOption_inTurn_bares parts s
termination_by structural n => n

theorem Node.toOption_inTurn_bares :
    ∀ (ns : List Node) (s : Settings),
      (Node.inTurn s (Node.bares ns)).toOption = (Node.inTurn s ns).toOption
  | [], _ => rfl
  | n :: ns, s => by
      simp only [bares, inTurn, toOption_bind, n.toOption_meaning_bare,
        Node.toOption_inTurn_bares ns]
termination_by structural ns => ns

theorem Node.toOption_oneOf_bares :
    ∀ (ns : List Node) (s : Settings),
      (Node.oneOf s (Node.bares ns)).toOption = (Node.oneOf s ns).toOption
  | [], _ => rfl
  | n :: ns, s => by
      simp only [bares, oneOf, toOption_bind, n.toOption_meaning_bare,
        Node.toOption_oneOf_bares ns]
termination_by structural ns => ns

end

/-! ## Their depth -/

mutual

theorem SetNode.toOption_checkDepth_bare :
    ∀ (n : SetNode) (depth : Nat), (n.bare.checkDepth depth).toOption = (n.checkDepth depth).toOption
  | .empty _, _ | .literal _, _ | .range .., _ | .ascii .., _ | .letter .., _
  | .property .., _ => rfl
  | .bracketed span negated inner, depth => by
      simp only [bare, checkDepth]
      split
      · exact inner.toOption_checkDepth_bare (depth + 1)
      · rfl
  | .union span parts, depth => by
      simp only [bare, checkDepth]
      split
      · exact SetNode.toOption_checkDepths_bares parts (depth + 1)
      · rfl
  | .op span o left right, depth => by
      simp only [bare, checkDepth]
      split
      · simp only [toOption_bind, left.toOption_checkDepth_bare, right.toOption_checkDepth_bare]
      · rfl
termination_by structural n => n

theorem SetNode.toOption_checkDepths_bares :
    ∀ (ns : List SetNode) (depth : Nat), (SetNode.checkDepths depth (SetNode.bares ns)).toOption
      = (SetNode.checkDepths depth ns).toOption
  | [], _ => rfl
  | n :: ns, depth => by
      simp only [bares, checkDepths, toOption_bind, n.toOption_checkDepth_bare,
        SetNode.toOption_checkDepths_bares ns]
termination_by structural ns => ns

end

mutual

/-- A bare tree is nested as deeply, apart from the stretches of faults. -/
theorem Node.toOption_checkDepth_bare :
    ∀ (n : Node) (depth : Nat), (n.bare.checkDepth depth).toOption = (n.checkDepth depth).toOption
  | .empty _, _ | .flags .., _ | .literal _, _ | .dot _, _ | .assertion .., _ | .letter .., _
  | .property .., _ => rfl
  | .set span negated inner, depth => by
      simp only [bare, checkDepth]
      split
      · exact inner.toOption_checkDepth_bare (depth + 1)
      · rfl
  | .repetition span least greatest body, depth => by
      simp only [bare, checkDepth]
      split
      · exact body.toOption_checkDepth_bare (depth + 1)
      · rfl
  | .group span remembered items body, depth => by
      simp only [bare, checkDepth]
      split
      · exact body.toOption_checkDepth_bare (depth + 1)
      · rfl
  | .alternation span branches, depth => by
      simp only [bare, checkDepth]
      split
      · exact Node.toOption_checkDepths_bares branches (depth + 1)
      · rfl
  | .concat span parts, depth => by
      simp only [bare, checkDepth]
      split
      · exact Node.toOption_checkDepths_bares parts (depth + 1)
      · rfl
termination_by structural n => n

theorem Node.toOption_checkDepths_bares :
    ∀ (ns : List Node) (depth : Nat), (Node.checkDepths depth (Node.bares ns)).toOption
      = (Node.checkDepths depth ns).toOption
  | [], _ => rfl
  | n :: ns, depth => by
      simp only [bares, checkDepths, toOption_bind, n.toOption_checkDepth_bare,
        Node.toOption_checkDepths_bares ns]
termination_by structural ns => ns

end

end Webhook.Pattern
