import Webhook.Proofs.Pattern.Steady

/-!
# Escapes before a tail

The readers of escapes, without faults and stretches.  All of them are steady but the one for an
edge of a word.  After `\b` and a brace, an edge is read from what is in the brace, and when nothing
is there the reader depends on the tail (`escaped_follows`).
-/

namespace Webhook.Pattern

open Reading

variable {v : Bool} {s : List Char}

namespace Reading

/-! ## Code points -/

/-- So many hexadecimal digits. -/
def hexNumber (v : Bool) : Nat → Reading (List Char)
  | 0 => pure []
  | k + 1 => do
    let c ← next
    if isHexDigit c then
      skipping v
      let cs ← hexNumber v k
      pure (c :: cs)
    else fail

/-- The character of a code point. -/
def codePoint (byte : Bool) (digits : List Char) : Reading (Char × Bool) :=
  match charOfHex? digits with
  | some c => pure (c, byte)
  | none => fail

/-- A code point in braces, after the first one. -/
def bracedHex (v : Bool) : Reading (Char × Bool) := do
  skipping v
  let digits ← runOf v isHexDigit
  let c ← next
  if c = '\x7d' then
    skipping v
    if digits.isEmpty then fail else codePoint false digits
  else fail

/-- The number of digits of a code point without braces. -/
def hexCount (letter : Char) : Nat := if letter = 'x' then 2 else if letter = 'u' then 4 else 8

/-- The code point after the letter of an escape, and whether it is written as a byte. -/
def hex (v : Bool) (letter : Char) : Reading (Char × Bool) :=
  after ['\x7b'] (bracedHex v) do
    let digits ← hexNumber v (hexCount letter)
    codePoint (letter = 'x') digits

/-! ## Properties -/

/-- A text up to a closing brace. -/
def bracedText (v : Bool) : Reading (List Char) := fun s =>
  match run v (· != '\x7d') false s with
  | (_, []) => none
  | (text, _ :: r) => some (text, r)

/-- The question after the letter of a property. -/
def property (v : Bool) : Reading Query :=
  after ['\x7b']
    (do skipping v
        let text ← bracedText v
        pure (.ofChars text))
    (do let c ← next
        if c = '\\' then fail
        else
          skipping v
          pure (.name (String.singleton c)))

/-! ## Edges of words -/

/-- The name of an edge and the closing brace. -/
def edgeName (v : Bool) : Reading Assertion := do
  let name ← runOf v isEdgeChar
  let c ← next
  if c = '\x7d' then
    match edge? name with
    | some a => pure a
    | none => fail
  else fail

/-- What follows after a brace behind the letter of an edge: a name, or else the brace is left
where it is. -/
def bracedEdge (v : Bool) : Reading Assertion := fun s =>
  match skip v s with
  | [] => none
  | c :: r => if isEdgeChar c then edgeName v (c :: r) else some (.wordEdge, '\x7b' :: s)

/-- What follows after the letter of an edge. -/
def wordEdge (v : Bool) : Reading Assertion := after ['\x7b'] (bracedEdge v) (pure .wordEdge)

end Reading

/-! ## Escapes -/

/-- An escape without its stretch. -/
def Escaped.bare : Escaped → Escaped
  | .literal l => .literal l.bare
  | .assertion _ a => .assertion .nil a
  | .letter _ c negated => .letter .nil c negated
  | .property _ q negated => .property .nil q negated

/-- An escape of a single letter. -/
def Escaped.ofLetter? (c : Char) : Option Escaped :=
  match letterClass? c with
  | some (cls, negated) => some (.letter .nil cls negated)
  | none =>
    if isEscapable c then some (.literal ⟨.nil, c, false⟩)
    else match control? c with
      | some char => some (.literal ⟨.nil, char, false⟩)
      | none => (assertion? c).map (.assertion .nil)

namespace Reading

/-- An escape after its letter. -/
def escapedAs (v : Bool) (c : Char) : Reading Escaped :=
  if c.isDigit then fail
  else if c = 'x' || c = 'u' || c = 'U' then do
    skipping v
    let (char, byte) ← hex v c
    pure (.literal ⟨.nil, char, byte⟩)
  else if c = 'p' || c = 'P' then do
    skipping v
    let q ← property v
    pure (.property .nil q (c = 'P'))
  else match Escaped.ofLetter? c with
    | some e => pure e
    | none => if c = 'b' then Escaped.assertion .nil <$> wordEdge v else fail

/-- An escape after its backslash. -/
def escaped (v : Bool) : Reading Escaped := next >>= escapedAs v

end Reading

/-! ## The readers without faults and stretches -/

theorem toOption_hexDigits : ∀ (k : Nat) (s : List Char),
    (hexDigits v k s).toOption = hexNumber v k s
  | 0, _ => rfl
  | _ + 1, [] => rfl
  | k + 1, c :: s => by
      simp only [hexDigits, hexNumber, bind_apply, next_cons, Option.bind_some, if_apply]
      split
      · simp only [toOption_bind, toOption_hexDigits k, advance, List.drop_one, List.tail_cons]
        rfl
      · rfl

theorem toOption_readHex_braced (letter : Char) (r : List Char) :
    (readHex v letter ('\x7b' :: r)).toOption.map (fun o => ((o.1, o.2.1), o.2.2))
      = bracedHex v r := by
  simp only [readHex, bracedHex, bind_apply, skipping_apply, runOf_apply, Option.bind_some]
  generalize run v isHexDigit false (skip v r) = o
  obtain ⟨digits, t⟩ := o
  match t with
  | [] => rfl
  | c :: t =>
      simp only [next_cons, Option.bind_some, if_apply]
      by_cases hc : c = '\x7d'
      · subst hc
        simp only [if_pos, bind_apply, skipping_apply, Option.bind_some, if_apply, codePoint]
        split
        · rfl
        · cases charOfHex? digits <;> rfl
      · rw [if_neg hc]
        split
        · contradiction
        · simp_all
        · rfl

theorem toOption_readHex (letter : Char) (s : List Char) :
    (readHex v letter s).toOption.map (fun o => ((o.1, o.2.1), o.2.2)) = hex v letter s := by
  cases s with
  | nil =>
      have hcount : ∃ k, hexCount letter = k + 1 := by
        unfold hexCount
        split
        · exact ⟨1, rfl⟩
        · split
          · exact ⟨3, rfl⟩
          · exact ⟨7, rfl⟩
      obtain ⟨k, hk⟩ := hcount
      simp only [hex, after, strip?, bind_apply, hk]
      rfl
  | cons c r =>
      by_cases hc : c = '\x7b'
      · subst hc
        exact toOption_readHex_braced letter r
      · have hstrip : strip? ['\x7b'] (c :: r) = none := strip?_of_ne hc _ _
        simp only [hex, after, hstrip]
        unfold readHex
        split
        · contradiction
        · simp_all
        · rw [bind_apply, ← toOption_hexDigits, toOption_bind, Option.map_bind]
          congr
          funext o
          simp only [Function.comp_apply, codePoint]
          cases charOfHex? o.1 <;> rfl

theorem toOption_readProperty (s : List Char) : (readProperty v s).toOption = property v s := by
  match s with
  | [] => rfl
  | c :: r =>
      by_cases hc : c = '\x7b'
      · subst hc
        simp only [readProperty, property, after, strip?, if_pos, bind_apply, skipping_apply,
          Option.bind_some, bracedText]
        generalize run v (· != '\x7d') false (skip v r) = o
        obtain ⟨text, t⟩ := o
        cases t <;> rfl
      · have hstrip : strip? ['\x7b'] (c :: r) = none := strip?_of_ne hc _ _
        simp only [property, after, hstrip, bind_apply, next_cons, Option.bind_some, if_apply]
        unfold readProperty
        split
        · contradiction
        · simp_all
        next c' r' _ heq =>
          obtain ⟨rfl, rfl⟩ := List.cons.inj heq
          split <;> rfl

/-- Without the name of an edge in the braces, the edge ends before them. -/
theorem toOption_readEdge (start r : List Char) :
    (readEdge v start ('\x7b' :: r)).toOption.map (fun o => o.getD (.wordEdge, '\x7b' :: r))
      = bracedEdge v r := by
  simp only [readEdge, bracedEdge, advance, List.drop_one, List.tail_cons]
  cases skip v r with
  | nil => rfl
  | cons c t =>
      dsimp only
      cases isEdgeChar c with
      | false => rfl
      | true =>
          simp only [edgeName, bind_apply, runOf_apply, Option.bind_some, Bool.not_true,
            Bool.false_eq_true, if_false, if_true]
          generalize run v isEdgeChar false (c :: t) = o
          obtain ⟨name, u⟩ := o
          cases u with
          | nil => rfl
          | cons d u =>
              simp only [next_cons, Option.bind_some, if_apply]
              by_cases hd : d = '\x7d'
              · subst hd
                simp only [if_pos]
                cases edge? name <;> rfl
              · rw [if_neg hd]
                split
                · simp_all
                · rfl

theorem toOption_edge (s r : List Char) :
    (match r with
      | '\x7b' :: _ => do
        match ← readEdge v s r with
        | some (a, rest) => return (Escaped.assertion (.between s rest) a, rest)
        | none => return (.assertion (.between s r) .wordEdge, r)
      | _ => .ok (.assertion (.between s r) .wordEdge, r) :
        Except Fault (Escaped × List Char)).toOption.map (fun o => (o.1.bare, o.2))
      = (Escaped.assertion .nil <$> wordEdge v) r := by
  rw [map_apply]
  match r with
  | [] => rfl
  | c :: r =>
      by_cases hc : c = '\x7b'
      · subst hc
        simp only [wordEdge, after, strip?, if_pos, toOption_bind, ← toOption_readEdge s r]
        cases (readEdge v s ('\x7b' :: r)).toOption with
        | none => rfl
        | some o => cases o <;> rfl
      · have hstrip : strip? ['\x7b'] (c :: r) = none := strip?_of_ne hc _ _
        simp only [wordEdge, after, hstrip]
        split
        · simp_all
        · rfl

/-- Reading an escape, without faults and stretches. -/
theorem toOption_readEscape (s : List Char) :
    (readEscape v s).toOption.map (fun o => (o.1.bare, o.2)) = escaped v (s.drop 1) := by
  unfold readEscape
  cases s.drop 1 with
  | nil => rfl
  | cons c r =>
      simp only [escaped, bind_apply, next_cons, Option.bind_some, escapedAs, if_apply]
      split
      · rfl
      split
      · rw [toOption_bind, skipping_apply, Option.bind_some, ← toOption_readHex]
        cases (readHex v c (skip v r)).toOption <;> rfl
      split
      · rw [toOption_bind, skipping_apply, Option.bind_some, ← toOption_readProperty]
        cases (readProperty v (skip v r)).toOption <;> rfl
      unfold Escaped.ofLetter?
      cases letterClass? c with
      | some o => rfl
      | none =>
          dsimp only
          split
          · rfl
          · cases control? c with
            | some char => rfl
            | none =>
                cases assertion? c with
                | some a => rfl
                | none =>
                    dsimp only [Option.map_none]
                    split
                    · exact toOption_edge s r
                    · rfl

/-! ## Steadiness -/

theorem Steady.hexNumber : ∀ k, Steady (hexNumber v k)
  | 0 => .pure []
  | k + 1 => .bind .next fun _ => .ite
      (fun _ => .bind .skipping fun _ => .bind (Steady.hexNumber k) fun _ => .pure _)
      (fun _ => .fail)

theorem Steady.codePoint (byte : Bool) (digits : List Char) : Steady (codePoint byte digits) := by
  unfold Reading.codePoint
  cases charOfHex? digits with
  | none => exact .fail
  | some c => exact .pure _

theorem Steady.bracedHex : Steady (bracedHex v) :=
  .bind .skipping fun _ => .bind (.runOf (by decide)) fun _ => .bind .next fun _ => .ite
    (fun _ => .bind .skipping fun _ => .ite (fun _ => .fail) fun _ => .codePoint _ _)
    (fun _ => .fail)

theorem Steady.hex (letter : Char) : Steady (hex v letter) :=
  .after (by decide) .bracedHex (.bind (.hexNumber _) fun _ => .codePoint _ _)

theorem Steady.bracedText : Steady (bracedText v) where
  suffix {s} := by
    intro text r h
    have hrun := run_suffix (v := v) (· != '\x7d') false s
    unfold Reading.bracedText at h
    split at h
    · cases h
    next text' c r' heq =>
      obtain ⟨rfl, rfl⟩ := Prod.mk.inj (Option.some.inj h)
      rw [heq] at hrun
      exact (List.suffix_cons c _).trans hrun
  follows s := by
    rcases run_append (v := v) (· != '\x7d') false s with ⟨text, c, r, h⟩ | ⟨text, ic, h⟩
    · refine .apart text r fun t _ => ?_
      simp only [Reading.bracedText, h t, List.cons_append]
    · -- there is no brace in a tail
      refine .of_none fun t ht => ?_
      have hend : (run v (· != '\x7d') ic t).2 = [] := by
        cases ic with
        | true => rw [ht.run_true]
        | false => cases ht <;> cases v <;> decide
      simp only [Reading.bracedText, h t, hend]

theorem Steady.property : Steady (property v) :=
  .after (by decide)
    (.bind .skipping fun _ => .bind .bracedText fun _ => .pure _)
    (.bind .next fun _ => .ite (fun _ => .fail) fun _ => .bind .skipping fun _ => .pure _)

theorem Steady.edgeName : Steady (edgeName v) := by
  refine .bind (.runOf (by decide)) fun name => .bind .next fun _ => .ite (fun _ => ?_) fun _ => .fail
  cases edge? name with
  | none => exact .fail
  | some a => exact .pure a

theorem wordEdge_suffix {a : Assertion} {r : List Char} (h : wordEdge v s = some (a, r)) :
    r <:+ s := by
  rcases after_eq_some h with ⟨u, hu, hread⟩ | hread
  · rw [hu]
    unfold bracedEdge at hread
    split at hread
    · cases hread
    next c t hskip =>
      split at hread
      · have hname := Steady.edgeName.suffix hread
        rw [← hskip] at hname
        exact (hname.trans (skip_suffix v u)).trans (List.suffix_append _ _)
      · obtain ⟨rfl, rfl⟩ := Prod.mk.inj (Option.some.inj hread)
        exact List.suffix_rfl
  · obtain ⟨rfl, rfl⟩ := Prod.mk.inj (Option.some.inj hread)
    exact List.suffix_rfl

/-- What follows after the letter of an edge depends on the tail only where nothing but blanks and
comments stands after a brace. -/
theorem wordEdge_follows (s : List Char) :
    Follows (fun t => wordEdge v (s ++ t)) ∨ ∃ r, s = '\x7b' :: r ∧ skip v r = [] := by
  have hplain : ∀ s : List Char, strip? ['\x7b'] s = none → ∀ t, IsTail t →
      wordEdge v (s ++ t) = some (.wordEdge, s ++ t) := by
    intro s hs t ht
    have hmark : ')' ∉ ['\x7b'] := by decide
    simp only [wordEdge, after, ht.strip?_append hmark, hs, Option.map_none, pure_apply]
  cases s with
  | nil => exact .inl (.apart .wordEdge [] (hplain [] rfl))
  | cons c r =>
      by_cases hc : c = '\x7b'
      · subst hc
        have hread : ∀ t, wordEdge v ('\x7b' :: r ++ t) = bracedEdge v (r ++ t) := fun t => by
          simp [wordEdge, after, strip?]
        have hskip : Follows fun t => skipping v (r ++ t) := Steady.skipping.follows r
        cases hskip with
        | swallowed _ h =>
            have hnil := congrArg (Option.map Prod.snd) (h [] .nil)
            rw [List.append_nil] at hnil
            exact .inr ⟨r, rfl, Option.some.inj hnil⟩
        | broken h => exact absurd (h [] .nil () _ rfl) (Nat.not_lt_zero _)
        | apart _ r' h =>
            have h : ∀ t, IsTail t → skip v (r ++ t) = r' ++ t := fun t ht =>
              (Prod.mk.inj (Option.some.inj (h t ht))).2
            cases r' with
            | nil =>
                have hnil := h [] .nil
                rw [List.append_nil] at hnil
                exact .inr ⟨r, rfl, hnil⟩
            | cons d r' =>
                left
                by_cases hd : isEdgeChar d = true
                · have hname : Follows fun t => edgeName v (d :: r' ++ t) :=
                    Steady.edgeName.follows (d :: r')
                  refine hname.congr fun t ht => ?_
                  rw [hread]
                  simp only [bracedEdge, h t ht, List.cons_append, if_pos hd]
                · refine .apart .wordEdge ('\x7b' :: r) fun t ht => ?_
                  rw [hread]
                  simp only [bracedEdge, h t ht, List.cons_append, if_neg hd]
      · exact .inl (.apart .wordEdge (c :: r) (hplain (c :: r) (strip?_of_ne hc _ _)))

/-- Refuses an assertion. -/
def Escaped.unlessAssertion : Escaped → Reading Escaped
  | .assertion .. => fail
  | e => pure e

theorem Steady.unlessAssertion (e : Escaped) : Steady e.unlessAssertion := by
  cases e with
  | assertion => exact .fail
  | _ => exact .pure _

theorem Steady.escapedAs {c : Char} (hc : c ≠ 'b') : Steady (escapedAs v c) := by
  refine .ite (fun _ => .fail) fun _ => .ite (fun _ => ?_) fun _ => .ite (fun _ => ?_) fun _ => ?_
  · exact .bind .skipping fun _ => .bind (.hex c) fun _ => .pure _
  · exact .bind .skipping fun _ => .bind .property fun _ => .pure _
  · cases Escaped.ofLetter? c with
    | some e => exact .pure e
    | none => exact .ite (fun h => absurd h hc) fun _ => .fail

theorem escapedAs_edge : escapedAs v 'b' = Escaped.assertion .nil <$> wordEdge v := by
  have hletter : Escaped.ofLetter? 'b' = none := by decide
  simp [escapedAs, hletter]

/-- An escape that is no assertion is read in a steady way. -/
theorem Steady.escapedPart : Steady (escaped v >>= Escaped.unlessAssertion) := by
  have hassoc : Reading.escaped v >>= Escaped.unlessAssertion
      = Reading.next >>= fun c => Reading.escapedAs v c >>= Escaped.unlessAssertion := bind_assoc ..
  rw [hassoc]
  refine .bind .next fun c => ?_
  by_cases hc : c = 'b'
  · subst hc
    have hfail : Reading.escapedAs v 'b' >>= Escaped.unlessAssertion = Reading.fail := by
      funext s
      rw [escapedAs_edge, bind_apply, map_apply]
      cases wordEdge v s <;> rfl
    rw [hfail]
    exact .fail
  · exact .bind (.escapedAs hc) .unlessAssertion

/-- An escape depends on the tail only where nothing but blanks and comments stands after the
brace behind the letter of an edge. -/
theorem escaped_follows (s : List Char) : Follows (fun t => escaped v (s ++ t)) ∨
    ∃ r, s = 'b' :: '\x7b' :: r ∧ skip v r = [] := by
  match s with
  | [] =>
      refine .inl (.broken fun t ht e r h => ?_)
      match t, ht, h with
      | c :: t, ht, h =>
          have hc : c ≠ 'b' := by cases ht <;> decide
          exact Nat.lt_succ_of_le ((Steady.escapedAs hc).suffix h).length_le
  | c :: s =>
      by_cases hc : c = 'b'
      · subst hc
        rcases wordEdge_follows s with h | ⟨r, rfl, hr⟩
        · refine .inl ((h.map (Escaped.assertion .nil)).congr fun t _ => ?_)
          rw [List.cons_append, escaped, bind_apply, next_cons, Option.bind_some, escapedAs_edge]
          rfl
        · exact .inr ⟨r, rfl, hr⟩
      · exact .inl ((Steady.escapedAs hc).follows s)

theorem escaped_suffix {e : Escaped} {r : List Char} (h : escaped v s = some (e, r)) : r <:+ s := by
  match s with
  | [] => cases h
  | c :: s =>
      have h : escapedAs v c s = some (e, r) := h
      refine List.IsSuffix.trans ?_ (List.suffix_cons c s)
      by_cases hc : c = 'b'
      · subst hc
        rw [escapedAs_edge, map_apply] at h
        obtain ⟨⟨a, r'⟩, ha, heq⟩ := Option.map_eq_some_iff.mp h
        obtain ⟨-, rfl⟩ := Prod.mk.inj heq
        exact wordEdge_suffix ha
      · exact (Steady.escapedAs hc).suffix h

end Webhook.Pattern
