import Webhook.Proofs.Pattern.SetParts

/-!
# Sets before a tail

A set ends with a bracket, and there is none in a tail.  So a set that ends in a text is read as it
is without the tail, and a set that does not end there is not read at all (`Steady.setBody`).
-/

namespace Webhook.Pattern

open Reading

variable {α β : Type} {v : Bool} {s t : List Char}

/-! ## Operators and classes -/

theorem setOp?_suffix {op : SetOp} {r : List Char} (h : setOp? s = some (op, r)) : r <:+ s.drop 1 := by
  unfold setOp? at h
  split at h
  case h_4 => cases h
  all_goals
    obtain ⟨-, rfl⟩ := Prod.mk.inj (Option.some.inj h)
    exact List.suffix_cons _ _

theorem IsTail.setOp?_append (ht : IsTail t) (c : Char) (r : List Char) :
    setOp? (c :: r ++ t) = (setOp? (c :: r)).map fun o => (o.1, o.2 ++ t) := by
  match r with
  | [] =>
      have hone : setOp? [c] = none := by
        unfold setOp?
        split <;> simp_all
      rw [hone]
      cases ht <;> unfold setOp? <;> split <;> simp_all
  | d :: r =>
      unfold setOp?
      split <;> simp_all

theorem readAscii?_suffix {n : SetNode} {r : List Char} (h : readAscii? s = some (n, r)) :
    r <:+ s.drop 1 := by
  unfold readAscii? at h
  split at h
  · cases h
  next inside hinside =>
    obtain rfl := strip?_eq_some hinside
    refine List.IsSuffix.trans ?_ (List.suffix_cons ':' inside)
    dsimp only at h
    split at h
    next named after' _ c hafter _ =>
      obtain ⟨-, rfl⟩ := Prod.mk.inj (Option.some.inj h)
      refine ((strip?_suffix hafter).trans (List.dropWhile_suffix _)).trans ?_
      split
      · exact List.suffix_cons _ _
      · exact List.suffix_rfl
    · cases h

/-- A class of ASCII after its opening mark and its negation: its name and the rest. -/
def asciiName (named : List Char) : Option (AsciiClass × List Char) :=
  match strip? [':', ']'] (named.dropWhile (· != ':')),
    AsciiClass.ofName? (named.takeWhile (· != ':')) with
  | some after, some c => some (c, after)
  | _, _ => none

theorem IsTail.asciiName_append (ht : IsTail t) (named : List Char) :
    asciiName (named ++ t) = (asciiName named).map fun o => (o.1, o.2 ++ t) := by
  have htail : t.dropWhile (· != ':') = [] := by cases ht <;> decide
  unfold asciiName
  cases hdrop : named.dropWhile (· != ':') with
  | nil =>
      have hboth : (named ++ t).dropWhile (· != ':') = [] := by
        rw [List.dropWhile_append, hdrop, htail]
        rfl
      rw [hboth]
      rfl
  | cons c r =>
      have hboth : (named ++ t).dropWhile (· != ':') = c :: r ++ t := by
        rw [List.dropWhile_append, hdrop]
        rfl
      have hsplit := List.takeWhile_append_dropWhile (p := (· != ':')) (l := named)
      have htake : (named ++ t).takeWhile (· != ':') = named.takeWhile (· != ':') := by
        rw [List.takeWhile_append, if_neg]
        intro hlength
        have := congrArg List.length hsplit
        rw [hdrop, List.length_append, List.length_cons] at this
        omega
      rw [hboth, htake, ht.strip?_append (by decide)]
      cases strip? [':', ']'] (c :: r) with
      | none => rfl
      | some after => cases AsciiClass.ofName? (named.takeWhile (· != ':')) <;> rfl

/-- A class of ASCII after its opening mark and its negation. -/
def asciiNode (negated : Bool) : Reading SetNode := fun r =>
  (asciiName r).map fun o => (.ascii .nil o.1 negated, o.2)

/-- A class of ASCII. -/
def asciiClass : Reading SetNode :=
  after ['[', ':'] (after ['^'] (asciiNode true) (asciiNode false)) fail

/-- Reading a class of ASCII, without stretches. -/
theorem readAscii?_bare (s : List Char) :
    (readAscii? s).map (fun o => (o.1.bare, o.2)) = asciiClass s := by
  unfold readAscii? asciiClass after
  cases strip? ['[', ':'] s with
  | none => rfl
  | some inside =>
      have hnode : ∀ o : Bool × List Char,
          (match strip? [':', ']'] (o.2.dropWhile (· != ':')),
              AsciiClass.ofName? (o.2.takeWhile (· != ':')) with
            | some after, some c => some (SetNode.ascii (.between s after) c o.1, after)
            | _, _ => none).map (fun o : SetNode × List Char => (o.1.bare, o.2))
          = asciiNode o.1 o.2 := by
        rintro ⟨negated, r⟩
        simp only [asciiNode, asciiName]
        cases strip? [':', ']'] (r.dropWhile (· != ':')) with
        | none => rfl
        | some u => cases AsciiClass.ofName? (r.takeWhile (· != ':')) <;> rfl
      refine (hnode _).trans ?_
      match inside with
      | [] => rfl
      | c :: r =>
          by_cases hc : c = '^'
          · subst hc
            rfl
          · have hstrip : strip? ['^'] (c :: r) = none := strip?_of_ne hc _ _
            dsimp only
            rw [hstrip]
            split
            · simp_all
            · rfl

/-- A class of ASCII is read as it is without the tail. -/
theorem IsTail.asciiClass_append (ht : IsTail t) (s : List Char) :
    asciiClass (s ++ t) = (asciiClass s).map fun o => (o.1, o.2 ++ t) := by
  have hnode : ∀ (negated : Bool) (r : List Char),
      asciiNode negated (r ++ t) = (asciiNode negated r).map fun o => (o.1, o.2 ++ t) := by
    intro negated r
    simp only [asciiNode, ht.asciiName_append, Option.map_map]
    rfl
  simp only [asciiClass, after, ht.strip?_append (show ')' ∉ ['[', ':'] by decide)]
  cases strip? ['[', ':'] s with
  | none => rfl
  | some inside =>
      simp only [Option.map_some, ht.strip?_append (show ')' ∉ ['^'] by decide)]
      cases strip? ['^'] inside with
      | none => exact hnode false inside
      | some r => exact hnode true r

/-! ## Sets without their stretches -/

namespace OpenSet

theorem operand_bare (o : OpenSet) : o.operand.bare = o.bare.operand := by
  simp only [operand, bare, SetNode.bare_ofParts, List.map_reverse]
  congr 1
  rw [List.getLast?_map, List.head?_map]
  cases o.parts.getLast? with
  | none => rfl
  | some a =>
      cases o.parts.head? with
      | none => rfl
      | some b =>
          simp only [Option.map_some, SetNode.span_bare]
          rfl

theorem combined_bare (o : OpenSet) : o.combined.bare = o.bare.combined := by
  have hpending : o.bare.pending = o.pending.map fun p => (p.1, p.2.bare) := rfl
  unfold combined
  rw [hpending]
  cases o.pending with
  | none => exact o.operand_bare
  | some p =>
      simp only [Option.map_some, SetNode.bare, o.operand_bare, SetNode.span_bare]
      rw [← o.operand_bare, SetNode.span_bare]
      rfl

theorem push_bare (o : OpenSet) (n : SetNode) : (o.push n).bare = o.bare.push n.bare := rfl

theorem pushOp_bare (o : OpenSet) (op : SetOp) (rest : List Char) :
    (o.pushOp op rest).bare = o.bare.pushOp op [] := by
  simp only [pushOp, bare, Option.map_some, o.combined_bare]
  rfl

end OpenSet

namespace Reading

/-- What follows in a set after a character that does not end it: the set that is read then, and
those around it. -/
def setStep (v : Bool) (current : OpenSet) (outer : List OpenSet) (c : Char) :
    Reading (OpenSet × List OpenSet) := fun r =>
  if c = '[' then
    match asciiClass ('[' :: r) with
    | some (n, t) => some ((current.push n, outer), t)
    | none => (setStart v r).map fun o => ((o.1, current :: outer), o.2)
  else match setOp? (c :: r) with
    | some (op, t) => some ((current.pushOp op [], outer), t)
    | none => (partAs v c r).map fun o => ((current.push o.1, outer), o.2)

/-- The rest of a set. -/
def setFrom (v : Bool) : (fuel : Nat) → OpenSet → List OpenSet → Reading Node
  | 0, _, _ => fail
  | n + 1, current, outer => do
    skipping v
    let c ← next
    if c = ']' then
      match outer with
      | [] => pure (.set .nil current.negated current.combined)
      | around :: outer =>
        setFrom v n (around.push (.bracketed .nil current.negated current.combined)) outer
    else
      let o ← setStep v current outer c
      setFrom v n o.1 o.2

end Reading

/-! ## Reading on -/

variable {n : Nat} {current : OpenSet} {outer : List OpenSet} {c : Char} {r : List Char}

theorem readSetFrom_nil (h : skip v s = []) :
    (readSetFrom v (n + 1) current outer s).toOption = none := by
  rw [readSetFrom, h]
  rfl

theorem readSetFrom_open (h : skip v s = '[' :: r) :
    readSetFrom v (n + 1) current outer s =
      (match readAscii? ('[' :: r) with
      | some (m, t) => readSetFrom v n (current.push m) outer t
      | none => do
        let (inner, t) ← readOpen v ('[' :: r)
        readSetFrom v n inner (current :: outer) t) := by
  rw [readSetFrom, h]
  rfl

theorem readSetFrom_close (h : skip v s = ']' :: r) :
    readSetFrom v (n + 1) current outer s =
      (match outer with
      | [] => .ok (.set ⟨current.opened.start, r.length⟩ current.negated current.combined, r)
      | around :: outer =>
        readSetFrom v n (around.push (.bracketed ⟨current.opened.start, r.length⟩ current.negated
          current.combined)) outer r) := by
  rw [readSetFrom, h]
  rfl

theorem readSetFrom_other (h : skip v s = c :: r) (hopen : c ≠ '[') (hclose : c ≠ ']') :
    readSetFrom v (n + 1) current outer s =
      (match setOp? (c :: r) with
      | some (op, rest) => readSetFrom v n (current.pushOp op rest) outer rest
      | none => do
        let (m, rest) ← readPart v current.opened (c :: r)
        readSetFrom v n (current.push m) outer rest) := by
  rw [readSetFrom, h]
  split
  · contradiction
  · simp_all
  · simp_all
  · rfl

theorem setFrom_succ : setFrom v (n + 1) current outer s = (next (skip v s)).bind fun o =>
    if o.1 = ']' then
      (match outer with
      | [] => some (.set .nil current.negated current.combined, o.2)
      | around :: outer =>
        setFrom v n (around.push (.bracketed .nil current.negated current.combined)) outer o.2)
    else (setStep v current outer o.1 o.2).bind fun p => setFrom v n p.1.1 p.1.2 p.2 := by
  show (next (skip v s)).bind _ = _
  congr
  funext o
  dsimp only
  rw [if_apply]
  cases outer <;> rfl

/-- Reading the rest of a set, without faults and stretches. -/
theorem toOption_readSetFrom : ∀ (n : Nat) (current : OpenSet) (outer : List OpenSet)
    (s : List Char), (readSetFrom v n current outer s).toOption.map (fun o => (o.1.bare, o.2))
      = setFrom v n current.bare (outer.map OpenSet.bare) s
  | 0, _, _, _ => rfl
  | n + 1, current, outer, s => by
      rw [setFrom_succ]
      cases hskip : skip v s with
      | nil =>
          rw [readSetFrom_nil hskip]
          rfl
      | cons c r =>
          rw [next_cons, Option.bind_some]
          by_cases hclose : c = ']'
          · subst hclose
            rw [readSetFrom_close hskip, if_pos rfl]
            match outer with
            | [] => simp [Node.bare, current.combined_bare, OpenSet.bare]
            | around :: outer =>
                refine (toOption_readSetFrom n _ outer r).trans ?_
                rw [OpenSet.push_bare, SetNode.bare, current.combined_bare]
                rfl
          · rw [if_neg hclose]
            unfold setStep
            by_cases hopen : c = '['
            · subst hopen
              rw [readSetFrom_open hskip, if_pos rfl, ← readAscii?_bare]
              cases readAscii? ('[' :: r) with
              | some o => exact toOption_readSetFrom n _ outer o.2
              | none =>
                  have hopen := toOption_readOpen (v := v) ('[' :: r)
                  rw [List.drop_succ_cons, List.drop_zero] at hopen
                  simp only [Option.map_none, ← hopen, toOption_bind]
                  cases readOpen v ('[' :: r) with
                  | error f => rfl
                  | ok o => exact toOption_readSetFrom n _ (current :: outer) o.2
            · rw [readSetFrom_other hskip hopen hclose, if_neg hopen]
              cases setOp? (c :: r) with
              | some o =>
                  refine (toOption_readSetFrom n _ outer o.2).trans ?_
                  rw [OpenSet.pushOp_bare]
                  rfl
              | none =>
                  simp only [← toOption_readPart current.opened c r, toOption_bind]
                  cases readPart v current.opened (c :: r) with
                  | error f => rfl
                  | ok o => exact toOption_readSetFrom n _ outer o.2

/-! ## Sets before a tail -/

theorem asciiClass_suffix {n : SetNode} (h : asciiClass s = some (n, r)) : r <:+ s.drop 1 := by
  rw [← readAscii?_bare] at h
  obtain ⟨⟨m, r'⟩, hread, heq⟩ := Option.map_eq_some_iff.mp h
  obtain ⟨-, rfl⟩ := Prod.mk.inj heq
  exact readAscii?_suffix hread

theorem Enclosed.setStep : Enclosed (setStep v current outer c) where
  suffix {s} := by
    intro _ _ h
    unfold Reading.setStep at h
    split at h
    · split at h
      next hclass =>
        obtain ⟨-, rfl⟩ := Prod.mk.inj (Option.some.inj h)
        exact asciiClass_suffix hclass
      · obtain ⟨⟨o, u⟩, hstart, heq⟩ := Option.map_eq_some_iff.mp h
        obtain ⟨-, rfl⟩ := Prod.mk.inj heq
        exact Enclosed.setStart.suffix hstart
    · split at h
      next hop =>
        obtain ⟨-, rfl⟩ := Prod.mk.inj (Option.some.inj h)
        exact setOp?_suffix hop
      · obtain ⟨⟨o, u⟩, hpart, heq⟩ := Option.map_eq_some_iff.mp h
        obtain ⟨-, rfl⟩ := Prod.mk.inj heq
        exact (Enclosed.partAs c).suffix hpart
  leaves s := by
    unfold Reading.setStep
    by_cases hopen : c = '['
    · simp only [if_pos hopen]
      cases hclass : asciiClass ('[' :: s) with
      | some o =>
          refine .of_apart (x := (current.push o.1, outer)) (r := o.2) fun t ht => ?_
          rw [← List.cons_append, ht.asciiClass_append, hclass]
          rfl
      | none =>
          have hstart : Enclosed ((fun o => (o, current :: outer)) <$> Reading.setStart v) :=
            .map .setStart _
          refine (hstart.leaves s).congr fun t ht => ?_
          rw [← List.cons_append, ht.asciiClass_append, hclass, map_apply]
          rfl
    · simp only [if_neg hopen]
      cases hop : setOp? (c :: s) with
      | some o =>
          refine .of_apart (x := (current.pushOp o.1 [], outer)) (r := o.2) fun t ht => ?_
          rw [← List.cons_append, ht.setOp?_append, hop]
          rfl
      | none =>
          have hpart : Enclosed ((fun n => (current.push n, outer)) <$> Reading.partAs v c) :=
            .map (.partAs c) _
          refine (hpart.leaves s).congr fun t ht => ?_
          rw [← List.cons_append, ht.setOp?_append, hop, map_apply]
          rfl

theorem setFrom_suffix : ∀ {n : Nat} {current : OpenSet} {outer : List OpenSet} {s r : List Char}
    {m : Node}, setFrom v n current outer s = some (m, r) → r <:+ s
  | 0, _, _, _, _, _, h => nomatch h
  | n + 1, current, outer, s, r, m, h => by
      rw [setFrom_succ] at h
      obtain ⟨⟨c, u⟩, hnext, h⟩ := Option.bind_eq_some_iff.mp h
      have hu : u <:+ s := (Steady.next.suffix hnext).trans (skip_suffix v s)
      dsimp only at h
      split at h
      · match outer, h with
        | [], h =>
            obtain ⟨-, rfl⟩ := Prod.mk.inj (Option.some.inj h)
            exact hu
        | around :: outer, h => exact (setFrom_suffix h).trans hu
      · obtain ⟨⟨o, w⟩, hstep, h⟩ := Option.bind_eq_some_iff.mp h
        exact ((setFrom_suffix h).trans (Enclosed.setStep.suffix hstep)).trans hu

/-- A set does not end where there is no bracket. -/
theorem setFrom_of_not_mem : ∀ {n : Nat} {current : OpenSet} {outer : List OpenSet}
    {s : List Char}, ']' ∉ s → setFrom v n current outer s = none
  | 0, _, _, _, _ => rfl
  | n + 1, current, outer, s, h => by
      rw [setFrom_succ]
      cases hnext : next (skip v s) with
      | none => rfl
      | some o =>
          have hskip : skip v s = o.1 :: o.2 := by
            cases hs : skip v s with
            | nil => rw [hs] at hnext; cases hnext
            | cons c r =>
                rw [hs] at hnext
                rw [← Option.some.inj hnext]
          have hmem := mt (List.IsSuffix.mem · (skip_suffix v s)) h
          rw [hskip, List.mem_cons, not_or] at hmem
          rw [Option.bind_some, if_neg (Ne.symm hmem.1)]
          cases hstep : Reading.setStep v current outer o.1 o.2 with
          | none => rfl
          | some p =>
              exact setFrom_of_not_mem
                (mt (List.IsSuffix.mem · (Enclosed.setStep.suffix hstep)) hmem.2)

/-- The rest of a set does not depend on the fuel, if that is enough. -/
theorem setFrom_fuel : ∀ {n m : Nat} {current : OpenSet} {outer : List OpenSet} {s : List Char},
    s.length < n → s.length < m → setFrom v n current outer s = setFrom v m current outer s
  | n + 1, m + 1, current, outer, s, hn, hm => by
      rw [setFrom_succ, setFrom_succ]
      cases hnext : next (skip v s) with
      | none => rfl
      | some o =>
          have hlength : o.2.length < s.length := by
            have hskip := (skip_suffix v s).length_le
            cases hs : skip v s with
            | nil => rw [hs] at hnext; cases hnext
            | cons c r =>
                rw [hs] at hnext hskip
                rw [← Option.some.inj hnext]
                exact hskip
          rw [Option.bind_some, Option.bind_some]
          split
          · match outer with
            | [] => rfl
            | around :: outer => exact setFrom_fuel (by omega) (by omega)
          · cases hstep : Reading.setStep v current outer o.1 o.2 with
            | none => rfl
            | some p =>
                have hle := (Enclosed.setStep.suffix hstep).length_le
                exact setFrom_fuel (by omega) (by omega)

/-- A steady reader after an enclosed one, where the steady one needs a bracket. -/
theorem Steady.bind_enclosed {f : Reading α} {g : α → Reading β} (hf : Enclosed f)
    (hg : ∀ x, Steady (g x)) (hnone : ∀ x s, ']' ∉ s → g x s = none) : Steady (f >>= g) where
  suffix h := by
    obtain ⟨⟨x, r⟩, hx, hy⟩ := Option.bind_eq_some_iff.mp h
    exact ((hg x).suffix hy).trans (hf.suffix hx)
  follows s := by
    have hread : ∀ t, (f >>= g) (s ++ t) = (f (s ++ t)).bind fun o => g o.1 o.2 := fun _ => rfl
    cases hf.leaves s with
    | inside x c r h =>
        refine ((hg x).follows (c :: r)).congr fun t ht => ?_
        rw [hread, h t ht]
        rfl
    | beyond h =>
        refine .of_none fun t ht => ?_
        rw [hread]
        cases hx : f (s ++ t) with
        | none => rfl
        | some o => exact hnone o.1 o.2 (mt (List.IsSuffix.mem · (h t ht o.1 o.2 hx)) ht.not_mem)

theorem Steady.setFrom : ∀ (n : Nat) (current : OpenSet) (outer : List OpenSet),
    Steady (setFrom v n current outer)
  | 0, _, _ => .fail
  | n + 1, current, outer => by
      refine .bind .skipping fun _ => .bind .next fun c => .ite (fun _ => ?_) fun _ => ?_
      · match outer with
        | [] => exact .pure _
        | around :: outer => exact Steady.setFrom n _ outer
      · exact .bind_enclosed .setStep (fun o => Steady.setFrom n o.1 o.2)
          fun o s => setFrom_of_not_mem

/-- The rest of a set that has been started. -/
def setRest (v : Bool) (o : OpenSet) : Reading Node := fun s => setFrom v s.length.succ o [] s

theorem Steady.setRest (o : OpenSet) : Steady (setRest v o) where
  suffix h := setFrom_suffix h
  follows s := by
    refine ((Steady.setFrom (v := v) (s.length + 3) o []).follows s).congr fun t ht => ?_
    have hlength : (s ++ t).length < s.length + 3 := by cases ht <;> simp
    exact setFrom_fuel (Nat.lt_succ_self _) hlength

/-- A set after its bracket. -/
def setBody (v : Bool) : Reading Node := setStart v >>= setRest v

/-- A set is read in a steady way. -/
theorem Steady.setBody : Steady (setBody v) :=
  .bind_enclosed .setStart .setRest fun _ _ => setFrom_of_not_mem

/-- Reading a set, without faults and stretches. -/
theorem toOption_readSet (s : List Char) :
    (readSet v s).toOption.map (fun o => (o.1.bare, o.2)) = setBody v (s.drop 1) := by
  rw [readSet, Pattern.setBody, bind_apply, ← toOption_readOpen, toOption_bind]
  cases readOpen v s with
  | error f => rfl
  | ok o => exact toOption_readSetFrom _ o.1 [] o.2

end Webhook.Pattern
