import Webhook.Proofs.Json.Grammar

/-!
# Numbers and strings, byte by byte

The pass over a text knows at each byte of a number or a string how far it has come, as a phase.
`NumberPhase.Rest` and `StringPhase.Rest` are the languages of what may still follow in a phase,
said with the grammar.  For both the phases are shown to be exactly a machine for these languages:
`rest_nil` says where the rest may be empty, and `rest_cons` that a byte leads to the language of
the next phase or to none.

`Phase.step_string_of_next?` and `Phase.step_string_cases` tie the machine for strings to the pass
over the whole text.
-/

namespace Webhook.Json

/-! ## Numbers -/

/-- The rest of a number, by how far it has come. -/
def NumberPhase.Rest : NumberPhase → Bytes → Prop
  | .sign, text => UnsignedText text
  | .zero, text => ∃ f e, text = f ++ e ∧ FractionText f ∧ ExponentText e
  | .whole, text => ∃ ds f e, text = ds ++ (f ++ e) ∧ AllDigits ds ∧ FractionText f ∧ ExponentText e
  | .point, text => ∃ ds e, text = ds ++ e ∧ ds ≠ [] ∧ AllDigits ds ∧ ExponentText e
  | .places, text => ∃ ds e, text = ds ++ e ∧ AllDigits ds ∧ ExponentText e
  | .letter, text => PowerText text
  | .exponentSign, text => text ≠ [] ∧ AllDigits text
  | .exponent, text => AllDigits text

theorem not_isExponentLetter {b : UInt8} (h : isDigit b = true) : ¬ isExponentLetter b = true := by
  intro hl
  rw [isExponentLetter, Bool.or_eq_true, beq_iff_eq, beq_iff_eq] at hl
  rcases hl with rfl | rfl
  · cases h
  · cases h

theorem ne_point_of_isDigit {b : UInt8} (h : isDigit b = true) : b ≠ 0x2E := by
  rintro rfl
  cases h

theorem not_sign_of_isDigit {b : UInt8} (h : isDigit b = true) : ¬ (b = 0x2B ∨ b = 0x2D) := by
  rintro (rfl | rfl)
  · cases h
  · cases h

@[simp] theorem allDigits_cons {b : UInt8} {ds : Bytes} :
    AllDigits (b :: ds) ↔ isDigit b = true ∧ AllDigits ds :=
  ⟨fun h => ⟨h.head, h.tail⟩, fun h => h.2.cons h.1⟩

theorem exponentText_cons {b : UInt8} {text : Bytes} :
    ExponentText (b :: text) ↔ isExponentLetter b = true ∧ PowerText text := by
  constructor
  · intro h
    cases h with
    | power hb hp => exact ⟨hb, hp⟩
  · rintro ⟨hb, hp⟩
    exact .power hb hp

theorem powerText_cons {b : UInt8} {text : Bytes} :
    PowerText (b :: text) ↔
      (isDigit b = true ∧ AllDigits text) ∨
      ((b = 0x2B ∨ b = 0x2D) ∧ text ≠ [] ∧ AllDigits text) := by
  constructor
  · intro h
    cases h with
    | plain hne hds => exact .inl (allDigits_cons.mp hds)
    | signed hs hne hds => exact .inr ⟨hs, hne, hds⟩
  · rintro (⟨hb, hds⟩ | ⟨hs, hne, hds⟩)
    · exact .plain (by simp) (hds.cons hb)
    · exact .signed hs hne hds

theorem rest_places_cons {b : UInt8} {text : Bytes} :
    NumberPhase.places.Rest (b :: text) ↔
      (isDigit b = true ∧ NumberPhase.places.Rest text) ∨
      (isExponentLetter b = true ∧ PowerText text) := by
  constructor
  · rintro ⟨ds, e, heq, hds, he⟩
    cases ds with
    | nil =>
        rw [List.nil_append] at heq
        subst heq
        exact .inr (exponentText_cons.mp he)
    | cons d ds =>
        obtain ⟨rfl, rfl⟩ := List.cons.inj heq
        exact .inl ⟨hds.head, ds, e, rfl, hds.tail, he⟩
  · rintro (⟨hb, ds, e, rfl, hds, he⟩ | ⟨hb, hp⟩)
    · exact ⟨b :: ds, e, rfl, hds.cons hb, he⟩
    · exact ⟨[], b :: text, rfl, .nil, .power hb hp⟩

theorem rest_point_cons {b : UInt8} {text : Bytes} :
    NumberPhase.point.Rest (b :: text) ↔ isDigit b = true ∧ NumberPhase.places.Rest text := by
  constructor
  · rintro ⟨ds, e, heq, hne, hds, he⟩
    cases ds with
    | nil => exact absurd rfl hne
    | cons d ds =>
        obtain ⟨rfl, rfl⟩ := List.cons.inj heq
        exact ⟨hds.head, ds, e, rfl, hds.tail, he⟩
  · rintro ⟨hb, ds, e, rfl, hds, he⟩
    exact ⟨b :: ds, e, rfl, by simp, hds.cons hb, he⟩

theorem rest_zero_cons {b : UInt8} {text : Bytes} :
    NumberPhase.zero.Rest (b :: text) ↔
      (b = 0x2E ∧ NumberPhase.point.Rest text) ∨
      (isExponentLetter b = true ∧ PowerText text) := by
  constructor
  · rintro ⟨f, e, heq, hf, he⟩
    cases hf with
    | absent =>
        rw [List.nil_append] at heq
        subst heq
        exact .inr (exponentText_cons.mp he)
    | places hne hds =>
        obtain ⟨rfl, rfl⟩ := List.cons.inj heq
        exact .inl ⟨rfl, _, e, rfl, hne, hds, he⟩
  · rintro (⟨rfl, ds, e, rfl, hne, hds, he⟩ | ⟨hb, hp⟩)
    · exact ⟨0x2E :: ds, e, rfl, .places hne hds, he⟩
    · exact ⟨[], b :: text, rfl, .absent, .power hb hp⟩

theorem rest_whole_cons {b : UInt8} {text : Bytes} :
    NumberPhase.whole.Rest (b :: text) ↔
      (isDigit b = true ∧ NumberPhase.whole.Rest text) ∨ NumberPhase.zero.Rest (b :: text) := by
  constructor
  · rintro ⟨ds, f, e, heq, hds, hf, he⟩
    cases ds with
    | nil => exact .inr ⟨f, e, heq, hf, he⟩
    | cons d ds =>
        obtain ⟨rfl, rfl⟩ := List.cons.inj heq
        exact .inl ⟨hds.head, ds, f, e, rfl, hds.tail, hf, he⟩
  · rintro (⟨hb, ds, f, e, rfl, hds, hf, he⟩ | ⟨f, e, heq, hf, he⟩)
    · exact ⟨b :: ds, f, e, rfl, hds.cons hb, hf, he⟩
    · exact ⟨[], f, e, heq, .nil, hf, he⟩

theorem rest_sign_cons {b : UInt8} {text : Bytes} :
    NumberPhase.sign.Rest (b :: text) ↔
      (b = 0x30 ∧ NumberPhase.zero.Rest text) ∨
      (isDigit b = true ∧ b ≠ 0x30 ∧ NumberPhase.whole.Rest text) := by
  constructor
  · rintro ⟨w, f, e, heq, hw, hf, he⟩
    cases hw with
    | zero =>
        obtain ⟨rfl, rfl⟩ := List.cons.inj heq
        exact .inl ⟨rfl, f, e, rfl, hf, he⟩
    | digits hb hne hds =>
        obtain ⟨rfl, rfl⟩ := List.cons.inj heq
        exact .inr ⟨hb, hne, _, f, e, rfl, hds, hf, he⟩
  · rintro (⟨rfl, f, e, rfl, hf, he⟩ | ⟨hb, hne, ds, f, e, rfl, hds, hf, he⟩)
    · exact ⟨[0x30], f, e, rfl, .zero, hf, he⟩
    · exact ⟨b :: ds, f, e, rfl, .digits hb hne hds, hf, he⟩

/-- A number is complete exactly where it may end. -/
@[simp] theorem NumberPhase.rest_nil (p : NumberPhase) : p.Rest [] ↔ p.mayEnd = true := by
  cases p with
  | sign =>
      refine iff_of_false ?_ (by simp [mayEnd])
      rintro ⟨w, f, e, heq, hw, -, -⟩
      cases hw with
      | zero => cases heq
      | digits _ _ _ => cases heq
  | zero => exact iff_of_true ⟨[], [], rfl, .absent, .absent⟩ rfl
  | whole => exact iff_of_true ⟨[], [], [], rfl, .nil, .absent, .absent⟩ rfl
  | point =>
      refine iff_of_false ?_ (by simp [mayEnd])
      rintro ⟨ds, e, heq, hne, -, -⟩
      exact hne (List.append_eq_nil_iff.mp heq.symm).1
  | places => exact iff_of_true ⟨[], [], rfl, .nil, .absent⟩ rfl
  | letter =>
      refine iff_of_false ?_ (by simp [mayEnd])
      intro h
      cases h with
      | plain hne _ => exact hne rfl
  | exponentSign => exact iff_of_false (fun h => h.1 rfl) (by simp [mayEnd])
  | exponent => exact iff_of_true .nil rfl

/-- The rest of a number goes on with a byte exactly when the number does, and then with the rest
for the phase after it. -/
theorem NumberPhase.rest_cons (p : NumberPhase) (b : UInt8) (text : Bytes) :
    p.Rest (b :: text) ↔ ∃ q, p.step b = .more q ∧ q.Rest text := by
  cases p with
  | sign =>
      rw [rest_sign_cons, step]
      split
      next h =>
        rw [beq_iff_eq] at h
        subst h
        simp
      next h =>
        rw [beq_iff_eq] at h
        split
        next hd => simp [h, hd]
        next hd => simp [h, hd]
  | zero =>
      rw [rest_zero_cons, step]
      split
      next hd => simp [not_isExponentLetter hd, ne_point_of_isDigit hd]
      next hd =>
        split
        next hp =>
          rw [beq_iff_eq] at hp
          subst hp
          simp [isExponentLetter]
        next hp =>
          rw [beq_iff_eq] at hp
          split
          next hl => simp [hp, hl, Rest]
          next hl => simp [hp, hl]
  | whole =>
      rw [rest_whole_cons, rest_zero_cons, step]
      split
      next hd => simp [hd, not_isExponentLetter hd, ne_point_of_isDigit hd]
      next hd =>
        split
        next hp =>
          rw [beq_iff_eq] at hp
          subst hp
          simp [isExponentLetter, hd]
        next hp =>
          rw [beq_iff_eq] at hp
          split
          next hl => simp [hp, hl, hd, Rest]
          next hl => simp [hp, hl, hd]
  | point =>
      rw [rest_point_cons, step]
      split
      next hd => simp [hd]
      next hd => simp [hd]
  | places =>
      rw [rest_places_cons, step]
      split
      next hd => simp [hd, not_isExponentLetter hd]
      next hd =>
        split
        next hl => simp [hl, hd, Rest]
        next hl => simp [hl, hd]
  | letter =>
      rw [show NumberPhase.letter.Rest (b :: text) = PowerText (b :: text) from rfl,
        powerText_cons, step]
      split
      next hd => simp [hd, not_sign_of_isDigit hd, Rest]
      next hd =>
        split
        next hs =>
          rw [Bool.or_eq_true, beq_iff_eq, beq_iff_eq] at hs
          simp [hd, hs, Rest]
        next hs =>
          rw [Bool.or_eq_true, beq_iff_eq, beq_iff_eq] at hs
          simp [hd, hs]
  | exponentSign =>
      rw [show NumberPhase.exponentSign.Rest (b :: text)
        = (b :: text ≠ [] ∧ AllDigits (b :: text)) from rfl, allDigits_cons, step]
      split
      next hd => simp [hd, Rest]
      next hd => simp [hd]
  | exponent =>
      rw [show NumberPhase.exponent.Rest (b :: text) = AllDigits (b :: text) from rfl,
        allDigits_cons, step]
      split
      next hd => simp [hd, Rest]
      next hd => simp [hd]

/-- A number that has ended before a byte may end there. -/
theorem NumberPhase.mayEnd_of_ended {p : NumberPhase} {b : UInt8} (h : p.step b = .ended) :
    p.mayEnd = true := by
  cases p with
  | zero => rfl
  | whole => rfl
  | places => rfl
  | exponent => rfl
  | sign =>
      rw [step] at h
      split at h
      · cases h
      · split at h
        · cases h
        · cases h
  | point =>
      rw [step] at h
      split at h
      · cases h
      · cases h
  | letter =>
      rw [step] at h
      split at h
      · cases h
      · split at h
        · cases h
        · cases h
  | exponentSign =>
      rw [step] at h
      split at h
      · cases h
      · cases h

/-! ## Strings -/

/-- The rest of what stands in a string, by what is due next in it. -/
def StringPhase.Rest : StringPhase → Bytes → Prop
  | .plain, text => RawText text
  | .escape, text => RawText (0x5C :: text)
  | .hex more, text =>
      ∃ hs rest, text = hs ++ rest ∧ hs.length = more + 1 ∧
        (∀ b ∈ hs, isHexDigit b = true) ∧ RawText rest

/-- What is due after a hexadecimal digit, when so many more were. -/
def StringPhase.afterHex : Nat → StringPhase
  | 0 => .plain
  | n + 1 => .hex n

/-- The phase after a byte inside a string, if the string can go on with it. -/
def StringPhase.next? : StringPhase → UInt8 → Option StringPhase
  | .plain, b =>
      if b = 0x5C then some .escape
      else if b < 0x20 ∨ b = 0x22 then none
      else some .plain
  | .escape, b =>
      if b = 0x75 then some (.hex 3) else if isEscapeLetter b = true then some .plain else none
  | .hex more, b => if isHexDigit b = true then some (afterHex more) else none

theorem rest_hex_cons {more : Nat} {b : UInt8} {text : Bytes} :
    (StringPhase.hex more).Rest (b :: text) ↔
      isHexDigit b = true ∧ (StringPhase.afterHex more).Rest text := by
  constructor
  · rintro ⟨hs, rest, heq, hlen, hhex, hrest⟩
    cases hs with
    | nil => cases hlen
    | cons h hs =>
        obtain ⟨rfl, rfl⟩ := List.cons.inj heq
        refine ⟨hhex b (.head _), ?_⟩
        cases more with
        | zero =>
            obtain rfl : hs = [] := List.length_eq_zero_iff.mp (Nat.succ.inj hlen)
            exact hrest
        | succ n => exact ⟨hs, rest, rfl, Nat.succ.inj hlen, fun c hc => hhex c (.tail _ hc), hrest⟩
  · rintro ⟨hb, hrest⟩
    cases more with
    | zero => exact ⟨[b], text, rfl, rfl, by simpa using hb, hrest⟩
    | succ n =>
        obtain ⟨hs, rest, rfl, hlen, hhex, hrest⟩ := hrest
        refine ⟨b :: hs, rest, rfl, by rw [List.length_cons, hlen], ?_, hrest⟩
        intro c hc
        rcases List.mem_cons.mp hc with rfl | hc
        · exact hb
        · exact hhex c hc

theorem rest_escape_cons {b : UInt8} {text : Bytes} :
    StringPhase.escape.Rest (b :: text) ↔
      (b = 0x75 ∧ (StringPhase.hex 3).Rest text) ∨ (isEscapeLetter b = true ∧ RawText text) := by
  constructor
  · intro h
    cases h with
    | plain _ _ hne _ => exact absurd rfl hne
    | short hb hrest => exact .inr ⟨hb, hrest⟩
    | code ha hb hc hd hrest =>
        exact .inl ⟨rfl, [_, _, _, _], _, rfl, rfl, by simp [ha, hb, hc, hd], hrest⟩
  · rintro (⟨rfl, hs, rest, rfl, hlen, hhex, hrest⟩ | ⟨hb, hrest⟩)
    · match hs, hlen with
      | [a, b, c, d], _ =>
          exact .code (hhex a (by simp)) (hhex b (by simp)) (hhex c (by simp)) (hhex d (by simp))
            hrest
    · exact .short hb hrest

/-- A string may end exactly where a character is due. -/
@[simp] theorem StringPhase.rest_nil (p : StringPhase) : p.Rest [] ↔ p = .plain := by
  cases p with
  | plain => exact iff_of_true .nil rfl
  | escape =>
      refine iff_of_false ?_ (by simp)
      intro h
      cases h with
      | plain _ _ hne _ => exact hne rfl
  | hex more =>
      refine iff_of_false ?_ (by simp)
      rintro ⟨hs, rest, heq, hlen, -, -⟩
      rw [(List.append_eq_nil_iff.mp heq.symm).1] at hlen
      cases hlen

/-- The rest of a string goes on with a byte exactly when the string does, and then with the rest
for the phase after it. -/
theorem StringPhase.rest_cons (p : StringPhase) (b : UInt8) (text : Bytes) :
    p.Rest (b :: text) ↔ ∃ q, p.next? b = some q ∧ q.Rest text := by
  cases p with
  | plain =>
      rw [next?]
      constructor
      · intro h
        cases h with
        | plain hctl hquote hslash hrest =>
            exact ⟨.plain, by rw [if_neg hslash, if_neg (by simp [hctl, hquote])], hrest⟩
        | short hb hrest => exact ⟨.escape, rfl, .short hb hrest⟩
        | code ha hb hc hd hrest => exact ⟨.escape, rfl, .code ha hb hc hd hrest⟩
      · rintro ⟨q, hq, hrest⟩
        split at hq
        next hslash =>
          obtain rfl := Option.some.inj hq
          rw [hslash]
          exact hrest
        next hslash =>
          split at hq
          next => cases hq
          next hbad =>
            obtain rfl := Option.some.inj hq
            exact .plain (fun h => hbad (.inl h)) (fun h => hbad (.inr h)) hslash hrest
  | escape =>
      rw [rest_escape_cons, next?]
      split
      next hu =>
        subst hu
        simp [isEscapeLetter]
      next hu =>
        split
        next hl => simp [hu, hl, Rest]
        next hl => simp [hu, hl]
  | hex more =>
      rw [rest_hex_cons, next?]
      split
      next hb => simp [hb]
      next hb => simp [hb]

/-- Inside a string every byte that the string can go on with is kept. -/
theorem Phase.step_string_of_next? {offset start : Nat} {b : UInt8} {following seen : Bytes}
    {p q : StringPhase} (h : p.next? b = some q) :
    (Phase.string start seen p).step offset b following
      = .next [] (.string start (b :: seen) q) := by
  cases p with
  | plain =>
      rw [StringPhase.next?] at h
      split at h
      next hslash =>
        obtain rfl := Option.some.inj h
        simp [step, hslash]
      next hslash =>
        split at h
        next => cases h
        next hbad =>
          obtain rfl := Option.some.inj h
          rw [not_or] at hbad
          simp [step, hslash, hbad]
  | escape =>
      rw [StringPhase.next?] at h
      split at h
      next hu =>
        obtain rfl := Option.some.inj h
        simp [step, hu]
      next hu =>
        split at h
        next hl =>
          obtain rfl := Option.some.inj h
          simp [step, hu, hl]
        next => cases h
  | hex more =>
      rw [StringPhase.next?] at h
      split at h
      next hb =>
        obtain rfl := Option.some.inj h
        cases more with
        | zero => simp [step, hb, StringPhase.afterHex]
        | succ n => simp [step, hb, StringPhase.afterHex]
      next => cases h

/-- Inside a string a byte ends the string, or the string goes on with it. -/
theorem Phase.step_string_cases {offset start : Nat} {b : UInt8} {following seen : Bytes}
    {p : StringPhase} {new : List Token} {q : Phase}
    (h : (Phase.string start seen p).step offset b following = .next new q) :
    (p = .plain ∧ b = 0x22 ∧ q = .between ∧
      new = [.scalar start (.string seen.reverse (.closed (offset + 1)))]) ∨
    ∃ p', p.next? b = some p' ∧ new = [] ∧ q = .string start (b :: seen) p' := by
  cases p with
  | plain =>
      rw [step] at h
      split at h
      next hquote =>
        obtain ⟨rfl, rfl⟩ := Step.next.inj h
        exact .inl ⟨rfl, beq_iff_eq.mp hquote, rfl, rfl⟩
      next hquote =>
        rw [beq_iff_eq] at hquote
        split at h
        next hslash =>
          obtain ⟨rfl, rfl⟩ := Step.next.inj h
          exact .inr ⟨.escape, by simp [StringPhase.next?, beq_iff_eq.mp hslash], rfl, rfl⟩
        next hslash =>
          rw [beq_iff_eq] at hslash
          split at h
          next => cases h
          next hctl =>
            obtain ⟨rfl, rfl⟩ := Step.next.inj h
            exact .inr ⟨.plain, by simp [StringPhase.next?, hslash, hctl, hquote], rfl, rfl⟩
  | escape =>
      rw [step] at h
      split at h
      next hu =>
        obtain ⟨rfl, rfl⟩ := Step.next.inj h
        exact .inr ⟨.hex 3, by simp [StringPhase.next?, beq_iff_eq.mp hu], rfl, rfl⟩
      next hu =>
        rw [beq_iff_eq] at hu
        split at h
        next hl =>
          obtain ⟨rfl, rfl⟩ := Step.next.inj h
          exact .inr ⟨.plain, by simp [StringPhase.next?, hu, hl], rfl, rfl⟩
        next => cases h
  | hex more =>
      unfold step at h
      simp only at h
      split at h
      next hb =>
        obtain ⟨rfl, rfl⟩ := Step.next.inj h
        refine .inr ⟨.afterHex more, by simp [StringPhase.next?, hb], rfl, ?_⟩
        cases more with
        | zero => rfl
        | succ n => rfl
      next =>
        split at h
        next => cases h
        next => cases h

end Webhook.Json
