import Mathlib.Data.List.Forall2
import Webhook.Proofs.Json.Phases

/-!
# The tokens of a text are its lexemes

`tokens` goes over the bytes of a text once.  Both directions are stated for a whole text:
`spaced_of_tokens` says that a text whose tokens end with the end of the text has the lexemes of
these tokens, and `tokens_of_spaced` that a text with given lexemes has tokens with these lexemes.

For the first, `Phase.Owes` says of a phase which lexemes and which bytes may still come, and one
byte after the other is taken off.  The second needs that no two scalars stand side by side
(`Apart`): `12` is one number, and not a one and a two.
-/

namespace Webhook.Json

/-! ## The pass without its accumulator -/

/-- The tokens of the rest of a text, from an offset and a phase. -/
def tokensAt (offset : Nat) (p : Phase) (text : Bytes) : List Token := tokensFrom offset [] p text

theorem tokensFrom_eq {text : Bytes} :
    ∀ {offset : Nat} {done : List Token} {p : Phase},
      tokensFrom offset done p text = done.reverse ++ tokensAt offset p text := by
  induction text with
  | nil =>
      intro offset done p
      simp [tokensAt, tokensFrom]
  | cons b rest ih =>
      intro offset done p
      rw [tokensAt, tokensFrom, tokensFrom]
      cases p.step offset b rest with
      | next new q =>
          simp only [ih, List.reverse_append, List.reverse_reverse, List.append_assoc]
          simp
      | stop last => simp

@[simp] theorem tokensAt_nil (offset : Nat) (p : Phase) :
    tokensAt offset p [] = p.atEnd offset := by
  simp [tokensAt, tokensFrom]

theorem tokensAt_next {offset : Nat} {p q : Phase} {b : UInt8} {rest : Bytes} {new : List Token}
    (h : p.step offset b rest = .next new q) :
    tokensAt offset p (b :: rest) = new ++ tokensAt (offset + 1) q rest := by
  rw [tokensAt, tokensFrom]
  simp only [h]
  rw [tokensFrom_eq, List.append_nil, List.reverse_reverse]

theorem tokensAt_stop {offset : Nat} {p : Phase} {b : UInt8} {rest : Bytes} {last : Token}
    (h : p.step offset b rest = .stop last) : tokensAt offset p (b :: rest) = [last] := by
  rw [tokensAt, tokensFrom]
  simp only [h]
  rfl

/-! ## The byte between tokens -/

theorem numberText_of_sign {text : Bytes} (h : NumberPhase.sign.Rest text) :
    NumberText (0x2D :: text) := .inr ⟨text, rfl, h⟩

theorem numberText_of_rest {b : UInt8} {text : Bytes} {p : NumberPhase}
    (hp : NumberPhase.sign.step b = .more p) (h : p.Rest text) : NumberText (b :: text) :=
  .inl ((NumberPhase.sign.rest_cons b text).mpr ⟨p, hp, h⟩)

/-- What a byte between tokens may do. -/
inductive Starts (b : UInt8) (offset : Nat) : Option Token → Phase → Prop where
  /-- A blank. -/
  | blank : isSpace b = true → Starts b offset none .between
  /-- A mark, which is a token by itself. -/
  | mark {t : Token} {l : Lexeme} : t.lexeme? = some l → l.WellFormed → l.text = [b] →
      Starts b offset (some t) .between
  /-- The first byte of a string. -/
  | quote : b = 0x22 → Starts b offset none (.string offset [] .plain)
  /-- The first byte of a number. -/
  | number {p : NumberPhase} : (∀ more, p.Rest more → NumberText (b :: more)) →
      Starts b offset none (.number offset [b] p)
  /-- The first byte of a word. -/
  | word {w : Word} {due : Bytes} : w.letters = b :: due →
      Starts b offset none (.word w offset due)
  /-- A byte that starts no token. -/
  | stray : Starts b offset (some (.stray offset)) .between

theorem Starts.ite {b : UInt8} {offset : Nat} {c : Prop} [Decidable c]
    {x y : Option Token × Phase} (hx : c → Starts b offset x.1 x.2)
    (hy : ¬ c → Starts b offset y.1 y.2) :
    Starts b offset (if c then x else y).1 (if c then x else y).2 := by
  split
  next hc => exact hx hc
  next hc => exact hy hc

theorem Starts.mark_of_beq {b c : UInt8} {offset : Nat} {t : Token} {l : Lexeme}
    (ht : t.lexeme? = some l) (hl : l.WellFormed) (htext : l.text = [c]) (hb : (b == c) = true) :
    Starts b offset (some t) .between := by
  rw [← beq_iff_eq.mp hb] at htext
  exact .mark ht hl htext

theorem Starts.word_of_beq {b c : UInt8} {offset : Nat} {w : Word} {due : Bytes}
    (hw : w.letters = c :: due) (hb : (b == c) = true) :
    Starts b offset none (.word w offset due) := by
  rw [← beq_iff_eq.mp hb] at hw
  exact .word hw

/-- One case for each branch of `startToken`. -/
theorem starts_startToken (b : UInt8) (offset : Nat) :
    Starts b offset (startToken b offset).1 (startToken b offset).2 := by
  rw [startToken]
  refine .ite (fun hb => .blank hb) fun _ => ?_
  refine .ite (.mark_of_beq (l := .openList) rfl trivial rfl) fun _ => ?_
  refine .ite (.mark_of_beq (l := .openObject) rfl trivial rfl) fun _ => ?_
  refine .ite (.mark_of_beq (l := .closeList) rfl trivial rfl) fun _ => ?_
  refine .ite (.mark_of_beq (l := .closeObject) rfl trivial rfl) fun _ => ?_
  refine .ite (.mark_of_beq (l := .comma) rfl trivial rfl) fun _ => ?_
  refine .ite (.mark_of_beq (l := .colon) rfl trivial rfl) fun _ => ?_
  refine .ite (fun hb => .quote (beq_iff_eq.mp hb)) fun _ => ?_
  refine .ite (fun hb => ?minus) fun _ => ?_
  case minus =>
    rw [beq_iff_eq.mp hb]
    exact .number fun _ hp => numberText_of_sign hp
  refine .ite (fun hzero => ?zero) fun hzero => ?_
  case zero =>
    rw [beq_iff_eq.mp hzero]
    exact .number fun _ hp => numberText_of_rest rfl hp
  refine .ite (fun hb => ?digit) fun _ => ?_
  case digit =>
    have hstep : NumberPhase.sign.step b = .more .whole := by
      rw [NumberPhase.step, if_neg hzero, if_pos hb]
    exact .number fun _ hp => numberText_of_rest hstep hp
  refine .ite (.word_of_beq rfl) fun _ => ?_
  refine .ite (.word_of_beq rfl) fun _ => ?_
  exact .ite (.word_of_beq rfl) fun _ => .stray

theorem Step.after_eq_next {ended new : List Token} {b : UInt8} {offset : Nat} {q : Phase}
    (h : Step.after ended b offset = .next new q) :
    ∃ t?, Starts b offset t? q ∧ new = ended ++ t?.toList := by
  have hstarts := starts_startToken b offset
  rw [Step.after] at h
  split at h
  next t p hstart =>
    obtain ⟨rfl, rfl⟩ := Step.next.inj h
    rw [hstart] at hstarts
    exact ⟨some t, hstarts, rfl⟩
  next p hstart =>
    obtain ⟨rfl, rfl⟩ := Step.next.inj h
    rw [hstart] at hstarts
    exact ⟨none, hstarts, (List.append_nil _).symm⟩

/-! ## The last token -/

/-- A pass that stops does so at a scalar that breaks off. -/
theorem Phase.step_stop {offset : Nat} {b : UInt8} {following : Bytes} {p : Phase} {last : Token}
    (h : p.step offset b following = .stop last) :
    ∃ start s, last = .scalar start s ∧ (Token.scalar start s).lexeme? = none := by
  have hafter : ∀ ended, Step.after ended b offset ≠ .stop last := by
    intro ended
    rw [Step.after]
    split
    · simp
    · simp
  cases p with
  | between => exact absurd h (hafter [])
  | word w start due =>
      cases due with
      | nil => exact absurd h (hafter _)
      | cons d due =>
          rw [step] at h
          split at h
          · cases h
          · exact ⟨_, _, (Step.stop.inj h).symm, rfl⟩
  | number start seen p =>
      rw [step] at h
      split at h
      · cases h
      · exact absurd h (hafter _)
      · exact ⟨_, _, (Step.stop.inj h).symm, rfl⟩
  | string start seen p =>
      unfold step Step.cutString at h
      cases p with
      | plain =>
          simp only at h
          split at h
          · cases h
          · split at h
            · cases h
            · split at h
              · exact ⟨_, _, (Step.stop.inj h).symm, rfl⟩
              · cases h
      | escape =>
          simp only at h
          split at h
          · cases h
          · split at h
            · cases h
            · exact ⟨_, _, (Step.stop.inj h).symm, rfl⟩
      | hex more =>
          simp only at h
          split at h
          · cases h
          · split at h
            · exact ⟨_, _, (Step.stop.inj h).symm, rfl⟩
            · exact ⟨_, _, (Step.stop.inj h).symm, rfl⟩

/-- No byte is the end of the text. -/
theorem Starts.ne_finish {b : UInt8} {offset : Nat} {t? : Option Token} {q : Phase}
    (h : Starts b offset t? q) : ∀ t ∈ t?.toList, ∀ n, t ≠ .finish n := by
  rintro t ht n rfl
  cases h with
  | mark hl _ _ =>
      obtain rfl := List.mem_singleton.mp ht
      cases hl
  | stray => cases List.mem_singleton.mp ht
  | blank _ => cases ht
  | quote _ => cases ht
  | number _ => cases ht
  | word _ => cases ht

theorem Phase.step_ne_finish {offset : Nat} {b : UInt8} {rest : Bytes} {p q : Phase}
    {new : List Token} (h : p.step offset b rest = .next new q) :
    ∀ t ∈ new, ∀ n, t ≠ .finish n := by
  have hafter : ∀ {start : Nat} {s : Scalar}, Step.after [.scalar start s] b offset = .next new q →
      ∀ t ∈ new, ∀ n, t ≠ .finish n := by
    intro start s h t ht n
    obtain ⟨t?, hstarts, rfl⟩ := Step.after_eq_next h
    rcases List.mem_append.mp ht with ht | ht
    · obtain rfl := List.mem_singleton.mp ht
      simp
    · exact hstarts.ne_finish t ht n
  cases p with
  | between =>
      obtain ⟨t?, hstarts, rfl⟩ := Step.after_eq_next h
      exact hstarts.ne_finish
  | word w start due =>
      cases due with
      | nil => exact hafter h
      | cons d due =>
          rw [step] at h
          split at h
          next =>
            obtain ⟨rfl, rfl⟩ := Step.next.inj h
            simp
          next => cases h
  | number start seen p =>
      rw [step] at h
      split at h
      next =>
        obtain ⟨rfl, rfl⟩ := Step.next.inj h
        simp
      next => exact hafter h
      next => cases h
  | string start seen p =>
      rcases Phase.step_string_cases h with ⟨rfl, rfl, rfl, rfl⟩ | ⟨p', hp', rfl, rfl⟩
      · simp
      · simp

/-- So is the last token of a text that ends in any phase. -/
theorem Phase.atEnd_last (p : Phase) (offset : Nat) :
    ∃ front last, p.atEnd offset = front ++ [last] ∧ last.lexeme? = none ∧
      ∀ t ∈ front, ∀ n, t ≠ .finish n := by
  cases p with
  | between => exact ⟨[], _, rfl, rfl, by simp⟩
  | word w start due =>
      rw [atEnd]
      split
      · exact ⟨[_], _, rfl, rfl, by simp⟩
      · exact ⟨[], _, rfl, rfl, by simp⟩
  | number start seen p =>
      rw [atEnd]
      split
      · exact ⟨[_], _, rfl, rfl, by simp⟩
      · exact ⟨[], _, rfl, rfl, by simp⟩
  | string start seen p => exact ⟨[], _, rfl, rfl, by simp⟩

/-- The last token of every text is none that a reader could pass: the end of the text, or a
scalar that breaks off.  The end of the text is not found before that. -/
theorem tokensAt_last (text : Bytes) :
    ∀ (offset : Nat) (p : Phase),
      ∃ front last, tokensAt offset p text = front ++ [last] ∧ last.lexeme? = none ∧
        ∀ t ∈ front, ∀ n, t ≠ .finish n := by
  induction text with
  | nil =>
      intro offset p
      rw [tokensAt_nil]
      exact p.atEnd_last offset
  | cons b rest ih =>
      intro offset p
      cases hstep : p.step offset b rest with
      | next new q =>
          obtain ⟨front, last, heq, hlast, hfront⟩ := ih (offset + 1) q
          rw [tokensAt_next hstep, heq, ← List.append_assoc]
          refine ⟨_, _, rfl, hlast, fun t ht => ?_⟩
          rcases List.mem_append.mp ht with ht | ht
          · exact Phase.step_ne_finish hstep t ht
          · exact hfront t ht
      | stop last =>
          obtain ⟨start, s, rfl, hlast⟩ := Phase.step_stop hstep
          rw [tokensAt_stop hstep]
          exact ⟨[], _, rfl, hlast, by simp⟩

/-! ## From tokens to lexemes -/

/-- Tokens that have the given lexemes, one by one. -/
abbrev Spells (ts : List Token) (ls : List Lexeme) : Prop :=
  List.Forall₂ (fun t l => t.lexeme? = some l) ts ls

theorem Spells.split_lexemes {ts : List Token} {ls₁ ls₂ : List Lexeme}
    (h : Spells ts (ls₁ ++ ls₂)) : ∃ ts₁ ts₂, ts = ts₁ ++ ts₂ ∧ Spells ts₁ ls₁ ∧ Spells ts₂ ls₂ :=
  ⟨_, _, (List.take_append_drop ls₁.length ts).symm, List.forall₂_take_append ts ls₁ ls₂ h,
    List.forall₂_drop_append ts ls₁ ls₂ h⟩

theorem Spells.split {front back : List Token} {ls : List Lexeme} (h : Spells (front ++ back) ls) :
    ∃ ls₁ ls₂, ls = ls₁ ++ ls₂ ∧ Spells front ls₁ ∧ Spells back ls₂ := by
  have hflip := List.Forall₂.flip h
  exact ⟨_, _, (List.take_append_drop front.length ls).symm,
    (List.forall₂_take_append ls front back hflip).flip,
    (List.forall₂_drop_append ls front back hflip).flip⟩

/-- Which lexemes and which bytes may still come in a phase. -/
def Phase.Owes : Phase → List Lexeme → Bytes → Prop
  | .between, ls, text => Spaced ls text
  | .word w _ due, ls, text =>
      ∃ ls' rest, ls = .word w :: ls' ∧ text = due ++ rest ∧ Spaced ls' rest
  | .number _ seen p, ls, text =>
      ∃ more ls' rest, ls = .number (seen.reverse ++ more) :: ls' ∧ text = more ++ rest ∧
        p.Rest more ∧ Spaced ls' rest
  | .string _ seen p, ls, text =>
      ∃ more ls' rest, ls = .string (seen.reverse ++ more) :: ls' ∧ text = more ++ 0x22 :: rest ∧
        p.Rest more ∧ Spaced ls' rest

/-- A byte between tokens takes a blank or a mark off the text, or starts a scalar. -/
theorem spaced_of_starts {offset : Nat} {b : UInt8} {rest : Bytes} {t? : Option Token}
    {q : Phase} {ls₁ ls₂ : List Lexeme} (h : Starts b offset t? q) (hs : Spells t?.toList ls₁)
    (hq : q.Owes ls₂ rest) : Spaced (ls₁ ++ ls₂) (b :: rest) := by
  cases h with
  | blank hb =>
      cases hs
      exact Spaced.cons_space hb hq
  | mark ht hl htext =>
      cases hs with
      | cons ht' hs' =>
          cases hs'
          obtain rfl := Option.some.inj (ht.symm.trans ht')
          have hcons := Spaced.cons hl hq
          rwa [htext] at hcons
  | quote hb =>
      cases hs
      obtain ⟨more, ls', rest', rfl, rfl, hmore, hrest⟩ := hq
      have hcons := Spaced.cons (l := .string more) hmore hrest
      rw [hb]
      simpa [Lexeme.text] using hcons
  | number hp =>
      cases hs
      obtain ⟨more, ls', rest', rfl, rfl, hmore, hrest⟩ := hq
      exact Spaced.cons (l := .number (b :: more)) (hp more hmore) hrest
  | @word w due hw =>
      cases hs
      obtain ⟨ls', rest', rfl, rfl, hrest⟩ := hq
      have hcons := Spaced.cons (l := .word w) trivial hrest
      rwa [Lexeme.text, hw] at hcons
  | stray =>
      cases hs with
      | cons ht _ => cases ht

/-- What a phase owes after a byte, the phase before it owed together with the byte. -/
theorem Phase.owes_step {offset : Nat} {b : UInt8} {rest : Bytes} {p q : Phase}
    {new : List Token} {ls₁ ls₂ : List Lexeme} (h : p.step offset b rest = .next new q)
    (hs : Spells new ls₁) (hq : q.Owes ls₂ rest) : p.Owes (ls₁ ++ ls₂) (b :: rest) := by
  cases p with
  | between =>
      obtain ⟨t?, hstart, rfl⟩ := Step.after_eq_next h
      exact spaced_of_starts hstart hs hq
  | word w start due =>
      cases due with
      | nil =>
          obtain ⟨t?, hstart, rfl⟩ := Step.after_eq_next h
          cases hs with
          | cons ht hs =>
              cases ht
              exact ⟨_, b :: rest, rfl, rfl, spaced_of_starts hstart hs hq⟩
      | cons d due =>
          rw [step] at h
          split at h
          next hb =>
            obtain ⟨rfl, rfl⟩ := Step.next.inj h
            cases hs
            obtain ⟨ls', rest', rfl, rfl, hrest⟩ := hq
            rw [beq_iff_eq.mp hb]
            exact ⟨ls', rest', rfl, rfl, hrest⟩
          next => cases h
  | number start seen p =>
      rw [step] at h
      split at h
      next next' hnext =>
        obtain ⟨rfl, rfl⟩ := Step.next.inj h
        cases hs
        obtain ⟨more, ls', rest', rfl, rfl, hmore, hrest⟩ := hq
        refine ⟨b :: more, ls', rest', ?_, rfl, (p.rest_cons b more).mpr ⟨_, hnext, hmore⟩, hrest⟩
        simp
      next hended =>
        obtain ⟨t?, hstart, rfl⟩ := Step.after_eq_next h
        cases hs with
        | cons ht hs =>
            cases ht
            refine ⟨[], _, b :: rest, ?_, rfl, ?_, spaced_of_starts hstart hs hq⟩
            · simp
            · rw [NumberPhase.rest_nil]
              exact NumberPhase.mayEnd_of_ended hended
      next => cases h
  | string start seen p =>
      rcases Phase.step_string_cases h with ⟨rfl, rfl, rfl, rfl⟩ | ⟨p', hp', rfl, rfl⟩
      · cases hs with
        | cons ht hs =>
            cases ht
            cases hs
            exact ⟨[], ls₂, rest, by simp, rfl, .nil, hq⟩
      · cases hs
        obtain ⟨more, ls', rest', rfl, rfl, hmore, hrest⟩ := hq
        refine ⟨b :: more, ls', rest', ?_, rfl, (p.rest_cons b more).mpr ⟨_, hp', hmore⟩, hrest⟩
        simp

theorem eq_of_singleton {front : List Token} {t last : Token} (h : [t] = front ++ [last]) :
    front = [] ∧ t = last := by
  have hconcat : [] ++ [t] = front ++ [last] := h
  obtain ⟨hfront, ht⟩ := List.append_singleton_inj.mp hconcat
  exact ⟨hfront.symm, ht⟩

/-- A text that ends in a phase has the lexemes that the phase owes. -/
theorem Phase.owes_of_atEnd {offset n : Nat} {p : Phase} {front : List Token} {ls : List Lexeme}
    (h : p.atEnd offset = front ++ [.finish n]) (hs : Spells front ls) : p.Owes ls [] := by
  have double : ∀ {t t' : Token}, [t, t'] = front ++ [.finish n] → front = [t] := by
    intro t t' ht
    have hconcat : [t] ++ [t'] = front ++ [.finish n] := ht
    exact (List.append_singleton_inj.mp hconcat).1.symm
  cases p with
  | between =>
      obtain ⟨rfl, -⟩ := eq_of_singleton h
      cases hs
      exact .done .nil
  | word w start due =>
      rw [atEnd] at h
      split at h
      next hdue =>
        obtain rfl := double h
        cases hs with
        | cons ht hs =>
            cases ht
            cases hs
            rw [List.isEmpty_iff] at hdue
            exact ⟨[], [], rfl, by rw [hdue]; rfl, .done .nil⟩
      next => cases (eq_of_singleton h).2
  | number start seen p =>
      rw [atEnd] at h
      split at h
      next hend =>
        obtain rfl := double h
        cases hs with
        | cons ht hs =>
            cases ht
            cases hs
            exact ⟨[], [], [], by simp, rfl, (p.rest_nil).mpr hend, .done .nil⟩
      next => cases (eq_of_singleton h).2
  | string start seen p => cases (eq_of_singleton h).2

/-- The tokens of the rest of a text have the lexemes that the phase owes. -/
theorem Phase.owes_of_tokensAt {text : Bytes} :
    ∀ {offset n : Nat} {p : Phase} {front : List Token} {ls : List Lexeme},
      tokensAt offset p text = front ++ [.finish n] → Spells front ls → p.Owes ls text := by
  induction text with
  | nil =>
      intro offset n p front ls h hs
      rw [tokensAt_nil] at h
      exact owes_of_atEnd h hs
  | cons b rest ih =>
      intro offset n p front ls h hs
      cases hstep : p.step offset b rest with
      | next new q =>
          -- the rest has a last token, so the end of the text is not among the new ones
          obtain ⟨back, last, hback, -, -⟩ := tokensAt_last rest (offset + 1) q
          rw [tokensAt_next hstep, hback, ← List.append_assoc] at h
          obtain ⟨rfl, hlast⟩ := List.append_singleton_inj.mp h
          obtain ⟨ls₁, ls₂, rfl, hs₁, hs₂⟩ := Spells.split hs
          rw [hlast] at hback
          exact Phase.owes_step hstep hs₁ (ih hback hs₂)
      | stop last =>
          obtain ⟨start, s, rfl, -⟩ := Phase.step_stop hstep
          rw [tokensAt_stop hstep] at h
          cases (eq_of_singleton h).2

/-- A text whose tokens end with the end of the text has the lexemes of its tokens. -/
theorem spaced_of_tokens {text : Bytes} {front : List Token} {n : Nat} {ls : List Lexeme}
    (h : tokens text = front ++ [.finish n]) (hs : Spells front ls) : Spaced ls text :=
  Phase.owes_of_tokensAt (p := .between) h hs

/-! ## From lexemes to tokens -/

/-- A text in front of which a number or a word has ended: its first byte, if there is one, goes on
with neither. -/
def Delimited (text : Bytes) : Prop :=
  ∀ b rest, text = b :: rest → isDigit b = false ∧ b ≠ 0x2E ∧ isExponentLetter b = false

theorem NumberPhase.step_eq_ended {p : NumberPhase} {b : UInt8} (hp : p.mayEnd = true)
    (hd : isDigit b = false) (hpoint : b ≠ 0x2E) (he : isExponentLetter b = false) :
    p.step b = .ended := by
  cases p with
  | zero => simp [step, hd, hpoint, he]
  | whole => simp [step, hd, hpoint, he]
  | places => simp [step, hd, he]
  | exponent => simp [step, hd]
  | sign => cases hp
  | point => cases hp
  | letter => cases hp
  | exponentSign => cases hp

/-- A byte between tokens that is a mark by itself. -/
theorem tokensAt_mark {offset : Nat} {b : UInt8} {t : Token} {rest : Bytes}
    (h : startToken b offset = (some t, .between)) :
    tokensAt offset .between (b :: rest) = t :: tokensAt (offset + 1) .between rest := by
  have hstep : Phase.between.step offset b rest = .next [t] .between := by
    simp only [Phase.step, Step.after, h, List.nil_append]
  rw [tokensAt_next hstep, List.singleton_append]

/-- A byte between tokens that starts a scalar or is a blank. -/
theorem tokensAt_start {offset : Nat} {b : UInt8} {q : Phase} {rest : Bytes}
    (h : startToken b offset = (none, q)) :
    tokensAt offset .between (b :: rest) = tokensAt (offset + 1) q rest := by
  have hstep : Phase.between.step offset b rest = .next [] q := by
    simp only [Phase.step, Step.after, h]
  rw [tokensAt_next hstep, List.nil_append]

/-- Where a token has ended, the pass goes on as it does between tokens. -/
theorem tokensAt_of_ended {offset : Nat} {p : Phase} {rest : Bytes} {t : Token}
    (hend : p.atEnd offset = [t, .finish offset])
    (hstep : ∀ b tail, rest = b :: tail → p.step offset b tail = Step.after [t] b offset) :
    tokensAt offset p rest = t :: tokensAt offset .between rest := by
  cases rest with
  | nil => rw [tokensAt_nil, tokensAt_nil, hend, Phase.atEnd]
  | cons b tail =>
      have hp := hstep b tail rfl
      rw [Step.after] at hp
      cases hstart : startToken b offset with
      | mk t? q =>
          rw [hstart] at hp
          cases t? with
          | none => rw [tokensAt_next hp, tokensAt_start hstart, List.singleton_append]
          | some t' =>
              have hbetween : Phase.between.step offset b tail = .next [t'] q := by
                simp only [Phase.step, Step.after, hstart, List.nil_append]
              rw [tokensAt_next hp, tokensAt_next hbetween, List.append_assoc,
                List.singleton_append]

theorem tokensAt_word (start : Nat) (w : Word) (rest : Bytes) :
    ∀ (due : Bytes) (offset : Nat), ∃ offset',
      tokensAt offset (.word w start due) (due ++ rest)
        = .scalar start (.word w) :: tokensAt offset' .between rest
  | [], offset => ⟨offset, tokensAt_of_ended rfl fun _ _ _ => rfl⟩
  | d :: due, offset => by
      obtain ⟨offset', h⟩ := tokensAt_word start w rest due (offset + 1)
      have hstep : (Phase.word w start (d :: due)).step offset d (due ++ rest)
          = .next [] (.word w start due) := by simp [Phase.step]
      exact ⟨offset', by rw [List.cons_append, tokensAt_next hstep, h, List.nil_append]⟩

theorem tokensAt_number (start : Nat) {rest : Bytes} (hrest : Delimited rest) :
    ∀ (more : Bytes) (offset : Nat) (seen : Bytes) (p : NumberPhase), p.Rest more → ∃ offset',
      tokensAt offset (.number start seen p) (more ++ rest)
        = .scalar start (.number (seen.reverse ++ more)) :: tokensAt offset' .between rest
  | [], offset, seen, p, hp => by
      have hend := (p.rest_nil).mp hp
      refine ⟨offset, ?_⟩
      rw [List.append_nil]
      refine tokensAt_of_ended (by rw [Phase.atEnd, if_pos hend]) fun b tail htail => ?_
      obtain ⟨hd, hpoint, he⟩ := hrest b tail htail
      simp only [Phase.step, NumberPhase.step_eq_ended hend hd hpoint he]
  | b :: more, offset, seen, p, hp => by
      obtain ⟨q, hq, hmore⟩ := (p.rest_cons b more).mp hp
      obtain ⟨offset', h⟩ := tokensAt_number start hrest more (offset + 1) (b :: seen) q hmore
      have hstep : (Phase.number start seen p).step offset b (more ++ rest)
          = .next [] (.number start (b :: seen) q) := by simp only [Phase.step, hq]
      refine ⟨offset', ?_⟩
      rw [List.cons_append, tokensAt_next hstep, h]
      simp

theorem tokensAt_string (start : Nat) (rest : Bytes) :
    ∀ (more : Bytes) (offset : Nat) (seen : Bytes) (p : StringPhase), p.Rest more →
      ∃ offset' stop,
        tokensAt offset (.string start seen p) (more ++ 0x22 :: rest)
          = .scalar start (.string (seen.reverse ++ more) (.closed stop)) ::
            tokensAt offset' .between rest
  | [], offset, seen, p, hp => by
      obtain rfl := (p.rest_nil).mp hp
      refine ⟨offset + 1, offset + 1, ?_⟩
      have hstep : (Phase.string start seen .plain).step offset 0x22 rest = .next
          [.scalar start (.string seen.reverse (.closed (offset + 1)))] .between := rfl
      rw [List.append_nil, List.nil_append, tokensAt_next hstep, List.singleton_append]
  | b :: more, offset, seen, p, hp => by
      obtain ⟨q, hq, hmore⟩ := (p.rest_cons b more).mp hp
      obtain ⟨offset', stop, h⟩ := tokensAt_string start rest more (offset + 1) (b :: seen) q
        hmore
      refine ⟨offset', stop, ?_⟩
      rw [List.cons_append, tokensAt_next (Phase.step_string_of_next? hq), h]
      simp

theorem tokensAt_blanks (rest : Bytes) :
    ∀ (blanks : Bytes) (offset : Nat), AllSpace blanks → ∃ offset',
      tokensAt offset .between (blanks ++ rest) = tokensAt offset' .between rest
  | [], offset, _ => ⟨offset, rfl⟩
  | b :: blanks, offset, h => by
      obtain ⟨offset', ih⟩ := tokensAt_blanks rest blanks (offset + 1) fun c hc =>
        h c (.tail _ hc)
      have hstart : startToken b offset = (none, .between) := by
        rw [startToken, if_pos (h b (.head _))]
      exact ⟨offset', by rw [List.cons_append, tokensAt_start hstart, ih]⟩

theorem isSpace_digit {b : UInt8} (h : isDigit b = true) : isSpace b = false := by
  simp only [isDigit, Bool.and_eq_true, decide_eq_true_eq, UInt8.le_iff_toNat_le,
    UInt8.reduceToNat] at h
  simp only [isSpace, Bool.or_eq_false_iff, beq_eq_false_iff_ne, ne_eq, ← UInt8.toNat_inj,
    UInt8.reduceToNat]
  omega

/-- A digit other than zero starts a number. -/
theorem startToken_digit {b : UInt8} {offset : Nat} (h : isDigit b = true) (hne : b ≠ 0x30) :
    startToken b offset = (none, .number offset [b] .whole) := by
  have hspace := isSpace_digit h
  have ne : ∀ {c : UInt8}, isDigit c = false → (b == c) = false := by
    intro c hc
    rw [beq_eq_false_iff_ne]
    rintro rfl
    rw [h] at hc
    cases hc
  have hzero : (b == 0x30) = false := beq_eq_false_iff_ne.mpr hne
  simp only [startToken, hspace, ne (c := 0x5B) rfl, ne (c := 0x7B) rfl, ne (c := 0x5D) rfl,
    ne (c := 0x7D) rfl, ne (c := 0x2C) rfl, ne (c := 0x3A) rfl, ne (c := 0x22) rfl,
    ne (c := 0x2D) rfl, hzero, h, if_true, Bool.false_eq_true, if_false]

/-- The first byte of a number leads to a phase whose rest the other bytes are. -/
theorem startToken_number (offset : Nat) {text : Bytes} (h : NumberText text) :
    ∃ b more p, text = b :: more ∧ startToken b offset = (none, .number offset [b] p) ∧
      p.Rest more := by
  rcases h with h | ⟨rest, rfl, h⟩
  · cases text with
    | nil =>
        have hnil := (NumberPhase.sign.rest_nil).mp h
        cases hnil
    | cons b more =>
        rcases rest_sign_cons.mp h with ⟨rfl, hmore⟩ | ⟨hb, hne, hmore⟩
        · exact ⟨0x30, more, .zero, rfl, rfl, hmore⟩
        · exact ⟨b, more, .whole, rfl, startToken_digit hb hne, hmore⟩
  · exact ⟨0x2D, rest, .sign, rfl, rfl, h⟩

/-- A lexeme in front of a text becomes one token. -/
theorem tokensAt_lexeme {l : Lexeme} (hl : l.WellFormed) {rest : Bytes}
    (hrest : l.isScalar = true → Delimited rest) (offset : Nat) :
    ∃ t offset', t.lexeme? = some l ∧
      tokensAt offset .between (l.text ++ rest) = t :: tokensAt offset' .between rest := by
  cases l with
  | openList => exact ⟨.openList offset, offset + 1, rfl, tokensAt_mark rfl⟩
  | closeList => exact ⟨.closeList offset, offset + 1, rfl, tokensAt_mark rfl⟩
  | openObject => exact ⟨.openObject offset, offset + 1, rfl, tokensAt_mark rfl⟩
  | closeObject => exact ⟨.closeObject offset, offset + 1, rfl, tokensAt_mark rfl⟩
  | comma => exact ⟨.comma offset, offset + 1, rfl, tokensAt_mark rfl⟩
  | colon => exact ⟨.colon offset, offset + 1, rfl, tokensAt_mark rfl⟩
  | word w =>
      obtain ⟨offset', h⟩ := tokensAt_word offset w rest w.letters.tail (offset + 1)
      refine ⟨.scalar offset (.word w), offset', rfl, ?_⟩
      rw [← h]
      cases w with
      | null => exact tokensAt_start rfl
      | yes => exact tokensAt_start rfl
      | no => exact tokensAt_start rfl
  | number digits =>
      obtain ⟨b, more, p, rfl, hstart, hmore⟩ := startToken_number offset hl
      obtain ⟨offset', h⟩ := tokensAt_number offset (hrest rfl) more (offset + 1) [b] p hmore
      refine ⟨.scalar offset (.number (b :: more)), offset', rfl, ?_⟩
      rw [Lexeme.text, List.cons_append, tokensAt_start hstart, h]
      rfl
  | string raw =>
      obtain ⟨offset', stop, h⟩ := tokensAt_string offset rest raw (offset + 1) [] .plain hl
      refine ⟨.scalar offset (.string raw (.closed stop)), offset', rfl, ?_⟩
      have hstart : startToken 0x22 offset = (none, .string offset [] .plain) := rfl
      rw [Lexeme.text, List.cons_append, List.append_assoc, List.singleton_append,
        tokensAt_start hstart, h]
      rfl

/-- No two scalars stand side by side, also not after one in front when `after` says so. -/
def Apart (after : Bool) : List Lexeme → Prop
  | [] => True
  | l :: ls => (after = true → l.isScalar = false) ∧ Apart l.isScalar ls

theorem Apart.weaken {ls : List Lexeme} (h : Apart true ls) : Apart false ls := by
  cases ls with
  | nil => trivial
  | cons l ls => exact ⟨by simp, h.2⟩

theorem Apart.mark {after : Bool} {l : Lexeme} {ls : List Lexeme} (hl : l.isScalar = false)
    (h : Apart false ls) : Apart after (l :: ls) := ⟨fun _ => hl, by rwa [hl]⟩

/-- A blank or a mark ends a number and a word. -/
theorem delimited_of_spaced {ls : List Lexeme} {text : Bytes} (h : Spaced ls text)
    (hapart : Apart true ls) : Delimited text := by
  have blank : ∀ {b : UInt8}, isSpace b = true →
      isDigit b = false ∧ b ≠ 0x2E ∧ isExponentLetter b = false := by
    intro b hb
    simp only [isSpace, Bool.or_eq_true, beq_iff_eq] at hb
    rcases hb with ((rfl | rfl) | rfl) | rfl
    · decide
    · decide
    · decide
    · decide
  rintro b rest htext
  cases h with
  | done hblanks =>
      rw [htext] at hblanks
      exact blank (hblanks b (.head _))
  | @next blanks _ l _ hblanks _ _ =>
      cases blanks with
      | cons c blanks =>
          obtain ⟨rfl, -⟩ := List.cons.inj htext
          exact blank (hblanks c (.head _))
      | nil =>
          have hmark := hapart.1 rfl
          cases l with
          | openList => obtain ⟨rfl, -⟩ := List.cons.inj htext; decide
          | closeList => obtain ⟨rfl, -⟩ := List.cons.inj htext; decide
          | openObject => obtain ⟨rfl, -⟩ := List.cons.inj htext; decide
          | closeObject => obtain ⟨rfl, -⟩ := List.cons.inj htext; decide
          | comma => obtain ⟨rfl, -⟩ := List.cons.inj htext; decide
          | colon => obtain ⟨rfl, -⟩ := List.cons.inj htext; decide
          | word w => cases hmark
          | number digits => cases hmark
          | string raw => cases hmark

theorem tokensAt_of_spaced {ls : List Lexeme} {text : Bytes} (h : Spaced ls text) :
    ∀ {after : Bool} (offset : Nat), Apart after ls → ∃ front n,
      tokensAt offset .between text = front ++ [.finish n] ∧ Spells front ls := by
  induction h with
  | done hblanks =>
      intro after offset _
      obtain ⟨offset', h⟩ := tokensAt_blanks [] _ offset hblanks
      rw [List.append_nil] at h
      exact ⟨[], offset', h, .nil⟩
  | @next blanks rest l ls hblanks hl hrest ih =>
      intro after offset hapart
      have hdelimited : l.isScalar = true → Delimited rest := by
        intro hscalar
        have hls := hapart.2
        rw [hscalar] at hls
        exact delimited_of_spaced hrest hls
      obtain ⟨offset₁, h₁⟩ := tokensAt_blanks (l.text ++ rest) blanks offset hblanks
      obtain ⟨t, offset₂, ht, h₂⟩ := tokensAt_lexeme hl hdelimited offset₁
      obtain ⟨front, n, h₃, hs⟩ := ih offset₂ hapart.2
      exact ⟨t :: front, n, by rw [h₁, h₂, h₃, List.cons_append], .cons ht hs⟩

/-- A text that has lexemes no two of which are scalars side by side has these as its tokens. -/
theorem tokens_of_spaced {ls : List Lexeme} {text : Bytes} (h : Spaced ls text)
    (hapart : Apart false ls) :
    ∃ front n, tokens text = front ++ [.finish n] ∧ Spells front ls :=
  tokensAt_of_spaced h 0 hapart

end Webhook.Json
