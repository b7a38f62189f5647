import Mathlib
import Webhook.Http.MediaType

/-!
# The grammar of media types

A media type is read letter by letter.  Here it is described as a whole: `IsMediaType` says how it
is put together from tokens, quoted texts and blanks, and `IsParameters` how its parameters are.
`Phase.Rest` says what may be left at each phase of the reading.  Taking one letter off leads from
one phase to the next (`Phase.rest_cons`), so the reader accepts exactly this grammar
(`isWellFormed_iff`).

The type and the subtype are all that stands before the parameters (`essence_eq`), so a text is the
media type of JSON if it spells this type and subtype and goes on with parameters (`isJson_iff`).  A
media type is no list: it never goes on with a comma (`IsMediaType.not_list`), and has none before
its first quote (`not_isMediaType_comma`).  It has no control characters
(`IsMediaType.isQuotedChar`).
-/

namespace Webhook.Http.MediaType

/-! ## The grammar -/

/-- A word of a type, a subtype, a name or a value, which is not empty. -/
def IsToken (word : List Char) : Prop := word ≠ [] ∧ ∀ c ∈ word, isTokenChar c = true

instance (word : List Char) : Decidable (IsToken word) :=
  decidable_of_iff ((!word.isEmpty && word.all isTokenChar) = true) (by simp [IsToken])

/-- Nothing but spaces. -/
def IsBlanks (cs : List Char) : Prop := ∀ c ∈ cs, c = ' '

/-- What stands between the quotes of a value.  It is not empty, and a quote can only come first. -/
def IsQuotedText (cs : List Char) : Prop :=
  ∃ first rest, cs = first :: rest ∧ isQuotedChar first = true ∧
    ∀ c ∈ rest, isQuotedChar c = true ∧ c ≠ '"'

mutual

/-- The parameters of a media type, from the first semicolon on. -/
inductive IsParameters : List Char → Prop where
  /-- There are none. -/
  | none : IsParameters []
  /-- A semicolon ends the list. -/
  | ended {blanks : List Char} : IsBlanks blanks → IsParameters (';' :: blanks)
  /-- A parameter has a name and an equals sign. -/
  | named {blanks name rest : List Char} : IsBlanks blanks → IsToken name → IsAssigned rest →
      IsParameters (';' :: (blanks ++ (name ++ '=' :: rest)))

/-- The value of a parameter and the parameters after it. -/
inductive IsAssigned : List Char → Prop where
  /-- The last value may be missing. -/
  | missing : IsAssigned []
  /-- A value without quotes. -/
  | token {value more : List Char} : IsToken value → IsParameters more → IsAssigned (value ++ more)
  /-- A value in quotes, after which there may be spaces. -/
  | quoted {value blanks more : List Char} : IsQuotedText value → IsBlanks blanks →
      IsParameters more → IsAssigned ('"' :: (value ++ '"' :: (blanks ++ more)))

end

/-- What stands after the slash. -/
inductive IsSubtype : List Char → Prop where
  /-- The subtype may be missing, and there are no parameters then. -/
  | missing : IsSubtype []
  /-- A subtype and the parameters. -/
  | named {subtype parameters : List Char} : IsToken subtype → IsParameters parameters →
      IsSubtype (subtype ++ parameters)

/-- A media type. -/
inductive IsMediaType : List Char → Prop where
  /-- A type, a slash and what stands after it. -/
  | mk {type rest : List Char} : IsToken type → IsSubtype rest → IsMediaType (type ++ '/' :: rest)

/-! ## Runs of letters -/

/-- Letters of one kind, and then something else. -/
def Run (kind : Char → Prop) (after : List Char → Prop) (cs : List Char) : Prop :=
  ∃ word rest, cs = word ++ rest ∧ (∀ c ∈ word, kind c) ∧ after rest

variable {kind : Char → Prop} {after : List Char → Prop} {c : Char} {cs : List Char}

theorem run_nil : Run kind after [] ↔ after [] := by
  constructor
  · rintro ⟨word, rest, heq, -, hrest⟩
    obtain ⟨-, rfl⟩ := List.append_eq_nil_iff.mp heq.symm
    exact hrest
  · intro h
    exact ⟨[], [], rfl, fun c hc => absurd hc List.not_mem_nil, h⟩

/-- The first letter belongs to the run, or the run is over. -/
theorem run_cons : Run kind after (c :: cs) ↔ after (c :: cs) ∨ (kind c ∧ Run kind after cs) := by
  constructor
  · rintro ⟨word, rest, heq, hword, hrest⟩
    cases word with
    | nil =>
        rw [List.nil_append] at heq
        exact .inl (heq ▸ hrest)
    | cons d word =>
        injection heq with hd hcs
        obtain ⟨hfirst, hword⟩ := List.forall_mem_cons.mp hword
        exact .inr ⟨hd ▸ hfirst, word, rest, hcs, hword, hrest⟩
  · rintro (h | ⟨hc, word, rest, rfl, hword, hrest⟩)
    · exact ⟨[], c :: cs, rfl, fun c hc => absurd hc List.not_mem_nil, h⟩
    · exact ⟨c :: word, rest, rfl, List.forall_mem_cons.mpr ⟨hc, hword⟩, hrest⟩

/-- A token has a first letter. -/
theorem token_cons : (∃ word rest, c :: cs = word ++ rest ∧ IsToken word ∧ after rest) ↔
    isTokenChar c = true ∧ Run (isTokenChar · = true) after cs := by
  constructor
  · rintro ⟨word, rest, heq, ⟨hne, hword⟩, hrest⟩
    cases word with
    | nil => exact absurd rfl hne
    | cons d word =>
        injection heq with hd hcs
        obtain ⟨hfirst, hword⟩ := List.forall_mem_cons.mp hword
        exact ⟨hd ▸ hfirst, word, rest, hcs, hword, hrest⟩
  · rintro ⟨hc, word, rest, rfl, hword, hrest⟩
    exact ⟨c :: word, rest, rfl, ⟨List.cons_ne_nil _ _, List.forall_mem_cons.mpr ⟨hc, hword⟩⟩,
      hrest⟩

/-- A mark and what stands after it. -/
def Marked (mark : Char) (after : List Char → Prop) (cs : List Char) : Prop :=
  ∃ rest, cs = mark :: rest ∧ after rest

theorem marked_cons {mark : Char} : Marked mark after (c :: cs) ↔ c = mark ∧ after cs := by
  constructor
  · rintro ⟨rest, heq, hrest⟩
    injection heq with hc hcs
    exact ⟨hc, hcs ▸ hrest⟩
  · rintro ⟨rfl, h⟩
    exact ⟨cs, rfl, h⟩

theorem not_marked_nil {mark : Char} : ¬ Marked mark after [] := by
  rintro ⟨rest, heq, -⟩
  cases heq

/-! ## What may be left -/

/-- A letter of a quoted text after the first one. -/
def IsInner (c : Char) : Prop := isQuotedChar c = true ∧ c ≠ '"'

/-- What may be left at a phase. -/
def Phase.Rest : Phase → List Char → Prop
  | start => IsMediaType
  | type => Run (isTokenChar · = true) (Marked '/' IsSubtype)
  | slash => IsSubtype
  | subtype => Run (isTokenChar · = true) IsParameters
  | gap => fun cs => IsParameters (';' :: cs)
  | name => Run (isTokenChar · = true) (Marked '=' IsAssigned)
  | equals => IsAssigned
  | value => Run (isTokenChar · = true) IsParameters
  | opened => fun cs => IsAssigned ('"' :: cs)
  | quoted => Run IsInner (Marked '"' (Run (· = ' ') IsParameters))
  | closed => Run (· = ' ') IsParameters

theorem isMediaType_cons : IsMediaType (c :: cs) ↔ isTokenChar c = true ∧ Phase.type.Rest cs := by
  rw [Phase.Rest, ← token_cons]
  constructor
  · intro h
    generalize heq : c :: cs = text at h
    cases h with
    | mk htype hrest => exact ⟨_, _, rfl, htype, _, rfl, hrest⟩
  · rintro ⟨type, _, heq, htype, rest, rfl, hrest⟩
    exact heq ▸ .mk htype hrest

theorem isSubtype_cons : IsSubtype (c :: cs) ↔ isTokenChar c = true ∧ Phase.subtype.Rest cs := by
  rw [Phase.Rest, ← token_cons]
  constructor
  · intro h
    generalize heq : c :: cs = text at h
    cases h with
    | missing => cases heq
    | named hsubtype hparameters => exact ⟨_, _, rfl, hsubtype, hparameters⟩
  · rintro ⟨subtype, parameters, heq, hsubtype, hparameters⟩
    exact heq ▸ .named hsubtype hparameters

/-- Parameters start with a semicolon. -/
theorem isParameters_cons : IsParameters (c :: cs) ↔ c = ';' ∧ Phase.gap.Rest cs := by
  constructor
  · intro h
    have hc : c = ';' := by cases h <;> rfl
    subst hc
    exact ⟨rfl, h⟩
  · rintro ⟨rfl, h⟩
    exact h

/-- After a semicolon there are spaces, and then nothing or a name. -/
theorem rest_gap : Phase.gap.Rest cs ↔ Run (· = ' ') (fun rest => rest = [] ∨
    ∃ name more, rest = name ++ more ∧ IsToken name ∧ Marked '=' IsAssigned more) cs := by
  constructor
  · intro h
    cases h with
    | ended hblanks => exact ⟨cs, [], (List.append_nil _).symm, hblanks, .inl rfl⟩
    | named hblanks hname hassigned =>
        exact ⟨_, _, rfl, hblanks, .inr ⟨_, _, rfl, hname, _, rfl, hassigned⟩⟩
  · rintro ⟨blanks, rest, rfl, hblanks, hrest⟩
    rcases hrest with rfl | ⟨name, more, rfl, hname, rest, rfl, hassigned⟩
    · rw [List.append_nil]
      exact .ended hblanks
    · exact .named hblanks hname hassigned

theorem rest_gap_cons : Phase.gap.Rest (c :: cs) ↔
    (c = ' ' ∧ Phase.gap.Rest cs) ∨ (isTokenChar c = true ∧ Phase.name.Rest cs) := by
  rw [rest_gap, rest_gap, run_cons, or_comm, token_cons]
  have hne : ¬ c :: cs = [] := List.cons_ne_nil _ _
  rw [or_iff_right hne]
  rfl

/-- A value that starts with a quote is quoted: the quote is no letter of a token. -/
theorem rest_opened : Phase.opened.Rest cs ↔ ∃ first rest, cs = first :: rest ∧
    isQuotedChar first = true ∧ Phase.quoted.Rest rest := by
  constructor
  · intro h
    rw [Phase.Rest] at h
    generalize heq : '"' :: cs = text at h
    cases h with
    | missing => cases heq
    | token hvalue hmore =>
        have hquote := (token_cons.mp ⟨_, _, heq, hvalue, hmore⟩).1
        cases hquote
    | quoted hvalue hblanks hmore =>
        obtain ⟨first, inner, rfl, hfirst, hinner⟩ := hvalue
        injection heq with _ heq
        exact ⟨first, _, heq, hfirst, inner, _, rfl, hinner, _, rfl, _, _, rfl, hblanks, hmore⟩
  · rintro ⟨first, _, rfl, hfirst, inner, _, rfl, hinner, _, rfl, blanks, more, rfl, hblanks, hmore⟩
    exact .quoted ⟨first, inner, rfl, hfirst, hinner⟩ hblanks hmore

theorem rest_opened_cons :
    Phase.opened.Rest (c :: cs) ↔ isQuotedChar c = true ∧ Phase.quoted.Rest cs := by
  rw [rest_opened]
  constructor
  · rintro ⟨first, rest, heq, hfirst, hrest⟩
    injection heq with hc hcs
    exact ⟨hc ▸ hfirst, hcs ▸ hrest⟩
  · intro h
    exact ⟨c, cs, rfl, h⟩

theorem isAssigned_cons : IsAssigned (c :: cs) ↔
    (c = '"' ∧ Phase.opened.Rest cs) ∨ (isTokenChar c = true ∧ Phase.value.Rest cs) := by
  constructor
  · intro h
    by_cases hc : c = '"'
    · subst hc
      exact .inl ⟨rfl, h⟩
    · refine .inr ?_
      rw [Phase.Rest, ← token_cons]
      generalize heq : c :: cs = text at h
      cases h with
      | missing => cases heq
      | token hvalue hmore => exact ⟨_, _, rfl, hvalue, hmore⟩
      | quoted hvalue hblanks hmore =>
          injection heq with heq _
          exact absurd heq hc
  · rintro (⟨rfl, h⟩ | h)
    · exact h
    · rw [Phase.Rest, ← token_cons] at h
      obtain ⟨value, more, heq, hvalue, hmore⟩ := h
      exact heq ▸ .token hvalue hmore

/-! ## Reading -/

theorem exists_only {P : Prop} [Decidable P] {p : Phase} :
    (∃ next, (if P then some p else none) = some next ∧ next.Rest cs) ↔ P ∧ p.Rest cs := by
  by_cases h : P
  · simp [h]
  · simp [h]

/-- Of two letters that differ, one at most leads on. -/
theorem exists_either {P Q : Prop} [Decidable P] [Decidable Q] {p q : Phase} (h : Q → ¬ P) :
    (∃ next, (if P then some p else if Q then some q else none) = some next ∧ next.Rest cs) ↔
      (P ∧ p.Rest cs) ∨ (Q ∧ q.Rest cs) := by
  by_cases hP : P
  · have hQ : ¬ Q := fun hQ => h hQ hP
    simp [hP, hQ]
  · rw [if_neg hP, exists_only]
    simp [hP]

theorem ne_of_isTokenChar {mark : Char} (hmark : isTokenChar mark = false)
    (h : isTokenChar c = true) : c ≠ mark := by
  rintro rfl
  exact Bool.false_ne_true (hmark.symm.trans h)

theorem exists_token {mark : Char} {inside next : Phase} (hmark : isTokenChar mark = false) :
    (∃ p, Phase.token inside mark next c = some p ∧ p.Rest cs) ↔
      (c = mark ∧ next.Rest cs) ∨ (isTokenChar c = true ∧ inside.Rest cs) :=
  exists_either (ne_of_isTokenChar hmark)

/-- A phase within a run of token letters, which ends at a mark. -/
theorem rest_run_cons {mark : Char} {inside next : Phase} (hmark : isTokenChar mark = false)
    (hinside : inside.Rest = Run (isTokenChar · = true) after)
    (hafter : after (c :: cs) ↔ c = mark ∧ next.Rest cs) :
    inside.Rest (c :: cs) ↔ ∃ p, Phase.token inside mark next c = some p ∧ p.Rest cs := by
  rw [exists_token hmark, hinside, run_cons, hafter]

/-- What is left after a letter is what may be left at the next phase. -/
theorem Phase.rest_cons {p : Phase} :
    p.Rest (c :: cs) ↔ ∃ next, p.step c = some next ∧ next.Rest cs := by
  cases p with
  | start => exact isMediaType_cons.trans exists_only.symm
  | slash => exact isSubtype_cons.trans exists_only.symm
  | opened => exact rest_opened_cons.trans exists_only.symm
  | type => exact rest_run_cons (by decide) rfl marked_cons
  | name => exact rest_run_cons (by decide) rfl marked_cons
  | subtype => exact rest_run_cons (by decide) rfl isParameters_cons
  | value => exact rest_run_cons (by decide) rfl isParameters_cons
  | gap =>
      have hspace : isTokenChar ' ' = false := by decide
      exact rest_gap_cons.trans (exists_token hspace).symm
  | equals =>
      have hquote : isTokenChar '"' = false := by decide
      exact isAssigned_cons.trans (exists_token hquote).symm
  | quoted =>
      have hrest : quoted.Rest (c :: cs) ↔
          (c = '"' ∧ closed.Rest cs) ∨ (IsInner c ∧ quoted.Rest cs) :=
        run_cons.trans (or_congr marked_cons Iff.rfl)
      rw [hrest]
      by_cases hc : c = '"'
      · simp [step, hc, IsInner]
      · have hinner : IsInner c ↔ isQuotedChar c = true := and_iff_left hc
        rw [step, if_neg hc, exists_only, hinner]
        simp [hc]
  | closed =>
      have hrest : closed.Rest (c :: cs) ↔
          (c = ';' ∧ gap.Rest cs) ∨ (c = ' ' ∧ closed.Rest cs) :=
        run_cons.trans (or_congr isParameters_cons Iff.rfl)
      refine hrest.trans (exists_either ?_).symm
      rintro rfl
      decide

/-- Nothing may be left where a media type may end. -/
theorem Phase.rest_nil {p : Phase} : p.Rest [] ↔ p.mayEnd = true := by
  cases p with
  | start =>
      refine ⟨fun h => ?_, fun h => nomatch h⟩
      generalize heq : [] = text at h
      cases h with
      | mk htype hrest => exact absurd heq (by simp)
  | opened =>
      refine ⟨fun h => ?_, fun h => nomatch h⟩
      obtain ⟨first, rest, heq, -⟩ := rest_opened.mp h
      cases heq
  | type | name | quoted =>
      rw [Rest, run_nil]
      exact ⟨fun h => absurd h not_marked_nil, fun h => nomatch h⟩
  | slash => exact ⟨fun _ => rfl, fun _ => .missing⟩
  | equals => exact ⟨fun _ => rfl, fun _ => .missing⟩
  | gap => exact ⟨fun _ => rfl, fun _ => .ended fun c hc => absurd hc List.not_mem_nil⟩
  | subtype | value | closed =>
      rw [Rest, run_nil]
      exact ⟨fun _ => rfl, fun _ => .none⟩

theorem Phase.reads_cons {p : Phase} :
    p.reads (c :: cs) = true ↔ ∃ next, p.step c = some next ∧ next.reads cs = true := by
  rw [reads]
  cases p.step c <;> simp

theorem Phase.reads_iff {p : Phase} : p.reads cs = true ↔ p.Rest cs := by
  induction cs generalizing p with
  | nil => exact rest_nil.symm
  | cons c cs ih =>
      rw [reads_cons, rest_cons]
      simp only [ih]

/-- The reader accepts the media types. -/
theorem isWellFormed_iff {text : List Char} : isWellFormed text = true ↔ IsMediaType text :=
  Phase.reads_iff

/-! ## The essence -/

/-- The essence of a text is what stands before the parameters. -/
theorem essence_append {lead parameters : List Char} (hlead : ∀ c ∈ lead, c ≠ ';')
    (hparameters : IsParameters parameters) : essence (lead ++ parameters) = lead := by
  have hkept : ∀ c ∈ lead, (c != ';') = true := fun c hc => bne_iff_ne.mpr (hlead c hc)
  have hdropped : parameters.takeWhile (· != ';') = [] := by
    cases hparameters with
    | none => rfl
    | ended hblanks => rfl
    | named hblanks hname hassigned => rfl
  rw [essence, List.takeWhile_append_of_pos hkept, hdropped, List.append_nil]

/-- The essence of a media type is its type and its subtype. -/
theorem essence_eq {type subtype parameters : List Char} (htype : IsToken type)
    (hsubtype : ∀ c ∈ subtype, isTokenChar c = true) (hparameters : IsParameters parameters) :
    essence (type ++ '/' :: (subtype ++ parameters)) = type ++ '/' :: subtype := by
  have hlead : ∀ c ∈ type ++ '/' :: subtype, c ≠ ';' := by
    intro c hc
    rcases List.mem_append.mp hc with hc | hc
    · exact ne_of_isTokenChar (by decide) (htype.2 c hc)
    · rcases List.mem_cons.mp hc with rfl | hc
      · decide
      · exact ne_of_isTokenChar (by decide) (hsubtype c hc)
  rw [← List.cons_append, ← List.append_assoc, essence_append hlead hparameters]

/-! ## The media type of JSON -/

/-- A text that spells the type and the subtype of JSON, in letters of any case, and goes on with
parameters. -/
inductive IsJsonText : List Char → Prop where
  /-- A type, a slash, a subtype and parameters. -/
  | mk {type subtype parameters : List Char} :
      type.map Char.toLower = "application".toList → subtype.map Char.toLower = "json".toList →
      IsParameters parameters → IsJsonText (type ++ '/' :: (subtype ++ parameters))

theorem isTokenChar_toLower (c : Char) : isTokenChar c.toLower = isTokenChar c := by
  by_cases hupper : c.isUpper = true
  · have halpha : c.isAlpha = true := by rw [Char.isAlpha, hupper, Bool.true_or]
    have hlower : c.toLower.isAlpha = true := by rw [Char.isAlpha_toLower_eq_isAlpha, halpha]
    simp [isTokenChar, Char.isAlphanum, halpha, hlower]
  · rw [Char.toLower_eq_of_not_isUpper hupper]

/-- The case of its letters does not matter for a token. -/
theorem isToken_map_toLower {word : List Char} : IsToken (word.map Char.toLower) ↔ IsToken word := by
  rw [IsToken, IsToken, List.forall_mem_map, Ne, List.map_eq_nil_iff]
  simp only [isTokenChar_toLower]

theorem isToken_application {type : List Char} (h : type.map Char.toLower = "application".toList) :
    IsToken type := by
  rw [← isToken_map_toLower, h]
  decide

theorem isToken_json {subtype : List Char} (h : subtype.map Char.toLower = "json".toList) :
    IsToken subtype := by
  rw [← isToken_map_toLower, h]
  decide

theorem IsJsonText.isMediaType {text : List Char} (h : IsJsonText text) : IsMediaType text := by
  obtain ⟨htype, hsubtype, hparameters⟩ := h
  exact .mk (isToken_application htype) (.named (isToken_json hsubtype) hparameters)

/-- A type and a subtype that are spelled as one text are spelled one by one. -/
theorem map_toLower_essence {type subtype : List Char} :
    (type ++ '/' :: subtype).map Char.toLower = "application/json".toList ↔
      type.map Char.toLower = "application".toList ∧
        subtype.map Char.toLower = "json".toList := by
  have hsplit : "application/json".toList = "application".toList ++ '/' :: "json".toList := by
    decide
  have hslash : Char.toLower '/' = '/' := by decide
  have hfirst : '/' ∉ "application".toList := by decide
  have hlast : '/' ∉ "json".toList := by decide
  rw [List.map_append, List.map_cons, hslash, hsplit]
  constructor
  · intro h
    obtain ⟨htype, -, hsubtype⟩ := (List.append_cons_inj_of_notMem hfirst hlast).mp h.symm
    exact ⟨htype.symm, hsubtype.symm⟩
  · rintro ⟨htype, hsubtype⟩
    rw [htype, hsubtype]

/-- A text is the media type of JSON if it is well-formed and has this essence. -/
theorem isJson_iff {text : String} : isJson text = true ↔ IsJsonText text.toList := by
  have hunfold : isJson text = true ↔ IsMediaType text.toList ∧
      (essence text.toList).map Char.toLower = "application/json".toList := by
    rw [isJson, hasEssence, Bool.and_eq_true, isWellFormed_iff, beq_iff_eq]
    rfl
  rw [hunfold]
  generalize text.toList = cs
  constructor
  · rintro ⟨htext, hessence⟩
    obtain ⟨htype, hrest⟩ := htext
    cases hrest with
    | missing =>
        -- without a subtype the essence ends in the slash
        have hnone := essence_eq htype (fun c hc => absurd hc List.not_mem_nil) .none
        rw [List.append_nil] at hnone
        rw [hnone, map_toLower_essence] at hessence
        cases hessence.2
    | named hsubtype hparameters =>
        rw [essence_eq htype hsubtype.2 hparameters, map_toLower_essence] at hessence
        exact .mk hessence.1 hessence.2 hparameters
  · intro h
    refine ⟨h.isMediaType, ?_⟩
    obtain ⟨htype, hsubtype, hparameters⟩ := h
    have htoken := isToken_application htype
    rw [essence_eq htoken (isToken_json hsubtype).2 hparameters, map_toLower_essence]
    exact ⟨htype, hsubtype⟩

/-! ## Lists of media types -/

/-- What is read to its end stops at a phase where a media type may end. -/
theorem Phase.exists_phase {p : Phase} (h : p.reads cs = true) :
    ∃ q : Phase, q.mayEnd = true ∧ ∀ more, p.reads (cs ++ more) = q.reads more := by
  induction cs generalizing p with
  | nil => exact ⟨p, h, fun more => rfl⟩
  | cons c cs ih =>
      obtain ⟨next, hstep, hnext⟩ := reads_cons.mp h
      obtain ⟨q, hend, hmore⟩ := ih hnext
      refine ⟨q, hend, fun more => ?_⟩
      rw [← hmore, List.cons_append, reads, hstep]

/-- At such a phase a space is skipped or refused. -/
theorem Phase.step_space {p : Phase} (h : p.mayEnd = true) :
    p.step ' ' = none ∨ p.step ' ' = some p := by
  cases p with
  | start | type | name | opened | quoted => cases h
  | slash | subtype | equals | value => exact .inl (by decide)
  | gap | closed => exact .inr (by decide)

/-- Whether a phase is outside of quotes. -/
def Phase.isOutside : Phase → Bool
  | opened | quoted => false
  | start | type | slash | subtype | gap | name | equals | value | closed => true

theorem Phase.isOutside_of_mayEnd {p : Phase} (h : p.mayEnd = true) : p.isOutside = true := by
  cases p with
  | opened | quoted => cases h
  | start | type | slash | subtype | gap | name | equals | value | closed => rfl

/-- Outside of quotes a comma is refused. -/
theorem Phase.step_comma {p : Phase} (h : p.isOutside = true) : p.step ',' = none := by
  cases p with
  | opened | quoted => cases h
  | start | type | slash | subtype | gap | name | equals | value | closed => decide

theorem Phase.token_inv {inside next after : Phase} {mark : Char}
    (h : token inside mark after c = some next) : (c = mark ∧ next = after) ∨ next = inside := by
  rw [token] at h
  split at h
  next hc => exact .inl ⟨hc, (Option.some.inj h).symm⟩
  next =>
    obtain ⟨-, hinside⟩ := Option.ite_none_right_eq_some.mp h
    exact .inr (Option.some.inj hinside).symm

/-- Only a quote leads into quotes. -/
theorem Phase.isOutside_of_step {p next : Phase} (h : p.isOutside = true) (hc : c ≠ '"')
    (hstep : p.step c = some next) : next.isOutside = true := by
  cases p with
  | opened | quoted => cases h
  | start | slash =>
      obtain ⟨-, hnext⟩ := Option.ite_none_right_eq_some.mp hstep
      cases hnext
      rfl
  | type | subtype | name | value | gap =>
      rcases token_inv hstep with ⟨-, rfl⟩ | rfl
      · rfl
      · rfl
  | equals =>
      rcases token_inv hstep with ⟨hquote, -⟩ | rfl
      · exact absurd hquote hc
      · rfl
  | closed =>
      rw [step] at hstep
      split at hstep
      next =>
        cases hstep
        rfl
      next =>
        obtain ⟨-, hnext⟩ := Option.ite_none_right_eq_some.mp hstep
        cases hnext
        rfl

theorem Phase.not_reads_comma {p : Phase} (h : p.mayEnd = true) {blanks : List Char}
    (hblanks : IsBlanks blanks) (rest : List Char) :
    p.reads (blanks ++ ',' :: rest) = false := by
  induction blanks with
  | nil => rw [List.nil_append, reads, step_comma (isOutside_of_mayEnd h)]
  | cons c blanks ih =>
      obtain ⟨rfl, hmore⟩ := List.forall_mem_cons.mp hblanks
      rw [List.cons_append, reads]
      rcases step_space h with hstep | hstep
      · rw [hstep]
      · rw [hstep]
        exact ih hmore

theorem Phase.not_reads_unquoted {p : Phase} (h : p.isOutside = true) {lead : List Char}
    (hlead : ∀ c ∈ lead, c ≠ '"') (rest : List Char) : p.reads (lead ++ ',' :: rest) = false := by
  induction lead generalizing p with
  | nil => rw [List.nil_append, reads, step_comma h]
  | cons c lead ih =>
      obtain ⟨hc, hlead⟩ := List.forall_mem_cons.mp hlead
      rw [List.cons_append, reads]
      cases hstep : p.step c with
      | none => rfl
      | some next => exact ih (isOutside_of_step h hc hstep) hlead

/-- A media type does not go on with a comma. -/
theorem IsMediaType.not_list {item blanks : List Char} (h : IsMediaType item)
    (hblanks : IsBlanks blanks) (rest : List Char) :
    ¬ IsMediaType (item ++ (blanks ++ ',' :: rest)) := by
  obtain ⟨p, hend, hmore⟩ := Phase.exists_phase (isWellFormed_iff.mpr h)
  rw [← isWellFormed_iff, isWellFormed, hmore, Phase.not_reads_comma hend hblanks]
  exact Bool.false_ne_true

/-- A media type has no comma before the first quote. -/
theorem not_isMediaType_comma {lead : List Char} (hlead : ∀ c ∈ lead, c ≠ '"')
    (rest : List Char) : ¬ IsMediaType (lead ++ ',' :: rest) := by
  rw [← isWellFormed_iff, isWellFormed, Phase.not_reads_unquoted rfl hlead]
  exact Bool.false_ne_true

/-! ## Letters of media types -/

theorem isQuotedChar_of_isAlphanum (h : c.isAlphanum = true) : isQuotedChar c = true := by
  have hrange : 48 ≤ c.val.toNat ∧ c.val.toNat ≤ 122 := by
    simp only [Char.isAlphanum, Char.isAlpha, Char.isUpper, Char.isLower, Char.isDigit,
      Bool.or_eq_true, Bool.and_eq_true, decide_eq_true_eq, UInt32.le_iff_toNat_le, ge_iff_le,
      Char.reduceVal, UInt32.reduceToNat] at h
    omega
  rw [isQuotedChar, Bool.and_eq_true, bne_iff_ne]
  constructor
  · rw [decide_eq_true_eq, Char.le_def, UInt32.le_iff_toNat_le]
    exact le_trans (by decide) hrange.1
  · rintro rfl
    exact absurd hrange.2 (by decide)

theorem isQuotedChar_of_isTokenChar (h : isTokenChar c = true) : isQuotedChar c = true := by
  have hmarks : tokenMarks.all isQuotedChar = true := by decide
  rw [isTokenChar, Bool.or_eq_true] at h
  rcases h with halphanum | hmark
  · exact isQuotedChar_of_isAlphanum halphanum
  · exact List.all_eq_true.mp hmarks c (List.contains_iff_mem.mp hmark)

/-- No phase reads a control character. -/
theorem Phase.step_control {p : Phase} (h : isQuotedChar c = false) : p.step c = none := by
  have hne : ∀ mark, isQuotedChar mark = true → c ≠ mark := by
    rintro mark hmark rfl
    exact Bool.false_ne_true (h.symm.trans hmark)
  have htoken : isTokenChar c = false := by
    rw [← Bool.not_eq_true]
    intro htoken
    exact Bool.false_ne_true (h.symm.trans (isQuotedChar_of_isTokenChar htoken))
  cases p with
  | start | slash | opened => simp [step, htoken, h]
  | type => simp [step, token, htoken, hne '/' (by decide)]
  | subtype | value => simp [step, token, htoken, hne ';' (by decide)]
  | gap => simp [step, htoken, hne ' ' (by decide)]
  | name => simp [step, token, htoken, hne '=' (by decide)]
  | equals => simp [step, token, htoken, hne '"' (by decide)]
  | quoted => simp [step, h, hne '"' (by decide)]
  | closed => simp [step, hne ';' (by decide), hne ' ' (by decide)]

theorem Phase.isQuotedChar_of_reads {p : Phase} (h : p.reads cs = true) :
    ∀ c ∈ cs, isQuotedChar c = true := by
  induction cs generalizing p with
  | nil => exact fun c hc => absurd hc List.not_mem_nil
  | cons c cs ih =>
      obtain ⟨next, hstep, hnext⟩ := reads_cons.mp h
      refine List.forall_mem_cons.mpr ⟨?_, ih hnext⟩
      rw [← Bool.not_eq_false]
      intro hcontrol
      rw [step_control hcontrol] at hstep
      cases hstep

/-- A media type has no control characters. -/
theorem IsMediaType.isQuotedChar {text : List Char} (h : IsMediaType text) :
    ∀ c ∈ text, isQuotedChar c = true :=
  Phase.isQuotedChar_of_reads (isWellFormed_iff.mpr h)

end Webhook.Http.MediaType
