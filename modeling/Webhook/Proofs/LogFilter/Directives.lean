import Webhook.LogFilter
import Webhook.Proofs.Pattern.Wrapping
import Webhook.Proofs.Text.Cutting

/-!
# How directives are written

A directive names a target, or a span in brackets, or both, and may set a level after an equals
sign.  In the brackets a field can follow the name of the span, in braces.  `IsDirective` is this
grammar, and the check accepts exactly the texts of it (`checkDirective_eq_ok`).

A text is read without the blanks around it, but its parts are looked up in the text with the
blanks, at the places which they have without them.  So the grammar counts the places, and asks for
parts that neither start nor end inside of a character.

What stands before a mark is passed in one go (`readFrom_stays`).  For each place of the reader
there is a lemma that says what may follow there (`readFrom_target`, `readFrom_field`,
`readFrom_span`, `readFrom_first`).
-/

namespace Webhook.LogFilter

open Text (byteLength)

/-! ## The grammar -/

/-- A level, which may be left out. -/
def IsLevelText (level : List Char) : Prop := level = [] ∨ isLevel level = true

/-- What the value of a field is compared with. -/
inductive IsValue (value : List Char) : Prop where
  /-- A number. -/
  | numeral (h : isNumeral value = true)
  /-- A pattern that does not ask for the edge of a word of any script. -/
  | pattern {r : Pattern.Regex} (hpattern : Pattern.Denotes (String.ofList value) r)
    (hedge : asksForWordEdge r = false)

/-- A field of a span. -/
inductive IsField : List Char → Prop where
  /-- Its name. -/
  | bare {name : List Char} (hne : name ≠ []) (hname : '=' ∉ name) : IsField name
  /-- Its name and a value, which ends before the next equals sign. -/
  | compared {name after : List Char} (hname : '=' ∉ name)
    (hvalue : IsValue (after.takeWhile (· != '='))) : IsField (name ++ '=' :: after)

/-- The part of a text from one place up to another. -/
def IsPart (text : List Char) (start stop : Nat) (part : List Char) : Prop :=
  ∃ before after, text = before ++ part ++ after ∧
    byteLength before = start ∧ byteLength (before ++ part) = stop

/-- There is a part from one place up to another, so neither is inside of a character. -/
def HasPart (text : List Char) (start stop : Nat) : Prop := ∃ part, IsPart text start stop part

/-- A level from a place on. -/
def HasLevel (text : List Char) (i : Nat) : Prop :=
  ∃ before level, text = before ++ level ∧ byteLength before = i ∧ IsLevelText level

/-- What can follow a span, from a place on. -/
inductive IsEnding (text : List Char) (i : Nat) : List Char → Prop where
  /-- Nothing. -/
  | nothing : IsEnding text i []
  /-- An equals sign and a level. -/
  | level {rest : List Char} (h : HasLevel text (i + 1)) : IsEnding text i ('=' :: rest)

/-- A character that can stand in the name of a span. -/
def isSpanChar (c : Char) : Bool := c != ']' && c != '\x7b'

/-- What can follow an opening bracket, from a place on. -/
inductive IsSpan (text : List Char) (i : Nat) : List Char → Prop where
  /-- The name of a span, which may be left out. -/
  | plain {name rest : List Char} (hname : ∀ c ∈ name, isSpanChar c = true)
    (hpart : HasPart text i (i + byteLength name))
    (hrest : IsEnding text (i + byteLength name + 1) rest) : IsSpan text i (name ++ ']' :: rest)
  /-- The name of a span and a field in braces. -/
  | withField {name inside rest field : List Char} (hname : ∀ c ∈ name, isSpanChar c = true)
    (hpart : HasPart text i (i + byteLength name)) (hfree : '\x7d' ∉ inside)
    (hbetween : IsPart text (i + byteLength name + 1)
      (i + byteLength name + 1 + byteLength inside) field) (hfield : IsField field)
    (hrest : IsEnding text (i + byteLength name + 1 + byteLength inside + 2) rest) :
    IsSpan text i (name ++ '\x7b' :: (inside ++ '\x7d' :: ']' :: rest))

/-- A character that can stand in a target after the first one. -/
def isTargetChar (c : Char) : Bool := c != '=' && c != '['

/-- A target.  The words for levels are among them. -/
inductive IsTarget : List Char → Prop where
  | word {c : Char} {rest : List Char} (hbracket : c ≠ '[') (hc : canStart c = true)
    (hrest : ∀ d ∈ rest, isTargetChar d = true) : IsTarget (c :: rest)

/-- What can follow a target, up to whose end a place counts. -/
inductive FollowsTarget (text : List Char) (i : Nat) : List Char → Prop where
  /-- Nothing. -/
  | nothing : FollowsTarget text i []
  /-- An equals sign and a level. -/
  | level {rest : List Char} (hpart : HasPart text 0 i) (h : HasLevel text (i + 1)) :
    FollowsTarget text i ('=' :: rest)
  /-- A span. -/
  | span {rest : List Char} (hpart : HasPart text 0 i) (h : IsSpan text (i + 1) rest) :
    FollowsTarget text i ('[' :: rest)

/-- A directive without blanks around it. -/
inductive IsTrimmedDirective (text : List Char) : List Char → Prop where
  /-- A target, and what can follow it. -/
  | target {target rest : List Char} (htarget : IsTarget target)
    (hrest : FollowsTarget text (byteLength target) rest) : IsTrimmedDirective text (target ++ rest)
  /-- A span. -/
  | span {rest : List Char} (h : IsSpan text 1 rest) : IsTrimmedDirective text ('[' :: rest)

/-- A directive. -/
def IsDirective (text : List Char) : Prop := IsTrimmedDirective text (Text.trimChars text)

/-! ## Levels and fields -/

theorem checkLevel_eq_ok {level : List Char} : checkLevel level = .ok () ↔ IsLevelText level := by
  rw [checkLevel, IsLevelText, ← List.isEmpty_iff, ← Bool.or_eq_true]
  split
  next h => exact iff_of_true rfl h
  next h => exact iff_of_false nofun h

theorem denotes_iff {s : String} {r : Pattern.Regex} :
    Pattern.Denotes s r ↔ (Pattern.parse s).bind Pattern.Node.toRegex = .ok r := by
  rw [Pattern.Denotes]
  cases Pattern.parse s with
  | error f => exact iff_of_false (fun ⟨_, h, _⟩ => nomatch h) nofun
  | ok m =>
      constructor
      · rintro ⟨_, ⟨⟩, h⟩
        exact h
      · intro h
        exact ⟨m, rfl, h⟩

theorem checkValue_eq_ok {value : List Char} : checkValue value = .ok () ↔ IsValue value := by
  rw [checkValue]
  by_cases hnumeral : isNumeral value = true
  · rw [if_pos hnumeral]
    exact iff_of_true rfl (.numeral hnumeral)
  · rw [if_neg hnumeral]
    cases hpattern : (Pattern.parse (String.ofList value)).bind Pattern.Node.toRegex with
    | error f =>
        refine iff_of_false nofun ?_
        rintro (h | ⟨hdenotes, -⟩)
        · exact hnumeral h
        · cases hpattern.symm.trans (denotes_iff.mp hdenotes)
    | ok r =>
        dsimp only
        split
        next hedge =>
          refine iff_of_false nofun ?_
          rintro (h | ⟨hdenotes, hnone⟩)
          · exact hnumeral h
          · obtain rfl := Except.ok.inj (hpattern.symm.trans (denotes_iff.mp hdenotes))
            exact Bool.false_ne_true (hnone.symm.trans hedge)
        next hedge =>
          rw [Bool.not_eq_true] at hedge
          exact iff_of_true rfl (.pattern (denotes_iff.mpr hpattern) hedge)

theorem valueOf?_of_not_mem {name : List Char} (h : '=' ∉ name) : valueOf? name = none := by
  rw [valueOf?, Text.dropWhile_no_mark h]

theorem valueOf?_append {name : List Char} (h : '=' ∉ name) (after : List Char) :
    valueOf? (name ++ '=' :: after) = some (after.takeWhile (· != '=')) := by
  rw [valueOf?, Text.dropWhile_to_mark h]

theorem isField_iff {field : List Char} :
    IsField field ↔ field ≠ [] ∧ ∀ value ∈ valueOf? field, IsValue value := by
  constructor
  · intro h
    cases h with
    | bare hne hname =>
        rw [valueOf?_of_not_mem hname]
        exact ⟨hne, nofun⟩
    | compared hname hvalue =>
        rw [valueOf?_append hname]
        refine ⟨List.append_ne_nil_of_right_ne_nil _ (List.cons_ne_nil _ _), ?_⟩
        rintro _ ⟨⟩
        exact hvalue
  · rintro ⟨hne, hvalue⟩
    by_cases hmem : '=' ∈ field
    · obtain ⟨name, after, rfl, hname⟩ := List.eq_append_cons_of_mem hmem
      rw [valueOf?_append hname] at hvalue
      exact .compared hname (hvalue _ rfl)
    · exact .bare hne hmem

theorem checkField_eq_ok {field : List Char} : checkField field = .ok () ↔ IsField field := by
  rw [isField_iff, checkField]
  cases field with
  | nil => exact iff_of_false nofun fun h => h.1 rfl
  | cons c rest =>
      rw [if_neg (by simp)]
      cases valueOf? (c :: rest) with
      | none => exact iff_of_true rfl ⟨List.cons_ne_nil c rest, nofun⟩
      | some value =>
          show checkValue value = _ ↔ _
          rw [checkValue_eq_ok]
          constructor
          · intro h
            refine ⟨List.cons_ne_nil c rest, ?_⟩
            rintro _ ⟨⟩
            exact h
          · rintro ⟨-, h⟩
            exact h value rfl

/-! ## Parts -/

variable {text : List Char}

theorem mapError_eq_ok {x : Except Fault Unit} : x.mapError Stop.refused = .ok () ↔ x = .ok () := by
  cases x with
  | error fault => exact iff_of_false nofun nofun
  | ok u => exact iff_of_true rfl rfl

theorem part_eq_ok {start stop : Nat} {part : List Char} :
    LogFilter.part text start stop = .ok part ↔ IsPart text start stop part := by
  rw [IsPart, ← Text.slice?_eq_some, LogFilter.part]
  cases Text.slice? text start stop <;> simp

theorem partFrom_eq_ok {start : Nat} {part : List Char} : partFrom text start = .ok part ↔
    ∃ before, text = before ++ part ∧ byteLength before = start := by
  rw [← Text.from?_eq_some, partFrom]
  cases Text.from? text start <;> simp

/-- A text without a part breaks the reading off there. -/
theorem takePart_bind_eq_ok {start stop : Nat} {next : Place} {f : Place → Except Stop Unit} :
    (takePart text start stop next).bind f = .ok () ↔
      HasPart text start stop ∧ f next = .ok () := by
  rw [takePart, HasPart]
  cases hpart : LogFilter.part text start stop with
  | error e =>
      refine iff_of_false nofun ?_
      rintro ⟨⟨part, hbetween⟩, -⟩
      cases hpart.symm.trans (part_eq_ok.mpr hbetween)
  | ok part =>
      show f next = .ok () ↔ _
      rw [iff_and_self]
      exact fun _ => ⟨part, part_eq_ok.mp hpart⟩

/-! ## Reading -/

/-- Characters that do not change the place of the reader are passed in one go. -/
theorem readFrom_stays {p : Place} {stay : List Char}
    (h : ∀ c ∈ stay, ∀ i, step text i c p = .ok p) (i : Nat) (rest : List Char) :
    readFrom text i p (stay ++ rest) = readFrom text (i + byteLength stay) p rest := by
  induction stay generalizing i with
  | nil => rfl
  | cons c stay ih =>
      obtain ⟨hc, hstay⟩ := List.forall_mem_cons.mp h
      rw [List.cons_append, readFrom, hc, Text.byteLength_cons, ← Nat.add_assoc]
      exact ih hstay (i + c.utf8Size)

/-- A text is a stretch of characters of a kind, and then ends or goes on with another one. -/
theorem exists_stretch (kind : Char → Bool) (cs : List Char) :
    ∃ stay rest, cs = stay ++ rest ∧ (∀ c ∈ stay, kind c = true) ∧
      (rest = [] ∨ ∃ c rest', rest = c :: rest' ∧ kind c = false) := by
  refine ⟨_, _, List.takeWhile_append_dropWhile.symm, fun c => List.mem_takeWhile_imp, ?_⟩
  have hfirst := List.head?_dropWhile_not kind cs
  cases hrest : cs.dropWhile kind with
  | nil => exact .inl rfl
  | cons c rest' =>
      rw [hrest] at hfirst
      exact .inr ⟨c, rest', rfl, hfirst⟩

theorem readFrom_level {start i : Nat} {cs : List Char} :
    readFrom text i (.level start) cs = .ok () ↔ HasLevel text start := by
  rw [← List.append_nil cs, readFrom_stays fun _ _ _ => rfl]
  show ((partFrom text start).bind fun level => (checkLevel level).mapError Stop.refused) = .ok () ↔ _
  constructor
  · intro h
    obtain ⟨level, hlevel, h⟩ := Json.bind_eq_ok h
    obtain ⟨before, htext, hbefore⟩ := partFrom_eq_ok.mp hlevel
    exact ⟨before, level, htext, hbefore, checkLevel_eq_ok.mp (mapError_eq_ok.mp h)⟩
  · rintro ⟨before, level, htext, hbefore, h⟩
    rw [partFrom_eq_ok.mpr ⟨before, htext, hbefore⟩]
    exact mapError_eq_ok.mpr (checkLevel_eq_ok.mpr h)

theorem readFrom_target {i : Nat} {cs : List Char} :
    readFrom text i .target cs = .ok () ↔ IsEnding text i cs := by
  cases cs with
  | nil => exact iff_of_true rfl .nothing
  | cons c rest =>
      by_cases hc : c = '='
      · subst hc
        show readFrom text (i + 1) (.level (i + 1)) rest = _ ↔ _
        rw [readFrom_level]
        constructor
        · exact .level
        · rintro ⟨⟩
          assumption
      · have hstep : step text i c .target = .error (.refused .directive) :=
          if_neg (by simpa using hc)
        rw [readFrom, hstep]
        refine iff_of_false nofun ?_
        rintro ⟨⟩
        exact hc rfl

/-- After a field the brackets have to close. -/
theorem readFrom_fields {i : Nat} {cs : List Char} : readFrom text i .fields cs = .ok () ↔
    ∃ rest, cs = ']' :: rest ∧ IsEnding text (i + 1) rest := by
  cases cs with
  | nil => exact iff_of_false nofun fun ⟨_, h, _⟩ => nomatch h
  | cons c rest =>
      by_cases hc : c = ']'
      · subst hc
        show readFrom text (i + 1) .target rest = _ ↔ _
        rw [readFrom_target]
        constructor
        · intro h
          exact ⟨rest, rfl, h⟩
        · rintro ⟨_, ⟨⟩, h⟩
          exact h
      · have hstep : step text i c .fields = .error (.refused .directive) :=
          if_neg (by simpa using hc)
        rw [readFrom, hstep]
        refine iff_of_false nofun ?_
        rintro ⟨_, ⟨⟩, -⟩
        exact hc rfl

theorem readFrom_inField {inside : List Char} (hfree : '\x7d' ∉ inside) (start i : Nat)
    (rest : List Char) : readFrom text i (.field start) (inside ++ rest) =
      readFrom text (i + byteLength inside) (.field start) rest := by
  refine readFrom_stays (fun c hc j => ?_) i rest
  exact if_neg (by simpa using ne_of_mem_of_not_mem hc hfree)

/-- A closing brace ends the field, which is checked then. -/
theorem readFrom_brace {start i : Nat} {rest : List Char} :
    readFrom text i (.field start) ('\x7d' :: rest) = .ok () ↔
      (∃ field, IsPart text start i field ∧ IsField field) ∧
        readFrom text (i + 1) .fields rest = .ok () := by
  show (((part text start i).bind fun field => ((checkField field).mapError Stop.refused).bind
    fun _ => .ok Place.fields).bind fun p => readFrom text (i + 1) p rest) = .ok () ↔ _
  constructor
  · intro h
    obtain ⟨p, hp, h⟩ := Json.bind_eq_ok h
    obtain ⟨field, hfield, hp⟩ := Json.bind_eq_ok hp
    obtain ⟨⟨⟩, hcheck, ⟨⟩⟩ := Json.bind_eq_ok hp
    exact ⟨⟨field, part_eq_ok.mp hfield, checkField_eq_ok.mp (mapError_eq_ok.mp hcheck)⟩, h⟩
  · rintro ⟨⟨field, hbetween, hfield⟩, h⟩
    rw [part_eq_ok.mpr hbetween]
    show (((checkField field).mapError Stop.refused).bind fun _ => .ok Place.fields).bind _ = _
    rw [mapError_eq_ok.mpr (checkField_eq_ok.mpr hfield)]
    exact h

theorem readFrom_field {start i : Nat} {cs : List Char} :
    readFrom text i (.field start) cs = .ok () ↔
      ∃ inside rest field, cs = inside ++ '\x7d' :: ']' :: rest ∧ '\x7d' ∉ inside ∧
        IsPart text start (i + byteLength inside) field ∧ IsField field ∧
        IsEnding text (i + byteLength inside + 2) rest := by
  constructor
  · intro h
    by_cases hmem : '\x7d' ∈ cs
    · obtain ⟨inside, after, rfl, hfree⟩ := List.eq_append_cons_of_mem hmem
      rw [readFrom_inField hfree, readFrom_brace] at h
      obtain ⟨⟨field, hbetween, hfield⟩, hafter⟩ := h
      obtain ⟨rest, rfl, hrest⟩ := readFrom_fields.mp hafter
      exact ⟨inside, rest, field, rfl, hfree, hbetween, hfield, hrest⟩
    · -- the field is not closed
      rw [← List.append_nil cs, readFrom_inField hmem] at h
      cases h
  · rintro ⟨inside, rest, field, rfl, hfree, hbetween, hfield, hrest⟩
    rw [readFrom_inField hfree, readFrom_brace]
    exact ⟨⟨field, hbetween, hfield⟩, readFrom_fields.mpr ⟨rest, rfl, hrest⟩⟩

theorem readFrom_name {name : List Char} (hname : ∀ c ∈ name, isSpanChar c = true) (start i : Nat)
    (rest : List Char) : readFrom text i (.span start) (name ++ rest)
      = readFrom text (i + byteLength name) (.span start) rest := by
  refine readFrom_stays (fun c hc j => ?_) i rest
  have h := hname c hc
  rw [isSpanChar, Bool.and_eq_true, bne_iff_ne, bne_iff_ne] at h
  rw [step, if_neg (by simpa using h.1), if_neg (by simpa using h.2)]

/-- A closing bracket ends the name of a span. -/
theorem readFrom_bracket {start i : Nat} {rest : List Char} :
    readFrom text i (.span start) (']' :: rest) = .ok () ↔
      HasPart text start i ∧ IsEnding text (i + 1) rest := by
  show (takePart text start i .target).bind (fun p => readFrom text (i + 1) p rest) = .ok () ↔ _
  rw [takePart_bind_eq_ok, readFrom_target]

/-- An opening brace ends it too, and a field follows. -/
theorem readFrom_openBrace {start i : Nat} {rest : List Char} :
    readFrom text i (.span start) ('\x7b' :: rest) = .ok () ↔
      HasPart text start i ∧ readFrom text (i + 1) (.field (i + 1)) rest = .ok () := by
  show (takePart text start i (.field (i + 1))).bind (fun p => readFrom text (i + 1) p rest) = .ok ()
    ↔ _
  rw [takePart_bind_eq_ok]

theorem readFrom_span {i : Nat} {cs : List Char} :
    readFrom text i (.span i) cs = .ok () ↔ IsSpan text i cs := by
  constructor
  · intro h
    obtain ⟨name, rest, rfl, hname, hrest⟩ := exists_stretch isSpanChar cs
    rw [readFrom_name hname] at h
    rcases hrest with rfl | ⟨c, rest, rfl, hc⟩
    · cases h
    · by_cases hclose : c = ']'
      · subst hclose
        obtain ⟨hpart, hrest⟩ := readFrom_bracket.mp h
        exact .plain hname hpart hrest
      · obtain rfl : c = '\x7b' := by
          simpa [isSpanChar, hclose] using hc
        obtain ⟨hpart, h⟩ := readFrom_openBrace.mp h
        obtain ⟨inside, rest, field, rfl, hfree, hbetween, hfield, hrest⟩ := readFrom_field.mp h
        exact .withField hname hpart hfree hbetween hfield hrest
  · rintro (⟨hname, hpart, hrest⟩ | ⟨hname, hpart, hfree, hbetween, hfield, hrest⟩)
    · rw [readFrom_name hname]
      exact readFrom_bracket.mpr ⟨hpart, hrest⟩
    · rw [readFrom_name hname]
      refine readFrom_openBrace.mpr ⟨hpart, ?_⟩
      exact readFrom_field.mpr ⟨_, _, _, rfl, hfree, hbetween, hfield, hrest⟩

theorem readFrom_word {word : List Char} (hword : ∀ c ∈ word, isTargetChar c = true) (i : Nat)
    (rest : List Char) :
    readFrom text i .first (word ++ rest) = readFrom text (i + byteLength word) .first rest := by
  refine readFrom_stays (fun c hc j => ?_) i rest
  have h := hword c hc
  rw [isTargetChar, Bool.and_eq_true, bne_iff_ne, bne_iff_ne] at h
  rw [step, if_neg (by simpa using h.1), if_neg (by simpa using h.2)]

/-- An equals sign ends a target, and so does an opening bracket. -/
theorem readFrom_mark {i : Nat} {c : Char} (hc : isTargetChar c = false) {rest : List Char} :
    readFrom text i .first (c :: rest) = .ok () ↔ FollowsTarget text i (c :: rest) := by
  by_cases hequals : c = '='
  · subst hequals
    show (takePart text 0 i (.level (i + 1))).bind (fun p => readFrom text (i + 1) p rest) = .ok ()
      ↔ _
    rw [takePart_bind_eq_ok, readFrom_level]
    constructor
    · rintro ⟨hpart, hlevel⟩
      exact .level hpart hlevel
    · rintro ⟨⟩
      exact ⟨‹_›, ‹_›⟩
  · obtain rfl : c = '[' := by
      simpa [isTargetChar, hequals] using hc
    show (takePart text 0 i (.span (i + 1))).bind (fun p => readFrom text (i + 1) p rest) = .ok () ↔ _
    rw [takePart_bind_eq_ok, readFrom_span]
    constructor
    · rintro ⟨hpart, hspan⟩
      exact .span hpart hspan
    · rintro ⟨⟩
      exact ⟨‹_›, ‹_›⟩

theorem readFrom_first {i : Nat} {cs : List Char} : readFrom text i .first cs = .ok () ↔
    ∃ word rest, cs = word ++ rest ∧ (∀ c ∈ word, isTargetChar c = true) ∧
      FollowsTarget text (i + byteLength word) rest := by
  constructor
  · intro h
    obtain ⟨word, rest, rfl, hword, hrest⟩ := exists_stretch isTargetChar cs
    rw [readFrom_word hword] at h
    refine ⟨word, rest, rfl, hword, ?_⟩
    rcases hrest with rfl | ⟨c, rest, rfl, hc⟩
    · exact .nothing
    · exact (readFrom_mark hc).mp h
  · rintro ⟨word, rest, rfl, hword, hrest⟩
    rw [readFrom_word hword]
    cases hrest with
    | nothing => rfl
    | level hpart hlevel => exact (readFrom_mark rfl).mpr (.level hpart hlevel)
    | span hpart hspan => exact (readFrom_mark rfl).mpr (.span hpart hspan)

theorem step_start {c : Char} (hbracket : c ≠ '[') (hc : canStart c = true) (i : Nat) :
    step text i c .start = .ok .first := by
  rw [step, if_neg (by simpa using hbracket), if_pos hc]

theorem readFrom_start {cs : List Char} :
    readFrom text 0 .start cs = .ok () ↔ IsTrimmedDirective text cs := by
  -- the first character of a target is read at the start, the others after it
  have hlength : ∀ (c : Char) (word : List Char),
      0 + c.utf8Size + byteLength word = byteLength (c :: word) := by
    intro c word
    rw [Nat.zero_add, Text.byteLength_cons]
  constructor
  · intro h
    cases cs with
    | nil => cases h
    | cons c rest =>
        by_cases hbracket : c = '['
        · subst hbracket
          exact .span (readFrom_span.mp h)
        · by_cases hc : canStart c = true
          · rw [readFrom, step_start hbracket hc] at h
            obtain ⟨word, rest, rfl, hword, hrest⟩ := readFrom_first.mp h
            rw [hlength c] at hrest
            exact IsTrimmedDirective.target (.word hbracket hc hword) hrest
          · rw [readFrom, step, if_neg (by simpa using hbracket), if_neg hc] at h
            cases h
  · rintro (⟨⟨hbracket, hc, hword⟩, hrest⟩ | hinside)
    · rw [← hlength] at hrest
      rw [List.cons_append, readFrom, step_start hbracket hc]
      exact readFrom_first.mpr ⟨_, _, rfl, hword, hrest⟩
    · exact readFrom_span.mpr hinside

/-- The check accepts the directives. -/
theorem checkDirective_eq_ok : checkDirective text = .ok () ↔ IsDirective text :=
  readFrom_start

-- Behind a blank the level is looked up one place too early, and a part can end in a character.
example : checkDirective "app=info".toList = .ok () := by rfl
example : checkDirective " app=info".toList = .error (.refused .level) := by rfl
example : checkDirective "   [(=é\x7bxyz\x7d]".toList = .ok () := by rfl
example : checkDirective "\u3000[a\x7bb\x7d]".toList = .error .brokenOff := by rfl

end Webhook.LogFilter
