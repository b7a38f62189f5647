import Mathlib.Data.List.Infix
import Webhook.Tls.Pem

/-!
# Armoured text in parts

What is found in a file is found one line after the other, so it can be found in parts.  Two texts
share no line when the first one ends with a whole line or the second one is empty (`Parted`), so
that the last line of a file needs no end.  When a text ends with a whole line and no section is
open there (`Closed`), what follows it is read as if it stood alone (`scan_append`).  Sections that
have been found stay, whatever follows them, even on the line of their last dashes
(`sections_append`).

A line does one of a few things to what is being read, and `Moves` lists them.  The facts about
whole texts come from these by induction over the lines.
-/

namespace Webhook.Tls.Pem

/-! ## Lines -/

/-- A text of whole lines. -/
def Whole (text : Bytes) : Prop := ∀ b ∈ text.getLast?, isLineEnd b = true

instance (text : Bytes) : Decidable (Whole text) :=
  inferInstanceAs (Decidable (∀ b ∈ text.getLast?, isLineEnd b = true))

theorem Whole.append {a b : Bytes} (ha : Whole a) (hb : Whole b) : Whole (a ++ b) := by
  intro c hc
  rw [List.getLast?_append] at hc
  cases hlast : b.getLast? with
  | none =>
      rw [hlast] at hc
      exact ha c hc
  | some d =>
      rw [hlast] at hc
      obtain rfl := Option.some.inj hc
      exact hb d hlast

/-- A line, with or without its end. -/
structure IsLine (line : Bytes) : Prop where
  /-- There is something on it, if only its end. -/
  nonempty : line ≠ []
  /-- Only its last byte can end it. -/
  inside : ∀ b ∈ line.dropLast, isLineEnd b = false

/-- Two texts that share no line: the first one ends with a whole line, or nothing follows it. -/
def Parted (a b : Bytes) : Prop := Whole a ∨ b = []

theorem whole_nil : Whole [] := fun _ hb => nomatch hb

/-- What follows a first part shares no line with what follows both. -/
theorem Parted.of_append {a b c : Bytes} (h : Parted (a ++ b) c) : Parted b c := by
  by_cases hb : b = []
  · exact .inl (hb ▸ whole_nil)
  · refine h.imp_left fun hwhole d hd => hwhole d ?_
    rwa [List.getLast?_append_of_ne_nil _ hb]

theorem Parted.append {a b c : Bytes} (h : Parted a b) (h' : Parted (a ++ b) c) :
    Parted a (b ++ c) := by
  rcases h with hwhole | rfl
  · exact .inl hwhole
  · rwa [List.append_nil] at h'

theorem linesFrom_done (done : List Bytes) (current text : Bytes) :
    linesFrom done current text = done.reverse ++ linesFrom [] current text := by
  induction text generalizing done current with
  | nil =>
      rw [linesFrom, linesFrom]
      split
      · exact (List.append_nil _).symm
      · exact List.reverse_cons
  | cons b text ih =>
      rw [linesFrom, linesFrom]
      split
      · rw [ih (_ :: done), ih [_], List.reverse_cons, List.append_assoc]
        rfl
      · exact ih done _

theorem linesFrom_append {a : Bytes} (hwhole : Whole a) (hne : a ≠ []) (current b : Bytes) :
    linesFrom [] current (a ++ b) = linesFrom [] current a ++ lines b := by
  induction a generalizing current with
  | nil => exact absurd rfl hne
  | cons c a ih =>
      rw [List.cons_append, linesFrom, linesFrom]
      by_cases ha : a = []
      · subst ha
        have hend : isLineEnd c = true := hwhole c rfl
        rw [if_pos hend, if_pos hend, linesFrom_done]
        rfl
      · have hrest : Whole a := by
          intro d hd
          refine hwhole d ?_
          rwa [List.getLast?_cons_of_ne_nil ha]
        split
        · rw [linesFrom_done, linesFrom_done [_] [] a, ih hrest ha, List.append_assoc]
        · exact ih hrest ha _

/-- After whole lines, further lines are read as if they stood alone. -/
theorem lines_append {a : Bytes} (hwhole : Whole a) (b : Bytes) :
    lines (a ++ b) = lines a ++ lines b := by
  by_cases ha : a = []
  · subst ha
    rfl
  · exact linesFrom_append hwhole ha [] b

/-- Texts that share no line are read one after the other. -/
theorem Parted.lines_append {a b : Bytes} (h : Parted a b) : lines (a ++ b) = lines a ++ lines b := by
  rcases h with hwhole | rfl
  · exact Pem.lines_append hwhole b
  · rw [List.append_nil]
    exact (List.append_nil _).symm

theorem linesFrom_line {line : Bytes} (h : IsLine line) (current : Bytes) :
    linesFrom [] current line = [current.reverse ++ line] := by
  obtain ⟨hne, hinside⟩ := h
  induction line generalizing current with
  | nil => exact absurd rfl hne
  | cons b line ih =>
      rw [linesFrom]
      cases line with
      | nil =>
          split
          · simp [linesFrom]
          · simp [linesFrom]
      | cons c line =>
          rw [List.dropLast_cons_cons] at hinside
          obtain ⟨hb, hline⟩ := List.forall_mem_cons.mp hinside
          rw [if_neg (by rw [hb]; decide), ih _ (List.cons_ne_nil c line) hline, List.reverse_cons,
            List.append_assoc]
          rfl

theorem IsLine.lines_append {line rest : Bytes} (h : IsLine line) (hparted : Parted line rest) :
    lines (line ++ rest) = line :: lines rest := by
  rw [hparted.lines_append, lines, linesFrom_line h]
  rfl

/-! ## One line -/

/-- What a line does to what is being read. -/
inductive Move where
  /-- Reading goes on. -/
  | goOn (next : Open)
  /-- A section is found. -/
  | found (s : Section)
  /-- Something is wrong. -/
  | wrong (f : Fault)

/-- What is found after a move. -/
def Move.scan (rest : List Bytes) : Move → Scan
  | goOn next => scanFrom next rest
  | found s => (scanFrom (none, []) rest).cons s
  | wrong f => ⟨[], some f⟩

/-- The moves that a line can make. -/
inductive Moves (line : Bytes) : Open → Move → Prop where
  /-- It starts a section. -/
  | starts {label : Option Bytes} {text : List Bytes} {l : Bytes}
    (hbegin : beginMark.isPrefixOf line = true)
    (hlabel : label? (line.drop beginMark.length) = some l) :
    Moves line (label, text) (.goOn (some l, text))
  /-- It does not start a section as it should. -/
  | misleads {label : Option Bytes} {text : List Bytes} (hbegin : beginMark.isPrefixOf line = true)
    (hlabel : label? (line.drop beginMark.length) = none) :
    Moves line (label, text) (.wrong (.badStart line))
  /-- It stands outside of sections. -/
  | aside {text : List Bytes} (hbegin : beginMark.isPrefixOf line = false) :
    Moves line (none, text) (.goOn (none, text))
  /-- It stands in a section. -/
  | inside {label : Bytes} {text : List Bytes} (hbegin : beginMark.isPrefixOf line = false)
    (hends : endsSection label line = false) :
    Moves line (some label, text) (.goOn (some label, line :: text))
  /-- It ends a section that is not known. -/
  | passes {label : Bytes} {text : List Bytes} (hbegin : beginMark.isPrefixOf line = false)
    (hends : endsSection label line = true) (hkind : Kind.ofLabel? label = none) :
    Moves line (some label, text) (.goOn (none, []))
  /-- It ends a section that is known. -/
  | ends {label : Bytes} {text : List Bytes} {kind : Kind} {der : Bytes}
    (hbegin : beginMark.isPrefixOf line = false) (hends : endsSection label line = true)
    (hkind : Kind.ofLabel? label = some kind)
    (hder : Base64.decode text.reverse.flatten = .ok der) :
    Moves line (some label, text) (.found ⟨kind, der⟩)
  /-- It ends a section that is known but not in base 64. -/
  | garbles {label : Bytes} {text : List Bytes} {kind : Kind} {f : Base64.Fault}
    (hbegin : beginMark.isPrefixOf line = false) (hends : endsSection label line = true)
    (hkind : Kind.ofLabel? label = some kind)
    (hder : Base64.decode text.reverse.flatten = .error f) :
    Moves line (some label, text) (.wrong (.badText f))

theorem Moves.scan {line : Bytes} {st : Open} {m : Move} (h : Moves line st m)
    (rest : List Bytes) : scanFrom st (line :: rest) = m.scan rest := by
  cases h with
  | @starts label _ _ hbegin hlabel => cases label <;> simp [scanFrom, Move.scan, hbegin, hlabel]
  | @misleads label _ hbegin hlabel => cases label <;> simp [scanFrom, Move.scan, hbegin, hlabel]
  | aside hbegin => simp [scanFrom, Move.scan, hbegin]
  | inside hbegin hends => simp [scanFrom, Move.scan, hbegin, hends]
  | passes hbegin hends hkind => simp [scanFrom, Move.scan, hbegin, hends, hkind]
  | ends hbegin hends hkind hder => simp [scanFrom, Move.scan, hbegin, hends, hkind, hder]
  | garbles hbegin hends hkind hder => simp [scanFrom, Move.scan, hbegin, hends, hkind, hder]

theorem exists_moves (line : Bytes) (st : Open) : ∃ m, Moves line st m := by
  obtain ⟨label, text⟩ := st
  cases hbegin : beginMark.isPrefixOf line with
  | true =>
      cases hlabel : label? (line.drop beginMark.length) with
      | none => exact ⟨_, .misleads hbegin hlabel⟩
      | some l => exact ⟨_, .starts hbegin hlabel⟩
  | false =>
      cases label with
      | none => exact ⟨_, .aside hbegin⟩
      | some l =>
          cases hends : endsSection l line with
          | false => exact ⟨_, .inside hbegin hends⟩
          | true =>
              cases hkind : Kind.ofLabel? l with
              | none => exact ⟨_, .passes hbegin hends hkind⟩
              | some kind =>
                  cases hder : Base64.decode text.reverse.flatten with
                  | ok der => exact ⟨_, .ends hbegin hends hkind hder⟩
                  | error f => exact ⟨_, .garbles hbegin hends hkind hder⟩

/-- No text is kept outside of sections. -/
def Tidy (st : Open) : Prop := st.1 = none → st.2 = []

theorem tidy_start : Tidy (none, []) := fun _ => rfl

theorem Moves.tidy {line : Bytes} {st next : Open} (h : Moves line st (.goOn next))
    (hst : Tidy st) : Tidy next := by
  cases h with
  | starts => exact fun h => nomatch h
  | aside => exact hst
  | inside => exact fun h => nomatch h
  | passes => exact tidy_start

/-- A line that starts like the end of a section does not start one. -/
theorem beginMark_endMark (rest : Bytes) : beginMark.isPrefixOf (endMark ++ rest) = false := by
  rfl

theorem endsSection_append {label line : Bytes} (h : endsSection label line = true) (more : Bytes) :
    endsSection label (line ++ more) = true := by
  rw [endsSection, List.isPrefixOf_iff_prefix] at h ⊢
  exact h.trans (List.prefix_append _ _)

theorem beginMark_of_endsSection {label line : Bytes} (h : endsSection label line = true) :
    beginMark.isPrefixOf line = false := by
  rw [endsSection, List.isPrefixOf_iff_prefix] at h
  obtain ⟨rest, rfl⟩ := h
  rw [List.append_assoc, List.append_assoc]
  exact beginMark_endMark _

/-- A section is found however its last line goes on. -/
theorem Moves.found_append {line : Bytes} {st : Open} {s : Section} (h : Moves line st (.found s))
    (more : Bytes) : Moves (line ++ more) st (.found s) := by
  cases h with
  | ends _ hends hkind hder =>
      have hends := endsSection_append hends more
      exact .ends (beginMark_of_endsSection hends) hends hkind hder

/-! ## What follows a text -/

namespace Scan

/-- What is found in a text and then in what follows it, unless something is wrong before. -/
def followedBy (s t : Scan) : Scan :=
  match s.fault with
  | some _ => s
  | none => ⟨s.sections ++ t.sections, t.fault⟩

theorem cons_followedBy (x : Section) (s t : Scan) :
    (s.cons x).followedBy t = (s.followedBy t).cons x := by
  obtain ⟨sections, fault⟩ := s
  cases fault <;> rfl

end Scan

/-- Lines at whose end no section is open. -/
theorem scanFrom_append {st : Open} (hst : Tidy st) {xs : List Bytes}
    (hopen : ∀ l, (scanFrom st xs).fault ≠ some (.unfinished l)) (ys : List Bytes) :
    scanFrom st (xs ++ ys) = (scanFrom st xs).followedBy (scanFrom (none, []) ys) := by
  induction xs generalizing st with
  | nil =>
      obtain ⟨label, text⟩ := st
      cases label with
      | none =>
          obtain rfl : text = [] := hst rfl
          rfl
      | some l => exact absurd rfl (hopen l)
  | cons line xs ih =>
      obtain ⟨m, hm⟩ := exists_moves line st
      rw [hm.scan] at hopen
      rw [List.cons_append, hm.scan, hm.scan]
      cases m with
      | goOn next => exact ih (hm.tidy hst) hopen
      | found s => rw [Move.scan, Move.scan, Scan.cons_followedBy, ih tidy_start hopen]
      | wrong f => rfl

/-- A text at whose end a line ends and no section is open. -/
structure Closed (text : Bytes) : Prop where
  /-- Its lines are whole. -/
  whole : Whole text
  /-- Its sections are finished. -/
  finished : ∀ label, (scan text).fault ≠ some (.unfinished label)

/-- What follows a closed text is read as if it stood alone. -/
theorem scan_append {a : Bytes} (ha : Closed a) (b : Bytes) :
    scan (a ++ b) = (scan a).followedBy (scan b) := by
  rw [scan, lines_append ha.whole]
  exact scanFrom_append tidy_start ha.finished (lines b)

/-! ## Sections that have been found -/

/-- Lines that go on: further ones follow, and the last one may become longer. -/
inductive GoesOn : List Bytes → List Bytes → Prop where
  /-- Nothing stands there yet. -/
  | nil (ys : List Bytes) : GoesOn [] ys
  /-- The last line becomes longer. -/
  | last (line more : Bytes) (ys : List Bytes) : GoesOn [line] ((line ++ more) :: ys)
  /-- A line is done. -/
  | cons (line : Bytes) {xs ys : List Bytes} (h : GoesOn xs ys) : GoesOn (line :: xs) (line :: ys)

theorem exists_linesFrom {current : Bytes} (hne : current ≠ []) (b : Bytes) :
    ∃ more ys, linesFrom [] current b = (current.reverse ++ more) :: ys := by
  induction b generalizing current with
  | nil =>
      rw [linesFrom, if_neg (by simpa using hne)]
      exact ⟨[], [], by simp⟩
  | cons c b ih =>
      rw [linesFrom]
      split
      · rw [linesFrom_done]
        exact ⟨[c], linesFrom [] [] b, by simp⟩
      · obtain ⟨more, ys, h⟩ := ih (List.cons_ne_nil c current)
        exact ⟨c :: more, ys, by simpa using h⟩

theorem goesOn_linesFrom (current a b : Bytes) :
    GoesOn (linesFrom [] current a) (linesFrom [] current (a ++ b)) := by
  induction a generalizing current with
  | nil =>
      by_cases hcurrent : current = []
      · subst hcurrent
        exact .nil _
      · obtain ⟨more, ys, h⟩ := exists_linesFrom hcurrent b
        rw [List.nil_append, h, linesFrom, if_neg (by simpa using hcurrent)]
        exact .last _ more ys
  | cons c a ih =>
      rw [List.cons_append, linesFrom, linesFrom]
      split
      · rw [linesFrom_done, linesFrom_done [_] [] (a ++ b)]
        exact .cons _ (ih [])
      · exact ih _

/-- Sections that have been found are found however the lines go on. -/
theorem GoesOn.sections {xs ys : List Bytes} (h : GoesOn xs ys) (st : Open) :
    (scanFrom st xs).sections <+: (scanFrom st ys).sections := by
  induction h generalizing st with
  | nil ys =>
      obtain ⟨label, text⟩ := st
      cases label <;> exact List.nil_prefix
  | last line more ys =>
      obtain ⟨m, hm⟩ := exists_moves line st
      rw [hm.scan]
      cases m with
      | goOn next =>
          obtain ⟨label, text⟩ := next
          cases label <;> exact List.nil_prefix
      | found s =>
          rw [(hm.found_append more).scan]
          exact List.cons_prefix_cons.mpr ⟨rfl, List.nil_prefix⟩
      | wrong f => exact List.nil_prefix
  | cons line h ih =>
      obtain ⟨m, hm⟩ := exists_moves line st
      rw [hm.scan, hm.scan]
      cases m with
      | goOn next => exact ih next
      | found s => exact List.cons_prefix_cons.mpr ⟨rfl, ih _⟩
      | wrong f => exact List.nil_prefix

/-- Sections that have been found are found whatever follows. -/
theorem sections_append (a b : Bytes) : (scan a).sections <+: (scan (a ++ b)).sections :=
  (goesOn_linesFrom [] a b).sections _

end Webhook.Tls.Pem
