import Webhook.Proofs.Tls.Sections

/-!
# Sections that do not matter

`IsSection` says how a section is written, and `Aside` that a text holds nothing of a wanted kind:
its lines stand outside of sections, or make up well-formed sections that hold something else.  Only
its last line can be without an end, and then nothing can follow.  Such a text may stand wherever no
section is open.  It changes nothing about the sections that are wanted and nothing about what is
wrong (`Aside.scan_insert`).
-/

namespace Webhook.Tls.Pem

/-! ## Sections as they are written -/

/-- A label that can stand between dashes. -/
structure IsLabel (label : Bytes) : Prop where
  /-- It stands on one line. -/
  inside : ∀ b ∈ label, isLineEnd b = false
  /-- None of its own dashes runs into those that follow it. -/
  last : dash ∉ label.reverse.takeWhile isTrailing

/-- The line that starts a section, with blanks after its dashes and its end. -/
def startLine (label blanks : Bytes) (b : UInt8) : Bytes :=
  beginMark ++ (label ++ dashes ++ (blanks ++ [b]))

/-- The line that ends a section, with what else stands on it. -/
def stopLine (label more : Bytes) : Bytes := endMark ++ label ++ dashes ++ more

/-- A section as it is written: a line that starts it, the lines of its text, and a line that ends
it, which may be the last one of a file and have no end of its own. -/
structure IsSection (label : Bytes) (body : List Bytes) (text : Bytes) : Prop where
  /-- It has a label. -/
  labelled : IsLabel label
  /-- The lines of its text neither start nor end a section. -/
  inside : ∀ line ∈ body, (IsLine line ∧ Whole line) ∧ beginMark.isPrefixOf line = false ∧
    endsSection label line = false
  /-- Its lines make up the text. -/
  text_eq : ∃ blanks b more, (∀ c ∈ blanks, c = 0x20) ∧ isLineEnd b = true ∧
    (∀ c ∈ more.dropLast, isLineEnd c = false) ∧
    text = startLine label blanks b ++ (body.flatten ++ stopLine label more)

/-- A text that holds nothing of a wanted kind. -/
inductive Aside (wanted : Kind → Bool) : Bytes → Prop where
  /-- It is empty. -/
  | nil : Aside wanted []
  /-- A line stands outside of sections. -/
  | line {line rest : Bytes} (hline : IsLine line) (hbegin : beginMark.isPrefixOf line = false)
    (hparted : Parted line rest) (hrest : Aside wanted rest) : Aside wanted (line ++ rest)
  /-- A section is not known. -/
  | unknown {label text rest : Bytes} {body : List Bytes} (hsection : IsSection label body text)
    (hkind : Kind.ofLabel? label = none) (hparted : Parted text rest)
    (hrest : Aside wanted rest) : Aside wanted (text ++ rest)
  /-- A section holds something else. -/
  | other {label text rest der : Bytes} {body : List Bytes} {kind : Kind}
    (hsection : IsSection label body text) (hkind : Kind.ofLabel? label = some kind)
    (hwanted : wanted kind = false) (hder : Base64.decode body.flatten = .ok der)
    (hparted : Parted text rest) (hrest : Aside wanted rest) : Aside wanted (text ++ rest)

/-- A line goes on up to its end. -/
theorem isLine_append {text : Bytes} (hne : text ≠ []) (h : ∀ c ∈ text, isLineEnd c = false)
    {more : Bytes} (hmore : ∀ c ∈ more.dropLast, isLineEnd c = false) : IsLine (text ++ more) := by
  refine ⟨fun heq => hne (List.append_eq_nil_iff.mp heq).1, fun c hc => ?_⟩
  by_cases hnil : more = []
  · rw [hnil, List.append_nil] at hc
    exact h c (List.mem_of_mem_dropLast hc)
  · rw [List.dropLast_append_of_ne_nil hnil] at hc
    exact (List.mem_append.mp hc).elim (h c) (hmore c)

theorem whole_concat (text : Bytes) {b : UInt8} (hend : isLineEnd b = true) :
    Whole (text ++ [b]) := by
  intro c hc
  rw [List.getLast?_concat] at hc
  rwa [← Option.some.inj hc]

/-- The test of a whole text, which can be computed. -/
theorem inside_of_all {text : Bytes} (h : text.all (fun c => !isLineEnd c) = true) :
    ∀ c ∈ text, isLineEnd c = false := by
  intro c hc
  have hkept := List.all_eq_true.mp h c hc
  rwa [Bool.not_eq_true'] at hkept

/-- A mark with a label and dashes stands on one line. -/
theorem IsLabel.inside_line {label mark : Bytes} (h : IsLabel label)
    (hmark : ∀ c ∈ mark, isLineEnd c = false) :
    ∀ c ∈ mark ++ label ++ dashes, isLineEnd c = false := by
  have hdashes : ∀ c ∈ dashes, isLineEnd c = false := inside_of_all (by decide)
  intro c hc
  rcases List.mem_append.mp hc with hc | hc
  · exact (List.mem_append.mp hc).elim (hmark c) (h.inside c)
  · exact hdashes c hc

theorem isLine_startLine {label blanks : Bytes} (h : IsLabel label)
    (hblanks : ∀ c ∈ blanks, c = 0x20) {b : UInt8} (hend : isLineEnd b = true) :
    IsLine (startLine label blanks b) ∧ Whole (startLine label blanks b) := by
  have hmark : ∀ c ∈ beginMark, isLineEnd c = false := inside_of_all (by decide)
  have hparts : startLine label blanks b = beginMark ++ label ++ dashes ++ (blanks ++ [b]) := by
    simp only [startLine, List.append_assoc]
  rw [hparts]
  constructor
  · refine isLine_append (by simp [dashes]) (h.inside_line hmark) fun c hc => ?_
    rw [List.dropLast_concat] at hc
    rw [hblanks c hc]
    decide
  · rw [← List.append_assoc]
    exact whole_concat _ hend

theorem isLine_stopLine {label more : Bytes} (h : IsLabel label)
    (hmore : ∀ c ∈ more.dropLast, isLineEnd c = false) : IsLine (stopLine label more) := by
  have hmark : ∀ c ∈ endMark, isLineEnd c = false := inside_of_all (by decide)
  exact isLine_append (by simp [dashes]) (h.inside_line hmark) hmore

/-- The label is what stands before the five dashes, whatever blanks follow these. -/
theorem label?_written {label after : Bytes} (h : IsLabel label)
    (hafter : ∀ c ∈ after, isTrailing c = true ∧ c ≠ dash) :
    label? (label ++ dashes ++ after) = some label := by
  obtain ⟨own, hown⟩ : ∃ own, label.reverse.takeWhile isTrailing = own := ⟨_, rfl⟩
  have hlast : dash ∉ own := hown ▸ h.last
  -- from the end, the dashes are taken off, with what stands after them and blanks of the label
  have htrailing : (label ++ dashes ++ after).reverse.takeWhile isTrailing
      = after.reverse ++ (dashes ++ own) := by
    rw [List.reverse_append, List.reverse_append,
      List.takeWhile_append_of_pos fun c hc => (hafter c (List.mem_reverse.mp hc)).1, ← hown]
    exact congrArg _ (List.takeWhile_append_of_pos (List.all_eq_true.mp rfl))
  have hcount : (after.reverse ++ (dashes ++ own)).count dash = 5 := by
    have hnone : after.reverse.count dash = 0 :=
      List.count_eq_zero.mpr fun hmem => (hafter dash (List.mem_reverse.mp hmem)).2 rfl
    rw [List.count_append, List.count_append, hnone, List.count_eq_zero.mpr hlast]
    rfl
  have hfirst : (after.reverse ++ (dashes ++ own)).reverse.dropWhile (· != dash)
      = dashes ++ after := by
    have hskip : ∀ c ∈ own.reverse, (c != dash) = true := by
      intro c hc
      rw [bne_iff_ne]
      rintro rfl
      exact hlast (List.mem_reverse.mp hc)
    rw [List.reverse_append, List.reverse_append, List.reverse_reverse, List.append_assoc,
      List.dropWhile_append_of_pos hskip]
    rfl
  have htake : (label ++ dashes ++ after).length - (dashes ++ after).length = label.length := by
    rw [List.append_assoc, List.length_append, Nat.add_sub_cancel]
  rw [label?, htrailing]
  simp only [hcount, if_true, hfirst, htake]
  rw [List.append_assoc, List.take_left]

theorem label?_startLine {label blanks : Bytes} (h : IsLabel label)
    (hblanks : ∀ c ∈ blanks, c = 0x20) {b : UInt8} (hend : isLineEnd b = true) :
    label? ((startLine label blanks b).drop beginMark.length) = some label := by
  rw [startLine, List.drop_left]
  refine label?_written h fun c hc => ?_
  rcases List.mem_append.mp hc with hc | hc
  · rw [hblanks c hc]
    decide
  · rw [List.mem_singleton.mp hc]
    refine ⟨by rw [isTrailing, hend]; rfl, ?_⟩
    rintro rfl
    exact absurd hend (by decide)

/-! ## What is found in a section -/

theorem lines_flatten_append {body : List Bytes} (h : ∀ line ∈ body, IsLine line ∧ Whole line)
    (rest : Bytes) : lines (body.flatten ++ rest) = body ++ lines rest := by
  induction body with
  | nil => rfl
  | cons line body ih =>
      obtain ⟨⟨hline, hwhole⟩, hbody⟩ := List.forall_mem_cons.mp h
      rw [List.flatten_cons, List.append_assoc, hline.lines_append (.inl hwhole), ih hbody,
        List.cons_append]

theorem scanFrom_inside {label : Bytes} {body : List Bytes}
    (h : ∀ line ∈ body, beginMark.isPrefixOf line = false ∧ endsSection label line = false)
    (text rest : List Bytes) :
    scanFrom (some label, text) (body ++ rest) = scanFrom (some label, body.reverse ++ text) rest := by
  induction body generalizing text with
  | nil => rfl
  | cons line body ih =>
      obtain ⟨⟨hbegin, hends⟩, hbody⟩ := List.forall_mem_cons.mp h
      rw [List.cons_append, (Moves.inside hbegin hends).scan, List.reverse_cons, List.append_assoc]
      exact ih hbody (line :: text)

theorem endsSection_stopLine (label more : Bytes) :
    endsSection label (stopLine label more) = true := by
  rw [endsSection, List.isPrefixOf_iff_prefix]
  exact List.prefix_append _ _

/-- A section is read up to the line that ends it. -/
theorem IsSection.scan_append {label text rest : Bytes} {body : List Bytes}
    (h : IsSection label body text) (hparted : Parted text rest) :
    ∃ stop, endsSection label stop = true ∧
      scan (text ++ rest) = scanFrom (some label, body.reverse) (stop :: lines rest) := by
  obtain ⟨blanks, b, more, hblanks, hb, hmore, rfl⟩ := h.text_eq
  refine ⟨stopLine label more, endsSection_stopLine label more, ?_⟩
  obtain ⟨hstart, hwhole⟩ := isLine_startLine h.labelled hblanks hb
  have hlines : lines (startLine label blanks b ++ (body.flatten ++ stopLine label more) ++ rest)
      = startLine label blanks b :: (body ++ stopLine label more :: lines rest) := by
    rw [List.append_assoc, hstart.lines_append (.inl hwhole), List.append_assoc,
      lines_flatten_append fun line hline => (h.inside line hline).1,
      (isLine_stopLine h.labelled hmore).lines_append hparted.of_append.of_append]
  have hbegin : beginMark.isPrefixOf (startLine label blanks b) = true := by
    rw [List.isPrefixOf_iff_prefix]
    exact List.prefix_append _ _
  rw [scan, hlines, (Moves.starts hbegin (label?_startLine h.labelled hblanks hb)).scan]
  show scanFrom (some label, []) _ = _
  rw [scanFrom_inside fun line hline => (h.inside line hline).2, List.append_nil]

/-- What follows a section that is not known is read as if it stood alone. -/
theorem IsSection.scan_unknown {label text rest : Bytes} {body : List Bytes}
    (h : IsSection label body text) (hkind : Kind.ofLabel? label = none)
    (hparted : Parted text rest) : scan (text ++ rest) = scan rest := by
  obtain ⟨stop, hends, hscan⟩ := h.scan_append hparted
  rw [hscan, (Moves.passes (beginMark_of_endsSection hends) hends hkind).scan]
  rfl

/-- What follows a section that is known is read as if it stood alone. -/
theorem IsSection.scan_known {label text rest der : Bytes} {body : List Bytes} {kind : Kind}
    (h : IsSection label body text) (hkind : Kind.ofLabel? label = some kind)
    (hder : Base64.decode body.flatten = .ok der) (hparted : Parted text rest) :
    scan (text ++ rest) = (scan rest).cons ⟨kind, der⟩ := by
  obtain ⟨stop, hends, hscan⟩ := h.scan_append hparted
  rw [← List.reverse_reverse body] at hder
  rw [hscan, (Moves.ends (beginMark_of_endsSection hends) hends hkind hder).scan]
  rfl

/-! ## What does not matter -/

/-- Two scans that find the same of a wanted kind, and the same fault. -/
structure Scan.AgreeOn (wanted : Kind → Bool) (s t : Scan) : Prop where
  /-- The sections that are wanted are the same. -/
  sections : s.sections.filter (wanted ·.kind) = t.sections.filter (wanted ·.kind)
  /-- What is wrong is the same. -/
  fault : s.fault = t.fault

variable {wanted : Kind → Bool}

theorem Scan.AgreeOn.followedBy {s t : Scan} (h : s.AgreeOn wanted t) (before : Scan) :
    (before.followedBy s).AgreeOn wanted (before.followedBy t) := by
  obtain ⟨sections, fault⟩ := before
  cases fault with
  | some f => exact ⟨rfl, rfl⟩
  | none =>
      refine ⟨?_, h.fault⟩
      show (sections ++ s.sections).filter _ = (sections ++ t.sections).filter _
      rw [List.filter_append, List.filter_append, h.sections]

/-- A text that holds nothing that is wanted does not matter for what follows it. -/
theorem Aside.scan_append {extra rest : Bytes} (h : Aside wanted extra)
    (hparted : Parted extra rest) : (scan (extra ++ rest)).AgreeOn wanted (scan rest) := by
  induction h with
  | nil => exact ⟨rfl, rfl⟩
  | line hline hbegin hfirst hrest ih =>
      rw [List.append_assoc, scan, hline.lines_append (hfirst.append hparted),
        (Moves.aside hbegin).scan]
      exact ih hparted.of_append
  | unknown hsection hkind hfirst hrest ih =>
      rw [List.append_assoc, hsection.scan_unknown hkind (hfirst.append hparted)]
      exact ih hparted.of_append
  | other hsection hkind hwanted hder hfirst hrest ih =>
      have hagree := ih hparted.of_append
      rw [List.append_assoc, hsection.scan_known hkind hder (hfirst.append hparted)]
      refine ⟨?_, hagree.fault⟩
      rw [← hagree.sections]
      exact List.filter_cons_of_neg (by rw [hwanted]; exact Bool.false_ne_true)

/-- Its sections are finished. -/
theorem Aside.closed {text : Bytes} (h : Aside wanted text) (hwhole : Whole text) :
    Closed text := by
  have hfault : (scan text).fault = none := by
    have hlast : Parted text [] := .inr rfl
    have hagree := (h.scan_append hlast).fault
    rwa [List.append_nil] at hagree
  exact ⟨hwhole, fun label hopen => by rw [hfault] at hopen; cases hopen⟩

/-- It may stand wherever no section is open. -/
theorem Aside.scan_insert {before extra rest : Bytes} (hbefore : Closed before)
    (hextra : Aside wanted extra) (hparted : Parted extra rest) :
    (scan (before ++ (extra ++ rest))).AgreeOn wanted (scan (before ++ rest)) := by
  rw [Pem.scan_append hbefore, Pem.scan_append hbefore]
  exact (hextra.scan_append hparted).followedBy _

/-- The certificates of a file depend only on sections of certificates. -/
theorem certificates_congr {a b : Bytes}
    (h : (scan a).AgreeOn (fun kind => decide (kind = .certificate)) (scan b)) :
    certificates a = certificates b := by
  rw [certificates, certificates]
  simp only [h.fault, h.sections]

/-- The private key of a file depends only on sections of private keys. -/
theorem privateKey_congr {a b : Bytes} (h : (scan a).AgreeOn Kind.isKey (scan b)) :
    privateKey a = privateKey b := by
  have hfirst : (scan a).sections.find? (·.kind.isKey) = (scan b).sections.find? (·.kind.isKey) := by
    rw [← List.head?_filter, ← List.head?_filter, h.sections]
  rw [privateKey, privateKey]
  simp only [hfirst, h.fault]

/-- What follows a private key does not matter. -/
theorem privateKey_append {a : Bytes} {key : Section} (h : privateKey a = .ok (some key))
    (b : Bytes) : privateKey (a ++ b) = .ok (some key) := by
  have hkey : (scan a).sections.find? (·.kind.isKey) = some key := by
    rw [privateKey] at h
    cases hfind : (scan a).sections.find? (·.kind.isKey) with
    | some key' =>
        simp only [hfind] at h
        cases h
        rfl
    | none =>
        simp only [hfind] at h
        cases hfault : (scan a).fault <;> rw [hfault] at h <;> cases h
  have hsame := (sections_append a b).find?_eq_some hkey
  rw [privateKey]
  simp only [hsame]

end Webhook.Tls.Pem
