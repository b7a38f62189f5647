import Mathlib.Data.List.TakeWhile
import Webhook.Json.Printer
import Webhook.Json.Scalar
import Webhook.Proofs.Json.Grammar
import Webhook.Proofs.Utf8

/-!
# Numbers and strings read back

`readNumber_render` says that the digits of a whole number are read as that number, as long as it
lies between `-2 ^ 63` and `2 ^ 64 - 1`.  Beyond these a reader goes over to floating point.

`readString_escaped` says that a string is read back from its escaped characters, whatever they
are.  The characters are taken one at a time: `unescape_escapeChar` takes off what is written for a
character and is left with the bytes of the character, and `Utf8.decode?_encode` does the rest.
-/

namespace Webhook.Json

/-- The bytes of some characters. -/
def spell (cs : List Char) : Bytes := cs.flatMap Utf8.encodeChar

@[simp] theorem spell_nil : spell [] = [] := rfl

@[simp] theorem spell_cons (c : Char) (cs : List Char) :
    spell (c :: cs) = Utf8.encodeChar c ++ spell cs := List.flatMap_cons

@[simp] theorem spell_append (cs ds : List Char) : spell (cs ++ ds) = spell cs ++ spell ds :=
  List.flatMap_append

theorem encode_ofList (cs : List Char) : Utf8.encode (String.ofList cs) = spell cs := by
  rw [Utf8.encode, String.toList_ofList, spell]

/-! ## Digits -/

/-- The byte of a decimal digit. -/
def digitByte (n : Nat) : UInt8 := UInt8.ofNat (0x30 + n)

/-- The bytes of the digits of a natural. -/
def digitBytes (n : Nat) : Bytes := spell (Binary64.digitsOf n)

theorem spell_digitChar {n : Nat} (h : n < 10) : spell [Nat.digitChar n] = [digitByte n] := by
  revert n
  decide

theorem isDigit_digitByte {n : Nat} (h : n < 10) : isDigit (digitByte n) = true := by
  revert n
  decide

theorem digitValue_digitByte {n : Nat} (h : n < 10) : digitValue (digitByte n) = n := by
  revert n
  decide

theorem digitByte_ne_zero {n : Nat} (h : n < 10) (hn : n ≠ 0) : digitByte n ≠ 0x30 := by
  revert n
  decide

theorem digitBytes_of_lt {n : Nat} (h : n < 10) : digitBytes n = [digitByte n] := by
  rw [digitBytes, Binary64.digitsOf, Nat.toDigits_of_lt_base h, spell_digitChar h]

theorem digitBytes_of_le {n : Nat} (h : 10 ≤ n) :
    digitBytes n = digitBytes (n / 10) ++ [digitByte (n % 10)] := by
  have hlt : n % 10 < 10 := Nat.mod_lt _ (by omega)
  rw [digitBytes, Binary64.digitsOf, Nat.toDigits_of_base_le (by omega) h, spell_append,
    spell_digitChar hlt]
  rfl

theorem AllDigits.concat {ds : Bytes} {b : UInt8} (h : AllDigits ds) (hb : isDigit b = true) :
    AllDigits (ds ++ [b]) := by
  intro c hc
  rcases List.mem_append.mp hc with hc | hc
  · exact h c hc
  · rw [List.mem_singleton.mp hc]
    exact hb

/-- The digits of a natural do not start with a zero, except for the one of zero itself. -/
theorem digitBytes_eq_cons (n : Nat) : ∃ b ds, digitBytes n = b :: ds ∧ isDigit b = true ∧
    AllDigits ds ∧ (n ≠ 0 → b ≠ 0x30) := by
  by_cases h : n < 10
  · exact ⟨digitByte n, [], digitBytes_of_lt h, isDigit_digitByte h, .nil, digitByte_ne_zero h⟩
  · obtain ⟨b, ds, heq, hb, hds, hne⟩ := digitBytes_eq_cons (n / 10)
    have hlt : n % 10 < 10 := Nat.mod_lt _ (by omega)
    refine ⟨b, ds ++ [digitByte (n % 10)], ?_, hb, hds.concat (isDigit_digitByte hlt),
      fun _ => hne (by omega)⟩
    rw [digitBytes_of_le (by omega), heq, List.cons_append]
termination_by n

theorem wholeText_digitBytes (n : Nat) : WholeText (digitBytes n) := by
  by_cases hn : n = 0
  · rw [hn]
    exact .zero
  · obtain ⟨b, ds, heq, hb, hds, hne⟩ := digitBytes_eq_cons n
    rw [heq]
    exact .digits hb (hne hn) hds

theorem allDigits_digitBytes (n : Nat) : AllDigits (digitBytes n) := by
  obtain ⟨b, ds, heq, hb, hds, -⟩ := digitBytes_eq_cons n
  rw [heq]
  exact hds.cons hb

/-- Digits are read one after the other. -/
theorem readWhole_append (ds' : Bytes) : ∀ (n dropped : Nat) (ds : Bytes),
    readWhole n dropped (ds ++ ds')
      = readWhole (readWhole n dropped ds).1 (readWhole n dropped ds).2 ds'
  | _, _, [] => rfl
  | n, dropped, b :: ds => by
      rw [List.cons_append, readWhole, readWhole]
      split
      · exact readWhole_append ds' _ _ ds
      · exact readWhole_append ds' _ _ ds

theorem readWhole_singleton {n : Nat} {b : UInt8} (h : n * 10 + digitValue b ≤ maxNatural) :
    readWhole n 0 [b] = (n * 10 + digitValue b, 0) := by
  simp [readWhole, h]

/-- The digits of a natural that is not too large are read as that natural. -/
theorem readWhole_digitBytes (n : Nat) (h : n ≤ maxNatural) :
    readWhole 0 0 (digitBytes n) = (n, 0) := by
  by_cases hn : n < 10
  · have hvalue := digitValue_digitByte hn
    rw [digitBytes_of_lt hn, readWhole_singleton (by omega), hvalue]
    simp
  · have hlt : n % 10 < 10 := Nat.mod_lt _ (by omega)
    have hvalue := digitValue_digitByte hlt
    have hsum : n / 10 * 10 + digitValue (digitByte (n % 10)) = n := by omega
    rw [digitBytes_of_le (by omega), readWhole_append,
      readWhole_digitBytes (n / 10) (by omega), readWhole_singleton (by omega), hsum]
termination_by n

/-! ## Numbers -/

/-- The numbers that are kept as whole ones. -/
def wholeRange (n : Int) : Prop := -0x8000000000000000 ≤ n ∧ n ≤ 0xFFFFFFFFFFFFFFFF

theorem takeWhile_isDigit {ds : Bytes} (h : AllDigits ds) : ds.takeWhile isDigit = ds :=
  List.takeWhile_eq_self_iff.mpr h

theorem dropWhile_isDigit {ds : Bytes} (h : AllDigits ds) : ds.dropWhile isDigit = [] :=
  List.dropWhile_eq_nil_iff.mpr h

/-- Digits that are not too large, with or without a sign, are a number without places. -/
theorem readNumber_digitBytes (start n : Nat) (h : n ≤ maxNatural) :
    readNumber start (digitBytes n) = .ok (.whole n) := by
  obtain ⟨b, ds, heq, hb, hds, -⟩ := digitBytes_eq_cons n
  have hsign : ((digitBytes n).head? == some 0x2D) = false := by
    rw [heq]
    rw [List.head?_cons, beq_eq_false_iff_ne]
    rintro ⟨rfl⟩
    cases hb
  have hdigits := allDigits_digitBytes n
  simp [readNumber, hsign, takeWhile_isDigit hdigits, dropWhile_isDigit hdigits,
    readWhole_digitBytes n h, readPlaces, wholeOf]

theorem wholeOf_minus {n : Nat} (hn : n ≠ 0) (h : n ≤ 0x8000000000000000) :
    wholeOf true n = some (.whole (-n)) := by
  have hrange : ¬ (n = 0 || 0x8000000000000000 < n) = true := by
    rw [Bool.or_eq_true, decide_eq_true_eq, decide_eq_true_eq]
    omega
  rw [wholeOf, if_neg (by decide), if_neg hrange]

theorem readNumber_minus (start n : Nat) (hn : n ≠ 0) (h : n ≤ 0x8000000000000000) :
    readNumber start (0x2D :: digitBytes n) = .ok (.whole (-n)) := by
  have hdigits := allDigits_digitBytes n
  have hmax : n ≤ maxNatural := Nat.le_trans h (by decide)
  simp [readNumber, takeWhile_isDigit hdigits, dropWhile_isDigit hdigits,
    readWhole_digitBytes n hmax, readPlaces, wholeOf_minus hn h]

theorem spell_render_whole (n : Int) : spell (Number.whole n).render
    = if n < 0 then 0x2D :: digitBytes n.natAbs else digitBytes n.natAbs := by
  rw [Number.render]
  split
  · rfl
  · rfl

theorem unsignedText_digitBytes (n : Nat) : UnsignedText (digitBytes n) :=
  ⟨digitBytes n, [], [], by simp, wholeText_digitBytes n, .absent, .absent⟩

theorem numberText_render (n : Int) : NumberText (spell (Number.whole n).render) := by
  rw [spell_render_whole]
  split
  · exact .inr ⟨_, rfl, unsignedText_digitBytes _⟩
  · exact .inl (unsignedText_digitBytes _)

/-- The text of a whole number is read as that number. -/
theorem readNumber_render (start : Nat) {n : Int} (h : wholeRange n) :
    readNumber start (spell (Number.whole n).render) = .ok (.whole n) := by
  obtain ⟨hlow, hhigh⟩ := h
  rw [spell_render_whole]
  split
  next hneg =>
    rw [readNumber_minus start n.natAbs (by omega) (by omega)]
    congr 2
    omega
  next hpos =>
    have hmax : n.natAbs ≤ maxNatural := by
      rw [maxNatural]
      omega
    rw [readNumber_digitBytes start n.natAbs hmax]
    congr 2
    omega

theorem readWhole_le : ∀ (ds : Bytes) {n : Nat} (dropped : Nat), n ≤ maxNatural →
    (readWhole n dropped ds).1 ≤ maxNatural
  | [], _, _, h => h
  | b :: ds, n, dropped, h => by
      rw [readWhole]
      split
      next hmore =>
        rw [Bool.and_eq_true, decide_eq_true_eq, decide_eq_true_eq] at hmore
        exact readWhole_le ds 0 hmore.2
      next => exact readWhole_le ds (dropped + 1) h

theorem floatOf_ne_whole {negative : Bool} {n : Nat} {e m : Int} :
    floatOf negative n e ≠ some (.whole m) := by
  intro h
  obtain ⟨x, -, hx⟩ := Option.map_eq_some_iff.mp h
  cases hx

theorem floatOf_result_ne {negative : Bool} {n : Nat} {e m : Int} {fault : Fault} :
    (match floatOf negative n e with
      | some x => Except.ok x
      | none => .error fault) ≠ .ok (.whole m) := by
  intro h
  split at h
  next x hx => exact floatOf_ne_whole (hx.trans (congrArg some (Except.ok.inj h)))
  next => cases h

theorem wholeRange_of_wholeOf {negative : Bool} {n : Nat} {m : Int} (hn : n ≤ maxNatural)
    (h : wholeOf negative n = some (.whole m)) : wholeRange m := by
  rw [maxNatural] at hn
  rw [wholeOf] at h
  split at h
  next =>
    obtain rfl := Number.whole.inj (Option.some.inj h)
    exact ⟨by omega, by omega⟩
  next =>
    split at h
    next => exact absurd h floatOf_ne_whole
    next hlarge =>
      rw [Bool.or_eq_true, decide_eq_true_eq, decide_eq_true_eq] at hlarge
      obtain rfl := Number.whole.inj (Option.some.inj h)
      exact ⟨by omega, by omega⟩

/-- Every number that is read as a whole one is kept as a whole one. -/
theorem wholeRange_of_readNumber {start : Nat} {text : Bytes} {m : Int}
    (h : readNumber start text = .ok (.whole m)) : wholeRange m := by
  rw [readNumber] at h
  simp only at h
  -- only the digits before the point have a part in a whole number
  generalize (if (text.head? == some 0x2D) = true then text.drop 1 else text) = unsigned at h
  have hwhole := readWhole_le (unsigned.takeWhile isDigit) 0 (Nat.zero_le maxNatural)
  generalize readWhole 0 0 _ = whole at h hwhole
  generalize ((unsigned.dropWhile isDigit).head? == some 0x2E) = hasPoint at h
  split at h
  next =>
    split at h
    next => exact absurd h floatOf_result_ne
    next hplain =>
      rw [Bool.or_eq_true, not_or, Bool.not_eq_true] at hplain
      rw [hplain.1] at h
      split at h
      next x hx =>
        obtain rfl := Except.ok.inj h
        exact wholeRange_of_wholeOf hwhole hx
      next => cases h
  next signed _ =>
    generalize (signed.head? == some 0x2D) = shrinks at h
    generalize readPlaces whole.1 0 _ = places at h
    split at h
    next => exact absurd h floatOf_result_ne
    next =>
      split at h
      next => cases h
      next => cases Except.ok.inj h

/-! ## Strings -/

/-- A byte that stands for itself in a string. -/
def isPlain (b : UInt8) : Prop := ¬ b < 0x20 ∧ b ≠ 0x22 ∧ b ≠ 0x5C

/-- What is written for a character: two bytes, six, or the bytes of the character. -/
inductive Escaped (c : Char) : Bytes → Prop where
  /-- A backslash and a letter. -/
  | short {b : UInt8} : isEscapeLetter b = true → Utf8.encodeChar c = [shortEscape b] →
      Escaped c [0x5C, b]
  /-- A backslash and the code of the character. -/
  | code {x y : UInt8} : isHexDigit x = true → isHexDigit y = true →
      hex4 0x30 0x30 x y = c.toNat → c.toNat < 0x20 → Escaped c [0x5C, 0x75, 0x30, 0x30, x, y]
  /-- The character itself. -/
  | plain : (∀ b ∈ Utf8.encodeChar c, isPlain b) → Escaped c (Utf8.encodeChar c)

/-- The byte of a hexadecimal digit. -/
def hexByte (n : Nat) : UInt8 := UInt8.ofNat (hexDigit n).toNat

theorem spell_hexDigit {n : Nat} (h : n < 16) : spell [hexDigit n] = [hexByte n] := by
  revert n
  decide

theorem isHexDigit_hexByte {n : Nat} (h : n < 16) : isHexDigit (hexByte n) = true := by
  revert n
  decide

theorem hexValue_hexByte {n : Nat} (h : n < 16) : hexValue (hexByte n) = n := by
  revert n
  decide

theorem isPlain_of_mem_encodeChar {c : Char} (hlow : ¬ c.toNat < 0x20) (hquote : c ≠ '"')
    (hback : c ≠ '\\') {b : UInt8} (hb : b ∈ Utf8.encodeChar c) : isPlain b := by
  by_cases h : c.toNat < 0x80
  · have hne : ∀ d : Char, c ≠ d → c.toNat ≠ d.toNat := fun d hd heq => hd (Char.toNat_inj.mp heq)
    have hquote' : c.toNat ≠ 0x22 := hne '"' hquote
    have hback' : c.toNat ≠ 0x5C := hne '\\' hback
    rw [Utf8.encodeChar_ascii h, List.mem_singleton] at hb
    have hvalue : b.toNat = c.toNat := by
      rw [hb, UInt8.toNat_ofNat']
      omega
    refine ⟨?_, fun heq => ?_, fun heq => ?_⟩
    · rw [UInt8.lt_iff_toNat_lt, hvalue]
      exact hlow
    · rw [heq] at hvalue
      exact hquote' hvalue.symm
    · rw [heq] at hvalue
      exact hback' hvalue.symm
  · have hle := Utf8.le_of_mem_encodeChar (by omega) hb
    refine ⟨?_, fun heq => ?_, fun heq => ?_⟩
    · rw [UInt8.lt_iff_toNat_lt]
      exact not_lt.mpr (Nat.le_trans (by decide) hle)
    · rw [heq] at hle
      exact absurd hle (by decide)
    · rw [heq] at hle
      exact absurd hle (by decide)

theorem Escaped.ite {c : Char} {p : Prop} [Decidable p] {x y : List Char}
    (hx : p → Escaped c (spell x)) (hy : ¬ p → Escaped c (spell y)) :
    Escaped c (spell (if p then x else y)) := by
  split
  next hp => exact hx hp
  next hp => exact hy hp

theorem Escaped.short_of_eq {c d : Char} {b : UInt8} (hb : isEscapeLetter b = true)
    (hd : Utf8.encodeChar d = [shortEscape b]) (hc : c = d) : Escaped c [0x5C, b] := by
  rw [hc]
  exact .short hb hd

/-- A control character is written with its code. -/
theorem escaped_control {c : Char} (h : c.toNat < 0x20) :
    Escaped c (spell
      ['\\', 'u', '0', '0', hexDigit (c.toNat / 16), hexDigit (c.toNat % 16)]) := by
  have hx : c.toNat / 16 < 16 := by omega
  have hy : c.toNat % 16 < 16 := by omega
  have hspell : spell ['\\', 'u', '0', '0', hexDigit (c.toNat / 16), hexDigit (c.toNat % 16)]
      = spell ['\\', 'u', '0', '0'] ++ (spell [hexDigit (c.toNat / 16)]
        ++ spell [hexDigit (c.toNat % 16)]) := by
    rw [← spell_append, ← spell_append]
    rfl
  rw [hspell, spell_hexDigit hx, spell_hexDigit hy]
  refine .code (isHexDigit_hexByte hx) (isHexDigit_hexByte hy) ?_ h
  have hzero : hexValue 0x30 = 0 := rfl
  rw [hex4, hexValue_hexByte hx, hexValue_hexByte hy, hzero]
  omega

/-- One case for each branch of `escapeChar`. -/
theorem escaped_escapeChar (c : Char) : Escaped c (spell (escapeChar c)) := by
  rw [escapeChar]
  refine .ite (.short_of_eq (b := 0x22) rfl rfl) fun hquote => ?_
  refine .ite (.short_of_eq (b := 0x5C) rfl rfl) fun hback => ?_
  refine .ite (.short_of_eq (b := 0x62) rfl rfl) fun _ => ?_
  refine .ite (.short_of_eq (b := 0x66) rfl rfl) fun _ => ?_
  refine .ite (.short_of_eq (b := 0x6E) rfl rfl) fun _ => ?_
  refine .ite (.short_of_eq (b := 0x72) rfl rfl) fun _ => ?_
  refine .ite (.short_of_eq (b := 0x74) rfl rfl) fun _ => ?_
  refine .ite (fun hlow => escaped_control hlow) fun hlow => ?_
  have hspell : spell [c] = Utf8.encodeChar c := by
    rw [spell_cons, spell_nil, List.append_nil]
  rw [hspell]
  exact .plain fun b => isPlain_of_mem_encodeChar hlow hquote hback

theorem rawText_append {rest : Bytes} (hrest : RawText rest) :
    ∀ bs : Bytes, (∀ b ∈ bs, isPlain b) → RawText (bs ++ rest)
  | [], _ => hrest
  | b :: bs, h => by
      obtain ⟨hlow, hquote, hback⟩ := h b (.head _)
      exact .plain hlow hquote hback (rawText_append hrest bs fun d hd => h d (.tail _ hd))

/-- What is written for a character may stand in a string. -/
theorem Escaped.rawText {c : Char} {bs rest : Bytes} (h : Escaped c bs) (hrest : RawText rest) :
    RawText (bs ++ rest) := by
  cases h with
  | short hb _ => exact .short hb hrest
  | code hx hy _ _ => exact .code rfl rfl hx hy hrest
  | plain hplain => exact rawText_append hrest _ hplain

theorem unescape_plain {b : UInt8} (h : b ≠ 0x5C) (offset : Nat) (done rest : Bytes) :
    unescape offset done none (b :: rest) = unescape (offset + 1) (b :: done) none rest := by
  rw [unescape.eq_def]
  split
  · cases ‹b :: rest = []›
  · cases ‹b :: rest = _›
    exact absurd rfl h
  · cases ‹b :: rest = _›
    exact absurd rfl h
  · obtain ⟨rfl, rfl⟩ := List.cons.inj ‹b :: rest = _›
    simp [h]

theorem unescape_short {b : UInt8} (h : isEscapeLetter b = true) (offset : Nat)
    (done rest : Bytes) :
    unescape offset done none ([0x5C, b] ++ rest)
      = unescape (offset + 2) (shortEscape b :: done) none rest := by
  have hne : b ≠ 0x75 := by
    rintro rfl
    cases h
  rw [List.cons_append, List.cons_append, List.nil_append, unescape.eq_def]
  split
  · cases ‹_ :: _ = []›
  · obtain ⟨-, hcons⟩ := List.cons.inj ‹_ :: _ = _›
    exact absurd (List.cons.inj hcons).1 hne
  · obtain ⟨-, hcons⟩ := List.cons.inj ‹_ :: _ = _›
    obtain ⟨rfl, rfl⟩ := List.cons.inj hcons
    simp [h]
  next hshort heq =>
    obtain ⟨rfl, rfl⟩ := List.cons.inj heq
    exact absurd rfl (hshort b rest rfl)

theorem unescape_code {a b c d : UInt8} (ha : isHexDigit a = true) (hb : isHexDigit b = true)
    (hc : isHexDigit c = true) (hd : isHexDigit d = true) (hlow : isLowHalf (hex4 a b c d) = false)
    (hhigh : isHighHalf (hex4 a b c d) = false) (offset : Nat) (done rest : Bytes) :
    unescape offset done none ([0x5C, 0x75, a, b, c, d] ++ rest)
      = unescape (offset + 6) ((Utf8.encodeChar (Char.ofNat (hex4 a b c d))).reverse ++ done) none
        rest := by
  have hall : ([a, b, c, d].all isHexDigit) = true := by simp [ha, hb, hc, hd]
  simp only [List.cons_append, List.nil_append, unescape, hall, hlow, hhigh, if_true,
    Bool.false_eq_true, if_false]

theorem unescape_append (rest : Bytes) : ∀ (bs : Bytes) (offset : Nat) (done : Bytes),
    (∀ b ∈ bs, isPlain b) →
    ∃ offset', unescape offset done none (bs ++ rest)
      = unescape offset' (bs.reverse ++ done) none rest
  | [], offset, _, _ => ⟨offset, rfl⟩
  | b :: bs, offset, done, h => by
      obtain ⟨-, -, hback⟩ := h b (.head _)
      obtain ⟨offset', ih⟩ := unescape_append rest bs (offset + 1) (b :: done) fun d hd =>
        h d (.tail _ hd)
      refine ⟨offset', ?_⟩
      rw [List.cons_append, unescape_plain hback, ih]
      simp

/-- What is written for a character stands for the bytes of the character. -/
theorem Escaped.unescape {c : Char} {bs : Bytes} (h : Escaped c bs) (offset : Nat)
    (done rest : Bytes) :
    ∃ offset', unescape offset done none (bs ++ rest)
      = unescape offset' ((Utf8.encodeChar c).reverse ++ done) none rest := by
  cases h with
  | short hb hc => exact ⟨offset + 2, by rw [hc]; exact unescape_short hb offset done rest⟩
  | code hx hy hcode hlow =>
      refine ⟨offset + 6, (unescape_code rfl rfl hx hy ?_ ?_ offset done rest).trans ?_⟩
      · rw [hcode, isLowHalf, Bool.and_eq_false_iff, decide_eq_false_iff_not]
        exact .inl (by omega)
      · rw [hcode, isHighHalf, Bool.and_eq_false_iff, decide_eq_false_iff_not]
        exact .inl (by omega)
      · rw [hcode, Char.ofNat_toNat]
  | plain hplain => exact unescape_append rest _ offset done hplain

/-- The bytes between the quotation marks of a string. -/
def escaped (s : String) : Bytes := spell (s.toList.flatMap escapeChar)

theorem rawText_flatMap : ∀ cs : List Char, RawText (spell (cs.flatMap escapeChar))
  | [] => .nil
  | c :: cs => by
      rw [List.flatMap_cons, spell_append]
      exact (escaped_escapeChar c).rawText (rawText_flatMap cs)

theorem rawText_escaped (s : String) : RawText (escaped s) := rawText_flatMap s.toList

theorem unescape_flatMap : ∀ (cs : List Char) (offset : Nat) (done : Bytes),
    unescape offset done none (spell (cs.flatMap escapeChar)) = .done ((spell cs).reverse ++ done)
  | [], _, _ => rfl
  | c :: cs, offset, done => by
      obtain ⟨offset', h⟩ := (escaped_escapeChar c).unescape offset done
        (spell (cs.flatMap escapeChar))
      rw [List.flatMap_cons, spell_append, h, unescape_flatMap cs, spell_cons]
      simp

/-- A string is read back from its escaped characters. -/
theorem readString_escaped (start stop : Nat) (s : String) :
    readString start (escaped s) (.closed stop) = .ok s := by
  have hdecode : Utf8.decode? (spell s.toList) = some s := Utf8.decode?_encode s
  unfold readString escaped
  rw [unescape_flatMap]
  simp only [List.append_nil, List.reverse_reverse, hdecode]

/-- The text that the raw bytes of a string stand for, if they stand for any. -/
def stringText? (raw : Bytes) : Option String :=
  match unescape 0 [] none raw with
  | .done bytes => Utf8.decode? bytes.reverse
  | _ => none

/-- Where a string stands has no part in what it stands for. -/
theorem unescape_done {bytes : Bytes} (offset offset' : Nat) (done : Bytes) (high : Option Nat)
    (raw : Bytes) (h : unescape offset done high raw = .done bytes) :
    unescape offset' done high raw = .done bytes := by
  fun_induction unescape offset done high raw generalizing offset' with
  | case1 => exact h
  | case2 => cases h
  | case3 => cases h
  | case4 offset done a b c d rest hhex n hlow hhigh ih =>
      simp only [unescape, hhex, n, hlow, hhigh, if_true, if_false, Bool.false_eq_true]
      exact ih _ h
  | case5 offset done a b c d rest hhex n hlow hhigh ih =>
      simp only [unescape, hhex, n, hlow, hhigh, if_true, if_false, Bool.false_eq_true]
      exact ih _ h
  | case6 offset done a b c d rest hhex n val hlow ih =>
      simp only [unescape, hhex, n, hlow, if_true]
      exact ih _ h
  | case7 => cases h
  | case8 => cases h
  | case9 => cases h
  | case10 => cases h
  | case11 offset done b rest hcode hletter ih =>
      rw [unescape.eq_def]
      simp only [hletter]
      exact ih _ h
  | case12 => cases h
  | case13 => cases h
  | case14 => cases h
  | case15 => cases h
  | case16 offset done b rest hcode hshort hback ih =>
      rw [unescape]
      · simp only [hback]
        exact ih _ h
      · exact hcode
      · exact hshort

/-- A string is read exactly as the text it stands for. -/
theorem readString_iff {start stop : Nat} {raw : Bytes} {s : String} :
    readString start raw (.closed stop) = .ok s ↔ stringText? raw = some s := by
  rw [stringText?, readString.eq_def]
  constructor
  · intro h
    split at h
    next => cases h
    next bytes _ hdone _ =>
      rw [unescape_done _ 0 _ _ _ hdone]
      split at h
      next hdecode =>
        obtain rfl := Except.ok.inj h
        exact hdecode
      next => cases h
    next => cases h
    next => cases h
  · intro h
    split at h
    next bytes hdone => simp only [unescape_done _ (start + 1) _ _ _ hdone, h]
    next => cases h

/-- The escaped characters of a text stand for the text. -/
theorem stringText?_escaped (s : String) : stringText? (escaped s) = some s :=
  readString_iff.mp (readString_escaped 0 0 s)

end Webhook.Json
