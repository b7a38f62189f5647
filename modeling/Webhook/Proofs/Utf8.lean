import Webhook.Text.Utf8

/-!
# UTF-8 reads back what it writes

`decode?_encode` says that the bytes of a text decode to that text.  It goes character by character:
`decodeOnto?_encodeChar` reads the bytes of one character in front of any others.  The four lengths
of a character are the four cases of `encodeChar_cases`, where the bytes are given by their values,
so that all the arithmetic is on naturals.

A byte of an encoded character is either the character itself, below `0x80`, or at least `0x80`
(`le_of_mem_encodeChar`).  So no byte of a longer character is taken for a mark of a format whose
marks are ASCII.
-/

namespace Webhook.Utf8

/-! ## The bytes of a character -/

theorem isTail_iff {b : UInt8} : isTail b = true ↔ 0x80 ≤ b.toNat ∧ b.toNat ≤ 0xBF := by
  simp [isTail, UInt8.le_iff_toNat_le]

theorem isLead2_iff {b : UInt8} : isLead2 b = true ↔ 0xC2 ≤ b.toNat ∧ b.toNat ≤ 0xDF := by
  simp [isLead2, UInt8.le_iff_toNat_le]

theorem isLead3_iff {a b : UInt8} : isLead3 a b = true ↔
    0xE0 ≤ a.toNat ∧ a.toNat ≤ 0xEF ∧ 0x80 ≤ b.toNat ∧ b.toNat ≤ 0xBF ∧
      (a.toNat = 0xE0 → 0xA0 ≤ b.toNat) ∧ (a.toNat = 0xED → b.toNat ≤ 0x9F) := by
  simp only [isLead3, isTail, beq_iff_eq, ← UInt8.toNat_inj, UInt8.le_iff_toNat_le,
    UInt8.reduceToNat]
  split
  · simp
    omega
  · split
    · simp
      omega
    · simp
      omega

theorem isLead4_iff {a b : UInt8} : isLead4 a b = true ↔
    0xF0 ≤ a.toNat ∧ a.toNat ≤ 0xF4 ∧ 0x80 ≤ b.toNat ∧ b.toNat ≤ 0xBF ∧
      (a.toNat = 0xF0 → 0x90 ≤ b.toNat) ∧ (a.toNat = 0xF4 → b.toNat ≤ 0x8F) := by
  simp only [isLead4, isTail, beq_iff_eq, ← UInt8.toNat_inj, UInt8.le_iff_toNat_le,
    UInt8.reduceToNat]
  split
  · simp
    omega
  · split
    · simp
      omega
    · simp
      omega

/-- A character is at most the last code point, and no surrogate. -/
theorem toNat_valid (c : Char) : c.toNat < 0xD800 ∨ 0xDFFF < c.toNat ∧ c.toNat < 0x110000 :=
  c.valid

/-- The bytes of a character, by the number of them. -/
theorem encodeChar_cases (c : Char) :
    (c.toNat < 0x80 ∧ encodeChar c = [UInt8.ofNat c.toNat]) ∨
    (0x80 ≤ c.toNat ∧ c.toNat < 0x800 ∧
      ∃ a b, encodeChar c = [a, b] ∧ a.toNat = 0xC0 + c.toNat / 64 ∧
        b.toNat = 0x80 + c.toNat % 64) ∨
    (0x800 ≤ c.toNat ∧ c.toNat < 0x10000 ∧
      ∃ a b d, encodeChar c = [a, b, d] ∧ a.toNat = 0xE0 + c.toNat / 4096 ∧
        b.toNat = 0x80 + c.toNat / 64 % 64 ∧ d.toNat = 0x80 + c.toNat % 64) ∨
    (0x10000 ≤ c.toNat ∧
      ∃ a b d e, encodeChar c = [a, b, d, e] ∧ a.toNat = 0xF0 + c.toNat / 262144 ∧
        b.toNat = 0x80 + c.toNat / 4096 % 64 ∧ d.toNat = 0x80 + c.toNat / 64 % 64 ∧
        e.toNat = 0x80 + c.toNat % 64) := by
  have valid := toNat_valid c
  rw [encodeChar, String.utf8EncodeChar]
  have hv : c.val.toNat = c.toNat := rfl
  simp only [hv]
  split
  · exact .inl ⟨by omega, rfl⟩
  · split
    · refine .inr (.inl ⟨by omega, by omega, _, _, rfl, ?_, ?_⟩)
      · rw [UInt8.toNat_ofNat']
        omega
      · rw [UInt8.toNat_ofNat']
        omega
    · split
      · refine .inr (.inr (.inl ⟨by omega, by omega, _, _, _, rfl, ?_, ?_, ?_⟩))
        · rw [UInt8.toNat_ofNat']
          omega
        · rw [UInt8.toNat_ofNat']
          omega
        · rw [UInt8.toNat_ofNat']
          omega
      · refine .inr (.inr (.inr ⟨by omega, _, _, _, _, rfl, ?_, ?_, ?_, ?_⟩))
        · rw [UInt8.toNat_ofNat']
          omega
        · rw [UInt8.toNat_ofNat']
          omega
        · rw [UInt8.toNat_ofNat']
          omega
        · rw [UInt8.toNat_ofNat']
          omega

/-- A character of ASCII is its own byte. -/
theorem encodeChar_ascii {c : Char} (h : c.toNat < 0x80) :
    encodeChar c = [UInt8.ofNat c.toNat] := by
  rcases encodeChar_cases c with ⟨-, he⟩ | ⟨h2, -⟩ | ⟨h3, -⟩ | ⟨h4, -⟩
  · exact he
  · omega
  · omega
  · omega

/-- Beyond ASCII no byte of a character is one of ASCII. -/
theorem le_of_mem_encodeChar {c : Char} (h : 0x80 ≤ c.toNat) {b : UInt8}
    (hb : b ∈ encodeChar c) : 0x80 ≤ b.toNat := by
  rcases encodeChar_cases c with
    ⟨h1, -⟩ | ⟨-, -, a, b', he, ha, hb'⟩ | ⟨-, -, a, b', d, he, ha, hb', hd⟩ |
    ⟨-, a, b', d, e, he, ha, hb', hd, hee⟩
  · omega
  · rw [he] at hb
    simp only [List.mem_cons, List.not_mem_nil, or_false] at hb
    rcases hb with rfl | rfl
    · omega
    · omega
  · rw [he] at hb
    simp only [List.mem_cons, List.not_mem_nil, or_false] at hb
    rcases hb with rfl | rfl | rfl
    · omega
    · omega
    · omega
  · rw [he] at hb
    simp only [List.mem_cons, List.not_mem_nil, or_false] at hb
    rcases hb with rfl | rfl | rfl | rfl
    · omega
    · omega
    · omega
    · omega

/-! ## Reading the bytes back -/

/-- The character with a given code point. -/
theorem ofNat_eq {c : Char} {n : Nat} (h : n = c.toNat) : Char.ofNat n = c := by
  rw [h, Char.ofNat_toNat]

theorem not_ascii_of_le {b : UInt8} (h : 0x80 ≤ b.toNat) : ¬ b < 0x80 := by
  rw [UInt8.lt_iff_toNat_lt]
  exact Nat.not_lt.mpr h

theorem decodeOnto?_one {a : UInt8} (ha : a < 0x80) (acc : List Char) (rest : Bytes) :
    decodeOnto? acc (a :: rest) = decodeOnto? (Char.ofNat a.toNat :: acc) rest := by
  rw [decodeOnto?.eq_def]
  simp only [if_pos ha]

theorem decodeOnto?_two {a b : UInt8} (h : (isLead2 a && isTail b) = true) (acc : List Char)
    (rest : Bytes) : decodeOnto? acc (a :: b :: rest) = decodeOnto? (char2 a b :: acc) rest := by
  have hlead := h
  rw [Bool.and_eq_true, isLead2_iff, isTail_iff] at hlead
  have ha : ¬ a < 0x80 := not_ascii_of_le (by omega)
  rw [decodeOnto?.eq_def]
  simp only [if_neg ha, if_pos h]

theorem decodeOnto?_three {a b d : UInt8} (h : (isLead3 a b && isTail d) = true)
    (acc : List Char) (rest : Bytes) :
    decodeOnto? acc (a :: b :: d :: rest) = decodeOnto? (char3 a b d :: acc) rest := by
  have hlead := h
  rw [Bool.and_eq_true, isLead3_iff, isTail_iff] at hlead
  have ha : ¬ a < 0x80 := not_ascii_of_le (by omega)
  have h2 : ¬ (isLead2 a && isTail b) = true := by
    rw [Bool.and_eq_true, isLead2_iff, isTail_iff]
    omega
  rw [decodeOnto?.eq_def]
  simp only [if_neg ha, if_neg h2, if_pos h]

theorem decodeOnto?_four {a b d e : UInt8} (h : (isLead4 a b && isTail d && isTail e) = true)
    (acc : List Char) (rest : Bytes) :
    decodeOnto? acc (a :: b :: d :: e :: rest) = decodeOnto? (char4 a b d e :: acc) rest := by
  have hlead := h
  rw [Bool.and_eq_true, Bool.and_eq_true, isLead4_iff, isTail_iff, isTail_iff] at hlead
  have ha : ¬ a < 0x80 := not_ascii_of_le (by omega)
  have h2 : ¬ (isLead2 a && isTail b) = true := by
    rw [Bool.and_eq_true, isLead2_iff, isTail_iff]
    omega
  have h3 : ¬ (isLead3 a b && isTail d) = true := by
    rw [Bool.and_eq_true, isLead3_iff, isTail_iff]
    omega
  rw [decodeOnto?.eq_def]
  simp only [if_neg ha, if_neg h2, if_neg h3, if_pos h]

/-- The bytes of a character are read as that character, whatever follows. -/
theorem decodeOnto?_encodeChar (acc : List Char) (c : Char) (rest : Bytes) :
    decodeOnto? acc (encodeChar c ++ rest) = decodeOnto? (c :: acc) rest := by
  have valid := toNat_valid c
  rcases encodeChar_cases c with
    ⟨h1, he⟩ | ⟨h2, h2', a, b, he, ha, hb⟩ | ⟨h3, h3', a, b, d, he, ha, hb, hd⟩ |
    ⟨h4, a, b, d, e, he, ha, hb, hd, hee⟩
  · have hvalue : (UInt8.ofNat c.toNat).toNat = c.toNat := by
      rw [UInt8.toNat_ofNat']
      omega
    have hlt : UInt8.ofNat c.toNat < 0x80 := by
      rw [UInt8.lt_iff_toNat_lt, hvalue]
      exact h1
    rw [he, List.cons_append, List.nil_append, decodeOnto?_one hlt, ofNat_eq hvalue]
  · have hlead : (isLead2 a && isTail b) = true := by
      rw [Bool.and_eq_true, isLead2_iff, isTail_iff]
      omega
    have hc : char2 a b = c := by
      apply ofNat_eq
      rw [tailBits]
      omega
    rw [he, List.cons_append, List.cons_append, List.nil_append, decodeOnto?_two hlead, hc]
  · have hlead : (isLead3 a b && isTail d) = true := by
      rw [Bool.and_eq_true, isLead3_iff, isTail_iff]
      omega
    have hc : char3 a b d = c := by
      apply ofNat_eq
      rw [tailBits, tailBits]
      omega
    rw [he, List.cons_append, List.cons_append, List.cons_append, List.nil_append,
      decodeOnto?_three hlead, hc]
  · have hlead : (isLead4 a b && isTail d && isTail e) = true := by
      rw [Bool.and_eq_true, Bool.and_eq_true, isLead4_iff, isTail_iff, isTail_iff]
      omega
    have hc : char4 a b d e = c := by
      apply ofNat_eq
      rw [tailBits, tailBits, tailBits]
      omega
    rw [he, List.cons_append, List.cons_append, List.cons_append, List.cons_append,
      List.nil_append, decodeOnto?_four hlead, hc]

theorem decodeOnto?_flatMap (acc : List Char) :
    ∀ cs : List Char, decodeOnto? acc (cs.flatMap encodeChar) = some (cs.reverse ++ acc)
  | [] => rfl
  | c :: cs => by
      rw [List.flatMap_cons, decodeOnto?_encodeChar, decodeOnto?_flatMap (c :: acc) cs]
      simp

/-- The bytes of a text are read as that text. -/
@[simp] theorem decode?_encode (s : String) : decode? (encode s) = some s := by
  rw [decode?, encode, decodeOnto?_flatMap]
  simp

end Webhook.Utf8
