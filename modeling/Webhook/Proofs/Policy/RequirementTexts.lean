import Mathlib.Data.Option.Basic
import Webhook.Policy.Config
import Webhook.Proofs.Text.Cutting

/-!
# Requirements as texts

A requirement is written as a key, which may have blanks around it, and then nothing more or an
equals sign and a pattern.  `RequirementText` says so without reading the text.  Neither keys nor
blanks have an equals sign, so every text is written in exactly one way (`RequirementText.unique`,
`RequirementText.exists_parts`), if the key may be empty.

Reading a requirement finds this key and this pattern (`RequirementText.parse_eq`).  The pattern is
looked at before the key, which decides what is reported when both are bad.
-/

namespace Webhook

/-! ## How requirements are written -/

namespace RequirementText

/-- What can be read as a key: a text without an equals sign and without blanks at its ends. -/
structure IsKey (key : String) : Prop where
  /-- No equals sign is in it. -/
  noEquals : '=' ∉ key.toList
  /-- No blank is at its ends. -/
  trimmed : Text.IsTrimmed key.toList

instance : DecidablePred IsKey := fun key =>
  decidable_of_iff ('=' ∉ key.toList ∧ Text.trimChars key.toList = key.toList)
    ⟨fun h => ⟨h.1, Text.isTrimmed_iff.mpr h.2⟩, fun h => ⟨h.1, Text.isTrimmed_iff.mp h.2⟩⟩

end RequirementText

open RequirementText (IsKey)

/-- A text is made of a key with blanks around it and, if there is a pattern, of an equals sign and
the pattern. -/
inductive RequirementText : String → String → Option String → Prop where
  /-- There is no pattern. -/
  | bare {before key after : String} (hbefore : Text.isBlankText before = true) (hkey : IsKey key)
    (hafter : Text.isBlankText after = true) : RequirementText (before ++ key ++ after) key none
  /-- There is a pattern, which is all that follows the equals sign. -/
  | withPattern {before key after : String} (hbefore : Text.isBlankText before = true)
    (hkey : IsKey key) (hafter : Text.isBlankText after = true) (pattern : String) :
    RequirementText (before ++ key ++ after ++ "=" ++ pattern) key (some pattern)

namespace RequirementText

variable {text key : String} {pattern : Option String} {accepts : Validator} {e : ConfigError}

theorem not_mem_of_isBlankText {s : String} (h : Text.isBlankText s = true) : '=' ∉ s.toList := by
  intro hmem
  have hblank := Text.isPadding_iff.mp h '=' hmem
  exact absurd hblank (by decide)

theorem IsKey.not_mem_padded {before after : String} (hkey : IsKey key)
    (hbefore : Text.isBlankText before = true) (hafter : Text.isBlankText after = true) :
    '=' ∉ (before ++ key ++ after).toList := by
  rw [String.toList_append, String.toList_append, List.mem_append, List.mem_append]
  rintro ((h | h) | h)
  · exact not_mem_of_isBlankText hbefore h
  · exact hkey.noEquals h
  · exact not_mem_of_isBlankText hafter h

theorem IsKey.trim_padded {before after : String} (hkey : IsKey key)
    (hbefore : Text.isBlankText before = true) (hafter : Text.isBlankText after = true) :
    Text.trimChars (before ++ key ++ after).toList = key.toList := by
  rw [String.toList_append, String.toList_append]
  exact Text.trimChars_padded (Text.isPadding_iff.mp hbefore) (Text.isPadding_iff.mp hafter)
    hkey.trimmed

/-! ## Splitting at the first equals sign -/

theorem splitAtEquals_of_not_mem {cs : List Char} (h : '=' ∉ cs) :
    splitAtEquals cs = (cs, none) := by
  rw [splitAtEquals, Text.dropWhile_no_mark h]

theorem splitAtEquals_append {before : List Char} (h : '=' ∉ before) (rest : List Char) :
    splitAtEquals (before ++ '=' :: rest) = (before, some rest) := by
  rw [splitAtEquals, Text.dropWhile_to_mark h, Text.takeWhile_to_mark h]

/-- The text before the first equals sign is the key once it is trimmed, and the text behind it is
the pattern. -/
theorem split (h : RequirementText text key pattern) :
    ∃ front, splitAtEquals text.toList = (front, pattern.map String.toList) ∧
      Text.trimChars front = key.toList := by
  cases h with
  | bare hbefore hkey hafter =>
      exact ⟨_, splitAtEquals_of_not_mem (hkey.not_mem_padded hbefore hafter),
        hkey.trim_padded hbefore hafter⟩
  | @withPattern before _ after hbefore hkey hafter pattern =>
      refine ⟨_, ?_, hkey.trim_padded hbefore hafter⟩
      have htext : (before ++ key ++ after ++ "=" ++ pattern).toList =
          (before ++ key ++ after).toList ++ '=' :: pattern.toList := by simp
      rw [htext]
      exact splitAtEquals_append (hkey.not_mem_padded hbefore hafter) _

/-- A text is written in one way only. -/
theorem unique {key' : String} {pattern' : Option String}
    (h : RequirementText text key pattern) (h' : RequirementText text key' pattern') :
    key' = key ∧ pattern' = pattern := by
  obtain ⟨front, hsplit, hkey⟩ := h.split
  obtain ⟨front', hsplit', hkey'⟩ := h'.split
  obtain ⟨rfl, hpattern⟩ := Prod.mk.inj (hsplit'.symm.trans hsplit)
  exact ⟨String.ext (hkey'.symm.trans hkey),
    Option.map_injective (fun _ _ => String.ext) hpattern⟩

/-- A text without an equals sign is a key once it is trimmed. -/
theorem isKey_trim {s : String} (h : '=' ∉ s.toList) : IsKey (Text.trim s) where
  noEquals hmem := by
    obtain ⟨before, after, -, -, hs⟩ := Text.exists_padding s.toList
    rw [Text.toList_trim] at hmem
    rw [hs] at h
    exact h (List.mem_append_left _ (List.mem_append_right _ hmem))
  trimmed := by
    rw [Text.toList_trim]
    exact Text.isTrimmed_trimChars _

/-- Every text is written in some way. -/
theorem exists_parts (text : String) :
    ∃ key pattern, RequirementText text key pattern := by
  by_cases hmem : '=' ∈ text.toList
  · obtain ⟨front, rest, htext, hfree⟩ := List.eq_append_cons_of_mem hmem
    have hwhole : text = String.ofList front ++ "=" ++ String.ofList rest := by
      refine String.ext ?_
      rw [htext]
      simp
    have hkey : IsKey (Text.trim (String.ofList front)) := by
      refine isKey_trim ?_
      rwa [String.toList_ofList]
    obtain ⟨before, after, hbefore, hafter, hfront⟩ := Text.exists_blanks (String.ofList front)
    have h := withPattern hbefore hkey hafter (String.ofList rest)
    rw [← hfront, ← hwhole] at h
    exact ⟨_, _, h⟩
  · obtain ⟨before, after, hbefore, hafter, htext⟩ := Text.exists_blanks text
    have h := bare hbefore (isKey_trim hmem) hafter
    rw [← htext] at h
    exact ⟨_, _, h⟩

/-! ## Tests of values -/

/-- The test that a requirement makes of values. -/
def testOf : Option String → Except ConfigError Validator
  | none => .ok .any
  | some pattern => Validator.matching pattern

/-- A test is what a requirement asks for: without a pattern every value passes it, and with a
pattern those do that pass the test of the pattern. -/
def AsksFor : Option String → Validator → Prop
  | none, accepts => ∀ value, accepts value = true
  | some pattern, accepts =>
    ∃ test, Validator.matching pattern = .ok test ∧ ∀ value, accepts value = test value

/-- The pattern is not refused, if there is one. -/
def Compiles (pattern : Option String) : Prop :=
  ∀ p ∈ pattern, ∃ test, Validator.matching p = .ok test

theorem testOf_eq_ok : testOf pattern = .ok accepts ↔ AsksFor pattern accepts := by
  cases pattern with
  | none =>
      constructor
      · rintro ⟨⟩ value
        rfl
      · intro h
        exact congrArg Except.ok (funext fun value => (h value).symm)
  | some p =>
      constructor
      · intro h
        exact ⟨accepts, h, fun _ => rfl⟩
      · rintro ⟨test, h, hsame⟩
        rw [funext hsame]
        exact h

theorem compiles_iff : Compiles pattern ↔ ∃ accepts, testOf pattern = .ok accepts := by
  cases pattern with
  | none => exact iff_of_true nofun ⟨.any, rfl⟩
  | some p =>
      constructor
      · intro h
        exact h p rfl
      · rintro h _ ⟨⟩
        exact h

theorem matching_eq_error {p : String} (h : Validator.matching p = .error e) :
    ∃ f, e = .badPattern p f := by
  rw [Validator.matching] at h
  split at h
  next => cases h
  next f _ =>
    cases h
    exact ⟨f, rfl⟩

/-! ## Reading requirements -/

/-- The test is made first, and then there has to be a key. -/
theorem parse_eq (h : RequirementText text key pattern) :
    parseRequirement text = (testOf pattern).bind fun accepts =>
      if key = "" then .error (.badRequirement text) else .ok (key, accepts) := by
  obtain ⟨front, hsplit, hkey⟩ := h.split
  have hread : parseRequirement text = (testOf pattern).bind fun accepts =>
      if (String.ofList (Text.trimChars front)).isEmpty then .error (.badRequirement text)
      else .ok (String.ofList (Text.trimChars front), accepts) := by
    rw [parseRequirement, hsplit]
    cases pattern with
    | none => rfl
    | some p =>
        simp only [Option.map_some, String.ofList_toList]
        rfl
  rw [hread, hkey, String.ofList_toList]
  simp only [String.isEmpty_iff]

theorem parse_eq_ok (h : RequirementText text key pattern)
    {r : String × Validator} :
    parseRequirement text = .ok r ↔ key ≠ "" ∧ r.1 = key ∧ AsksFor pattern r.2 := by
  rw [h.parse_eq, ← testOf_eq_ok]
  cases testOf pattern with
  | error e => exact iff_of_false nofun fun h => nomatch h.2.2
  | ok accepts =>
      show (if key = "" then _ else _) = _ ↔ _
      split
      next hempty => exact iff_of_false nofun fun h => h.1 hempty
      next hne =>
        constructor
        · rintro ⟨⟩
          exact ⟨hne, rfl, rfl⟩
        · rintro ⟨-, hkey, haccepts⟩
          rw [← hkey, Except.ok.inj haccepts]

/-- What is read from a text that is made of a key and a pattern. -/
structure ReadAs (text key : String) (pattern : Option String) : Prop where
  /-- The key has no equals sign in it and no blanks at its ends. -/
  isKey : IsKey key
  /-- Something is read exactly if the key is not empty and the pattern is not refused. -/
  succeeds : (∃ r, parseRequirement text = .ok r) ↔ key ≠ "" ∧ Compiles pattern
  /-- It is this key, with the test that the pattern asks for. -/
  result : ∀ r, parseRequirement text = .ok r → r.1 = key ∧ AsksFor pattern r.2
  /-- A pattern that is refused is reported as it stands, even if the key is empty. -/
  badPattern : ∀ p ∈ pattern, ∀ e, Validator.matching p = .error e →
    ∃ f, e = .badPattern p f ∧ parseRequirement text = .error (.badPattern p f)
  /-- Otherwise an empty key is reported, with the whole text. -/
  badKey : key = "" → Compiles pattern → parseRequirement text = .error (.badRequirement text)

theorem isKey (h : RequirementText text key pattern) : IsKey key := by
  cases h with
  | bare _ hkey _ => exact hkey
  | withPattern _ hkey _ _ => exact hkey

theorem readAs (h : RequirementText text key pattern) :
    ReadAs text key pattern where
  isKey := h.isKey
  succeeds := by
    simp only [h.parse_eq_ok, compiles_iff, testOf_eq_ok, Prod.exists]
    constructor
    · rintro ⟨_, accepts, hne, -, haccepts⟩
      exact ⟨hne, accepts, haccepts⟩
    · rintro ⟨hne, accepts, haccepts⟩
      exact ⟨key, accepts, hne, rfl, haccepts⟩
  result r hr := (h.parse_eq_ok.mp hr).2
  badPattern p hp e he := by
    obtain ⟨f, rfl⟩ := matching_eq_error he
    cases hp
    refine ⟨f, rfl, ?_⟩
    rw [h.parse_eq, testOf, he]
    rfl
  badKey hempty hcompiles := by
    obtain ⟨accepts, haccepts⟩ := compiles_iff.mp hcompiles
    rw [h.parse_eq, haccepts, hempty]
    rfl

end RequirementText

/-- Every text is made of a key and a pattern in exactly one way: a key between blanks and, if there
is an equals sign, the pattern behind the first one.  This key is read from it, with the test that
the pattern asks for (`ReadAs`).  So a text that is put together from a key that is not empty,
blanks around it and a pattern is read as that key and the test of that pattern. -/
theorem parseRequirement_reads :
    (∀ text, ∃! r : String × Option String, RequirementText text r.1 r.2) ∧
    (∀ text key pattern, RequirementText text key pattern →
      RequirementText.ReadAs text key pattern) ∧
    ∀ before key after pattern accepts, Text.isBlankText before = true → IsKey key → key ≠ "" →
      Text.isBlankText after = true → Validator.matching pattern = .ok accepts →
      parseRequirement (before ++ key ++ after ++ "=" ++ pattern) = .ok (key, accepts) := by
  refine ⟨fun text => ?_, fun text key pattern h => h.readAs, ?_⟩
  · obtain ⟨key, pattern, h⟩ := RequirementText.exists_parts text
    refine ⟨(key, pattern), h, fun r hr => ?_⟩
    obtain ⟨hkey, hpattern⟩ := h.unique hr
    exact Prod.ext hkey hpattern
  · intro before key after pattern accepts hbefore hkey hne hafter hmatching
    have h := RequirementText.withPattern hbefore hkey hafter pattern
    exact h.parse_eq_ok.mpr ⟨hne, rfl, accepts, hmatching, fun _ => rfl⟩

/-- A key between wide blanks with a pattern that has an equals sign and a blank, and an empty key
with a pattern that is refused. -/
theorem parseRequirement_reads_samples :
    (∃ accepts, Validator.matching "a=b " = .ok accepts ∧
      parseRequirement "\u3000team\t=a=b " = .ok ("team", accepts)) ∧
    ∃ f, parseRequirement " =(" = .error (.badPattern "(" f) := by
  obtain ⟨-, hreads, htogether⟩ := parseRequirement_reads
  constructor
  · obtain ⟨accepts, haccepts⟩ : ∃ accepts, Validator.matching "a=b " = .ok accepts := ⟨_, rfl⟩
    exact ⟨accepts, haccepts, htogether "\u3000" "team" "\t" "a=b " accepts (by decide +kernel)
      (by decide +kernel) (by decide) (by decide +kernel) haccepts⟩
  · obtain ⟨e, he⟩ : ∃ e, Validator.matching "(" = .error e := ⟨_, rfl⟩
    have hempty : IsKey "" := by decide +kernel
    have htext : RequirementText (" " ++ "" ++ "" ++ "=" ++ "(") "" (some "(") :=
      .withPattern (by decide +kernel) hempty rfl "("
    obtain ⟨f, -, hread⟩ := (hreads _ _ _ htext).badPattern "(" rfl e he
    exact ⟨f, hread⟩

end Webhook
