import Webhook.Policy.Config
import Webhook.Proofs.Pattern.Wrapping

/-!
# Patterns for whole values

`Validator.matching` looks for a pattern in an anchored group.  For a pattern this is the same as
matching the whole value (`Validator.matching_whole`), whatever the pattern is made of.

Only the text in the anchored group is read, and it may be a pattern although its own text is not
one, or the other way round.  `Validator.screens_iff` says when the two agree.
-/

namespace Webhook.Validator

open Pattern

variable {pattern value : String} {e : Regex} {accepts : Validator}

/-! ## Values -/

/-- What an anchored group is compiled to. -/
theorem matching_cases (pattern : String) :
    (∃ e, Denotes (anchored pattern) e ∧ (matching pattern = .ok (Pattern.mk e).isFoundIn ∨
      matching pattern = .error (.badPattern pattern .tooLarge))) ∨
    ¬Valid (anchored pattern) ∧
      ∃ f, matching pattern = .error (.badPattern pattern (.fault (anchored pattern) f)) := by
  unfold matching Pattern.compile
  cases hparse : parse (anchored pattern) with
  | error f =>
      refine .inr ⟨?_, f, rfl⟩
      rintro ⟨e, m, hm, -⟩
      cases hparse.symm.trans hm
  | ok m =>
      dsimp only
      cases hregex : m.toRegex with
      | error f =>
          refine .inr ⟨?_, f, rfl⟩
          rintro ⟨e, m', hm', he⟩
          obtain rfl := Except.ok.inj (hparse.symm.trans hm')
          cases hregex.symm.trans he
      | ok e =>
          refine .inl ⟨e, ⟨m, hparse, hregex⟩, ?_⟩
          dsimp only
          split
          next hsize =>
            split at hsize
            · cases hsize
            · obtain rfl := Except.ok.inj hsize
              exact .inl rfl
          next hsize =>
            split at hsize
            · obtain rfl := Except.error.inj hsize
              exact .inr rfl
            · cases hsize

/-- The test made from a pattern accepts a value exactly when the pattern matches the whole
value. -/
theorem matching_whole (hpattern : Denotes pattern e) (h : matching pattern = .ok accepts)
    (value : String) : accepts value = true ↔ e.Matches none value.toList none := by
  have hopened : ¬Unopened pattern := fun hopened => hopened.not_denotes hpattern
  rcases matching_cases pattern with ⟨e', he', hok | herror⟩ | ⟨-, f, hf⟩
  · obtain ⟨⟨d, hd, rfl⟩, -⟩ := (denotes_anchored_iff hopened).mp he'
    obtain rfl := hpattern.unique hd
    obtain rfl := Except.ok.inj (h.symm.trans hok)
    exact Regex.search_anchored hpattern.counted
  · cases h.symm.trans herror
  · cases h.symm.trans hf

theorem matching_whole_alternation :
    ∃ accepts, matching "a|b" = .ok accepts ∧ ∀ value : String, accepts value = true ↔
      (Regex.alt (.chars [(97, 97)]) (.alt (.chars [(98, 98)]) (.chars []))).Matches none
        value.toList none := by
  obtain ⟨accepts, h⟩ : ∃ accepts, matching "a|b" = .ok accepts := ⟨_, rfl⟩
  exact ⟨accepts, h, matching_whole ⟨_, rfl, rfl⟩ h⟩

/-! ## Texts that are taken -/

/-- A text is taken as a pattern, apart from the limit on the size of its automaton. -/
def Takes (text : String) : Prop :=
  (∃ accepts, matching text = .ok accepts) ∨ matching text = .error (.badPattern text .tooLarge)

/-- A text is refused as a pattern, with a fault. -/
def Refuses (text : String) : Prop :=
  ∃ f, matching text = .error (.badPattern text (.fault (anchored text) f))

/-- A text is taken if it is a pattern by itself, and refused otherwise. -/
structure Screens (text : String) : Prop where
  /-- A pattern is taken. -/
  takes : Valid text → Takes text
  /-- Any other text is refused. -/
  refuses : ¬Valid text → Refuses text

/-- A parenthesis of a text closes the group that is put around it, and what that makes of the
text is taken. -/
def Escapes (text : String) : Prop := Unopened text ∧ Takes text

theorem takes_iff : Takes pattern ↔ Valid (anchored pattern) := by
  rcases matching_cases pattern with ⟨e, he, htaken⟩ | ⟨hinvalid, f, hf⟩
  · have htakes : Takes pattern := htaken.imp_left fun h => ⟨_, h⟩
    exact iff_of_true htakes ⟨e, he⟩
  · refine iff_of_false ?_ hinvalid
    rintro (⟨accepts, h⟩ | h) <;> cases hf.symm.trans h

theorem refuses_iff : Refuses pattern ↔ ¬Valid (anchored pattern) := by
  rcases matching_cases pattern with ⟨e, he, htaken⟩ | ⟨hinvalid, hrefused⟩
  · refine iff_of_false ?_ (not_not_intro ⟨e, he⟩)
    rintro ⟨f, hf⟩
    rcases htaken with h | h <;> cases hf.symm.trans h
  · exact iff_of_true hrefused hinvalid

theorem screens_iff_valid : Screens pattern ↔ (Valid pattern ↔ Valid (anchored pattern)) := by
  constructor
  · rintro ⟨htakes, hrefuses⟩
    exact ⟨fun h => takes_iff.mp (htakes h),
      fun h => by_contra fun hp => refuses_iff.mp (hrefuses hp) h⟩
  · intro h
    exact ⟨fun hp => takes_iff.mpr (h.mp hp), fun hp => refuses_iff.mpr (mt h.mpr hp)⟩

/-- A text is screened exactly when it does not escape from its group and, if it is a pattern, does
not end in a comment and may stand inside two more parts. -/
theorem screens_iff (pattern : String) : Screens pattern ↔
    ¬Escapes pattern ∧ (Valid pattern → ¬Swallows pattern ∧ Shallow pattern) := by
  rw [screens_iff_valid, Escapes, takes_iff]
  by_cases hopened : Unopened pattern
  · have hinvalid := hopened.not_valid
    constructor
    · intro h
      exact ⟨fun hescapes => hinvalid (h.mpr hescapes.2), fun hp => absurd hp hinvalid⟩
    · rintro ⟨hescapes, -⟩
      exact iff_of_false hinvalid fun h => hescapes ⟨hopened, h⟩
  · have hwhole : Valid (anchored pattern) ↔
        Valid pattern ∧ ¬Swallows pattern ∧ Shallow pattern := by
      constructor
      · rintro ⟨e, he⟩
        obtain ⟨⟨d, hd, -⟩, hrest⟩ := (denotes_anchored_iff hopened).mp he
        exact ⟨⟨d, hd⟩, hrest⟩
      · rintro ⟨⟨d, hd⟩, hrest⟩
        exact ⟨d.anchored, (denotes_anchored_iff hopened).mpr ⟨⟨d, hd, rfl⟩, hrest⟩⟩
    rw [hwhole]
    constructor
    · intro h
      exact ⟨fun hescapes => hopened hescapes.1, fun hp => (h.mp hp).2⟩
    · rintro ⟨-, h⟩
      exact ⟨fun hp => ⟨hp, h hp⟩, And.left⟩

/-- A comment takes the parenthesis that is to close the group. -/
example : Valid "(?x)a#" ∧ Refuses "(?x)a#" := ⟨⟨_, _, rfl, rfl⟩, _, rfl⟩

/-- The parenthesis of this text closes the group around it, and the bar behind it separates the
end of the value from the start. -/
theorem not_screens_closedGroup : ¬Screens "a)|(?:b" ∧
    ∃ accepts, matching "a)|(?:b" = .ok accepts ∧ accepts "abc" = true := by
  refine ⟨fun h => ?_, _, rfl, by decide⟩
  have hinvalid : ¬Valid "a)|(?:b" := Unopened.not_valid ⟨_, rfl, rfl⟩
  obtain ⟨f, hf⟩ := h.refuses hinvalid
  cases hf

end Webhook.Validator
