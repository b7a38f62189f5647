import Mathlib.Data.List.DropRight
import Webhook.Text.Blank

/-!
# Cutting a text

A text that has a mark in it is cut at the first one (`takeWhile_to_mark`, `dropWhile_to_mark`).

Trimming takes the blanks at both ends.  What is left has no blank at its ends (`IsTrimmed`) and the
text is that with blanks around it (`exists_padding`).  No other text is trimmed and makes up the
text with blanks around it (`trimChars_padded`).
-/

namespace Webhook.Text

/-! ## At a mark -/

section Mark

variable {mark : Char} {before : List Char}

theorem bne_mark (h : mark ∉ before) : ∀ c ∈ before, (c != mark) = true :=
  fun _ hc => bne_iff_ne.mpr (ne_of_mem_of_not_mem hc h)

theorem takeWhile_to_mark (h : mark ∉ before) (rest : List Char) :
    (before ++ mark :: rest).takeWhile (· != mark) = before := by
  rw [List.takeWhile_append_of_pos (bne_mark h), List.takeWhile_cons_of_neg (by simp),
    List.append_nil]

theorem dropWhile_to_mark (h : mark ∉ before) (rest : List Char) :
    (before ++ mark :: rest).dropWhile (· != mark) = mark :: rest := by
  rw [List.dropWhile_append_of_pos (bne_mark h), List.dropWhile_cons_of_neg (by simp)]

theorem dropWhile_no_mark (h : mark ∉ before) : before.dropWhile (· != mark) = [] :=
  List.dropWhile_eq_nil_iff.mpr (bne_mark h)

end Mark

/-! ## Blanks at the ends -/

/-- No blank stands at either end of a text. -/
structure IsTrimmed (cs : List Char) : Prop where
  /-- The first character, if there is one, is no blank. -/
  first : ∀ c ∈ cs.head?, isBlank c = false
  /-- Neither is the last one. -/
  last : ∀ c ∈ cs.getLast?, isBlank c = false

/-- Nothing but blanks is in a text. -/
def IsPadding (cs : List Char) : Prop := ∀ c ∈ cs, isBlank c = true

theorem isPadding_iff {s : String} : isBlankText s = true ↔ IsPadding s.toList :=
  List.all_eq_true

theorem head?_dropWhile_blank {cs : List Char} {c : Char} (h : c ∈ (cs.dropWhile isBlank).head?) :
    isBlank c = false := by
  have hfirst := List.head?_dropWhile_not isBlank cs
  rw [h] at hfirst
  exact hfirst

theorem dropWhile_padded {blanks cs : List Char} (hblanks : IsPadding blanks)
    (h : ∀ c ∈ cs.head?, isBlank c = false) : (blanks ++ cs).dropWhile isBlank = cs := by
  rw [List.dropWhile_append_of_pos hblanks]
  cases cs with
  | nil => rfl
  | cons c cs => exact List.dropWhile_cons_of_neg (Bool.not_eq_true _ ▸ h c rfl)

/-- Trimming takes from the front and then from the back. -/
theorem trimChars_eq (cs : List Char) :
    trimChars cs = (cs.dropWhile isBlank).rdropWhile isBlank := rfl

theorem isTrimmed_trimChars (cs : List Char) : IsTrimmed (trimChars cs) where
  first c hc := by
    have hkept : trimChars cs ++ (cs.dropWhile isBlank).rtakeWhile isBlank = cs.dropWhile isBlank :=
      List.rdropWhile_append_rtakeWhile
    have hfirst : c ∈ (cs.dropWhile isBlank).head? := by
      rw [← hkept, List.head?_append, hc]
      rfl
    exact head?_dropWhile_blank hfirst
  last c hc := by
    rw [trimChars, List.getLast?_reverse] at hc
    exact head?_dropWhile_blank hc

/-- A text is what trimming leaves of it with blanks around it. -/
theorem exists_padding (cs : List Char) : ∃ before after, IsPadding before ∧ IsPadding after ∧
    cs = before ++ trimChars cs ++ after := by
  refine ⟨cs.takeWhile isBlank, (cs.dropWhile isBlank).rtakeWhile isBlank,
    fun c => List.mem_takeWhile_imp, fun c => List.mem_rtakeWhile_imp, ?_⟩
  rw [List.append_assoc, trimChars_eq, List.rdropWhile_append_rtakeWhile,
    List.takeWhile_append_dropWhile]

/-- Trimming takes the blanks around a trimmed text, and nothing else. -/
theorem trimChars_padded {before cs after : List Char} (hbefore : IsPadding before)
    (hafter : IsPadding after) (h : IsTrimmed cs) : trimChars (before ++ cs ++ after) = cs := by
  have hreverse : IsPadding after.reverse := fun c hc => hafter c (List.mem_reverse.mp hc)
  cases cs with
  | nil =>
      have hall : (before ++ [] ++ after).dropWhile isBlank = [] := by
        rw [List.append_nil, List.dropWhile_eq_nil_iff]
        exact List.forall_mem_append.mpr ⟨hbefore, hafter⟩
      rw [trimChars, hall]
      rfl
  | cons c cs =>
      have hfront : (before ++ (c :: cs) ++ after).dropWhile isBlank = c :: cs ++ after := by
        rw [List.append_assoc]
        exact dropWhile_padded hbefore h.first
      have hback : (c :: cs ++ after).reverse.dropWhile isBlank = (c :: cs).reverse := by
        rw [List.reverse_append]
        refine dropWhile_padded hreverse ?_
        rw [List.head?_reverse]
        exact h.last
      rw [trimChars, hfront, hback, List.reverse_reverse]

theorem isTrimmed_iff {cs : List Char} : IsTrimmed cs ↔ trimChars cs = cs := by
  constructor
  · intro h
    have hnone : IsPadding [] := List.forall_mem_nil _
    have hpadded := trimChars_padded hnone hnone h
    rwa [List.nil_append, List.append_nil] at hpadded
  · intro h
    exact h ▸ isTrimmed_trimChars cs

theorem toList_trim (s : String) : (trim s).toList = trimChars s.toList :=
  String.toList_ofList

theorem isBlankText_ofList {cs : List Char} (h : IsPadding cs) :
    isBlankText (String.ofList cs) = true := by
  rwa [isPadding_iff, String.toList_ofList]

/-- A text is what trimming leaves of it between two blank texts. -/
theorem exists_blanks (s : String) : ∃ before after, isBlankText before = true ∧
    isBlankText after = true ∧ s = before ++ trim s ++ after := by
  obtain ⟨before, after, hbefore, hafter, hs⟩ := exists_padding s.toList
  refine ⟨String.ofList before, String.ofList after, isBlankText_ofList hbefore,
    isBlankText_ofList hafter, String.ext ?_⟩
  rw [String.toList_append, String.toList_append, String.toList_ofList, String.toList_ofList,
    toList_trim]
  exact hs

end Webhook.Text
