import Mathlib.Data.List.TakeWhile
import Webhook.Http.Message

/-!
# Paths that are asked for

The path of a target ends at its query or its fragment, and up to there all of its characters are
characters of a path.  So the texts that a request can be on are few (`Http.IsPath`), and among
those that start with a slash they are all there are (`Http.exists_request_iff`).
-/

namespace Webhook

open Text (byteLength)

theorem Text.byteLength_le_of_sublist {a b : List Char} (h : a.Sublist b) :
    byteLength a ≤ byteLength b := by
  induction h with
  | slnil => exact Nat.le_refl _
  | cons c _ ih => exact Nat.le_add_left_of_le ih
  | cons_cons c _ ih => exact Nat.add_le_add_left ih _

namespace Http

open Target (isPathChar isLocator withoutQuery form isTarget)

/-- A text that can be the path of a target: it has no character that a path cannot have, and it is
not too long. -/
def IsPath (text : String) : Prop :=
  byteLength text.toList ≤ Target.maxLength ∧ ∀ c ∈ text.toList, isPathChar c = true

instance (text : String) : Decidable (IsPath text) :=
  decidable_of_iff (byteLength text.toList ≤ Target.maxLength ∧ text.toList.all isPathChar = true)
    (by rw [IsPath, List.all_eq_true])

namespace Target

theorem keeps_of_isPathChar {c : Char} (h : isPathChar c = true) :
    (c != '?' && c != '#') = true := by
  rw [Bool.and_eq_true, bne_iff_ne, bne_iff_ne]
  constructor
  · rintro rfl
    exact absurd h (by decide)
  · rintro rfl
    exact absurd h (by decide)

/-- What stands before the query is all that is made of characters of a path. -/
theorem withoutQuery_eq_takeWhile {text : List Char} (h : isLocator text = true) :
    withoutQuery text = text.takeWhile isPathChar := by
  have hkeep : ∀ c ∈ text.takeWhile isPathChar, (c != '?' && c != '#') = true :=
    fun c hc => keeps_of_isPathChar (List.mem_takeWhile_imp hc)
  have hend : withoutQuery (text.dropWhile isPathChar) = [] := by
    rw [isLocator] at h
    cases hrest : text.dropWhile isPathChar with
    | nil => rfl
    | cons c rest =>
        rw [withoutQuery, List.takeWhile_cons_of_neg]
        by_cases hquery : c = '?'
        · simp [hquery]
        · rw [hrest] at h
          split at h
          next hcons => exact absurd (List.cons.inj hcons).1 hquery
          next =>
            have hfragment : c = '#' := beq_iff_eq.mp h
            simp [hfragment]
  calc withoutQuery text
      = withoutQuery (text.takeWhile isPathChar ++ text.dropWhile isPathChar) := by
        rw [List.takeWhile_append_dropWhile]
    _ = text.takeWhile isPathChar ++ withoutQuery (text.dropWhile isPathChar) :=
        List.takeWhile_append_of_pos hkeep
    _ = text.takeWhile isPathChar := by rw [hend, List.append_nil]

/-- A text whose characters are characters of a path has no query. -/
theorem withoutQuery_of_isPathChar {text : List Char} (h : ∀ c ∈ text, isPathChar c = true) :
    withoutQuery text = text :=
  List.takeWhile_eq_self_iff.mpr fun c hc => keeps_of_isPathChar (h c hc)

theorem isLocator_of_isPathChar {text : List Char} (h : ∀ c ∈ text, isPathChar c = true) :
    isLocator text = true := by
  have hnone : text.dropWhile isPathChar = [] := List.dropWhile_eq_nil_iff.mpr h
  rw [isLocator, hnone]
  rfl

/-- The path of a locator is a part of it, and made of characters of a path. -/
theorem isPathChar_of_mem_withoutQuery {text : List Char} (h : isLocator text = true) :
    ∀ c ∈ withoutQuery text, isPathChar c = true := by
  rw [withoutQuery_eq_takeWhile h]
  exact fun c hc => List.mem_takeWhile_imp hc

theorem withoutQuery_sublist (text : List Char) : (withoutQuery text).Sublist text :=
  List.takeWhile_sublist _

/-- The locator of an address stands at its end. -/
theorem sublist_of_form_address {text scheme name locator : List Char}
    (h : form text = .address scheme name locator) : locator.Sublist text := by
  rw [form.eq_def] at h
  split at h
  next => cases h
  next => cases h
  next =>
    split at h
    next located hlocated =>
      obtain ⟨-, -, rfl⟩ := Form.address.inj h
      refine (List.dropWhile_sublist _).trans (.trans ?_ (List.dropWhile_sublist isSchemeChar))
      rw [hlocated]
      exact .cons _ (.cons _ (.cons _ (.refl _)))
    next => cases h

theorem eq_of_form_place {text locator : List Char} (h : form text = .place locator) :
    locator = text := by
  rw [form.eq_def] at h
  split at h
  next => exact (Form.place.inj h).symm
  next => cases h
  next =>
    split at h
    next => cases h
    next => cases h

/-- The path of a target can be one. -/
theorem isPath_path (t : Target) : IsPath t.path := by
  obtain ⟨hlength, hform⟩ := Bool.and_eq_true_iff.mp t.wellFormed
  have hlength : byteLength t.text.toList ≤ maxLength := of_decide_eq_true hlength
  rw [IsPath, path, String.toList_ofList]
  cases hcase : form t.text.toList with
  | place locator =>
      rw [hcase] at hform
      obtain rfl := eq_of_form_place hcase
      refine ⟨?_, isPathChar_of_mem_withoutQuery hform⟩
      exact Nat.le_trans (Text.byteLength_le_of_sublist (withoutQuery_sublist _)) hlength
  | whole => exact ⟨by decide, List.forall_mem_singleton.mpr rfl⟩
  | host name => exact ⟨Nat.zero_le _, fun c hc => absurd hc List.not_mem_nil⟩
  | address scheme name locator =>
      rw [hcase] at hform
      have hlocator : isLocator locator = true := (Bool.and_eq_true_iff.mp hform).2
      rw [Form.path]
      split
      next => exact ⟨by decide, List.forall_mem_singleton.mpr rfl⟩
      next =>
        refine ⟨?_, isPathChar_of_mem_withoutQuery hlocator⟩
        have hpart := (withoutQuery_sublist locator).trans (sublist_of_form_address hcase)
        exact Nat.le_trans (Text.byteLength_le_of_sublist hpart) hlength

theorem form_of_slash {text : List Char} (h : text.head? = some '/') : form text = .place text := by
  obtain ⟨rest, rfl⟩ := List.head?_eq_some_iff.mp h
  rfl

theorem isTarget_of_isPath {text : String} (hslash : text.toList.head? = some '/')
    (h : IsPath text) : isTarget text.toList = true := by
  rw [isTarget, form_of_slash hslash, Bool.and_eq_true_iff]
  exact ⟨decide_eq_true h.1, isLocator_of_isPathChar h.2⟩

/-- The target that asks for a path. -/
def ofPath {text : String} (hslash : text.toList.head? = some '/') (h : IsPath text) : Target :=
  ⟨text, isTarget_of_isPath hslash h⟩

theorem path_ofPath {text : String} (hslash : text.toList.head? = some '/') (h : IsPath text) :
    (ofPath hslash h).path = text := by
  show String.ofList (form text.toList).path = text
  rw [form_of_slash hslash]
  show String.ofList (withoutQuery text.toList) = text
  rw [withoutQuery_of_isPathChar h.2, String.ofList_toList]

end Target

/-- The texts that a request can be on, among those that start with a slash. -/
theorem exists_request_iff {text : String} (hslash : text.toList.head? = some '/') :
    (∃ request : Request, request.path = text) ↔ IsPath text := by
  constructor
  · rintro ⟨request, rfl⟩
    exact request.target.isPath_path
  · intro h
    exact ⟨⟨"GET", Target.ofPath hslash h, [], []⟩, Target.path_ofPath hslash h⟩

end Http
end Webhook
