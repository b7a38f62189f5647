import Webhook.Proofs.CommandLine.ListOptions
import Webhook.Proofs.LogFilter.Directives

/-!
# Filters behind other filters

A filter is made of directives with commas between them, and empty parts do not count (`IsFilter`).
The check accepts exactly the filters (`check_eq_ok_iff`).

The directives that quieten the dependencies of the server stand in front of every filter, with a
comma in between.  They never decide whether it is valid (`checkBehindQuiet_iff`).  The reason is
that the directives of two texts with a comma between them are those of the first and then those of
the second, whatever the texts are (`directives_append_comma`), and that each directive is checked
for itself.
-/

namespace Webhook.LogFilter

open CommandLine (PartedAtCommas partedAtCommas_splitOn)

/-- A filter: each of its parts between commas is empty or a directive. -/
def IsFilter (filter : String) : Prop :=
  ∃ parts, PartedAtCommas filter parts ∧ ∀ part ∈ parts, part = "" ∨ IsDirective part.toList

/-! ## Texts with commas between them -/

/-- A comma ends a directive wherever it stands, also inside brackets and braces. -/
theorem directives_append_comma (a b : String) :
    directives (a ++ "," ++ b) = directives a ++ directives b := by
  have htext : (a ++ "," ++ b).toList = a.toList ++ ',' :: b.toList := by simp
  have hparts : (a.toList ++ ',' :: b.toList).splitOn ',' =
      a.toList.splitOn ',' ++ b.toList.splitOn ',' :=
    List.splitOnP_append_cons _ _ (beq_self_eq_true ',')
  rw [directives, htext, hparts, List.filter_append, ← directives, ← directives]

/-- The second text is looked at if the first one is valid. -/
theorem check_append_comma (a b : String) :
    check (a ++ "," ++ b) = (check a).bind fun _ => check b := by
  rw [check, directives_append_comma]
  exact List.forM_append

theorem check_append_comma_eq_ok {a b : String} :
    check (a ++ "," ++ b) = .ok () ↔ check a = .ok () ∧ check b = .ok () := by
  rw [check_append_comma]
  cases check a with
  | error e => exact iff_of_false nofun nofun
  | ok u => exact ⟨fun h => ⟨rfl, h⟩, And.right⟩

/-- Texts with commas between them are valid together exactly when each of them is valid. -/
theorem check_intercalate : ∀ {parts : List String}, parts ≠ [] →
    (check (",".intercalate parts) = .ok () ↔ ∀ part ∈ parts, check part = .ok ())
  | [part], _ => by rw [String.intercalate_singleton, List.forall_mem_singleton]
  | first :: second :: rest, _ => by
      rw [List.forall_mem_cons, ← check_intercalate (List.cons_ne_nil second rest),
        String.intercalate_cons_cons, check_append_comma_eq_ok]

/-- A text without commas is one directive, unless it is empty. -/
theorem check_part {part : String} (hfree : ',' ∉ part.toList) :
    check part = .ok () ↔ part = "" ∨ IsDirective part.toList := by
  rw [check, directives, List.splitOn_eq_singleton hfree, ← checkDirective_eq_ok]
  by_cases hempty : part = ""
  · subst hempty
    exact iff_of_true rfl (.inl rfl)
  · have hkept : [part.toList].filter (fun d => !d.isEmpty) = [part.toList] := by
      simpa using hempty
    rw [hkept, or_iff_right hempty]
    show (checkDirective part.toList >>= fun _ => .ok ()) = _ ↔ _
    cases checkDirective part.toList <;> rfl

theorem check_parts {filter : String} {parts : List String} (h : PartedAtCommas filter parts) :
    check filter = .ok () ↔ ∀ part ∈ parts, part = "" ∨ IsDirective part.toList := by
  have hwhole : ",".intercalate parts = filter :=
    String.ext (String.toList_intercalate.trans h.whole)
  rw [← hwhole, check_intercalate h.nonempty]
  exact forall₂_congr fun part hpart => check_part (h.free part hpart)

/-- The check accepts the filters. -/
theorem check_eq_ok_iff {filter : String} : check filter = .ok () ↔ IsFilter filter := by
  constructor
  · intro h
    have hparted := partedAtCommas_splitOn filter
    exact ⟨_, hparted, (check_parts hparted).mp h⟩
  · rintro ⟨parts, hparted, hparts⟩
    exact (check_parts hparted).mpr hparts

/-! ## Behind the quiet directives -/

theorem check_quietDirectives : check (",".intercalate quietDirectives) = .ok () := by
  decide +kernel

theorem withQuiet_eq (filter : String) :
    withQuiet filter = ",".intercalate quietDirectives ++ "," ++ filter := rfl

/-- The check of a filter behind the quiet directives stops as the check of it alone. -/
theorem check_withQuiet (filter : String) : check (withQuiet filter) = check filter := by
  rw [withQuiet_eq, check_append_comma, check_quietDirectives]
  rfl

theorem checkBehindQuiet_eq (filter : String) :
    checkBehindQuiet filter = (check filter).mapError (.ofStop filter) := by
  rw [checkBehindQuiet, check_withQuiet]
  cases check filter <;> rfl

/-- The directives that quieten the dependencies never decide whether a text is valid as a filter.
Behind them it is taken exactly when it is taken alone, that is when each of its parts between
commas is empty or a directive.  Otherwise it is refused with the same fault, or its check breaks
off as it does alone. -/
theorem checkBehindQuiet_iff (filter : String) :
    (checkBehindQuiet filter = .ok () ↔ check filter = .ok ()) ∧
    (check filter = .ok () ↔ IsFilter filter) ∧
    ∀ e, checkBehindQuiet filter = .error e ↔
      ∃ stop, check filter = .error stop ∧ e = .ofStop filter stop := by
  rw [checkBehindQuiet_eq]
  refine ⟨?_, check_eq_ok_iff, fun e => ?_⟩
  · cases check filter with
    | error stop => exact iff_of_false nofun nofun
    | ok u => exact iff_of_true rfl rfl
  · cases check filter with
    | error stop =>
        constructor
        · rintro ⟨⟩
          exact ⟨stop, rfl, rfl⟩
        · rintro ⟨_, ⟨⟩, rfl⟩
          rfl
    | ok u => exact iff_of_false nofun nofun

-- The comma between two fields of a span divides the directive, and neither half is one.
example : (checkBehindQuiet ",app[request\x7bid=1\x7d]=info,,").toBool = true := by decide +kernel
example : (checkBehindQuiet "app[request\x7bid=1,ok\x7d]=info").toBool = false := by decide +kernel

end Webhook.LogFilter
