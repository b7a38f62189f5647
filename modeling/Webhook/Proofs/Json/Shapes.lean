import Webhook.Proofs.Json.Values

/-!
# The value of a piece of data

`Shape.toValue` is the value that is printed for a piece of data (`Shape.print_eq`), with the
members of a record in the order of its fields.  An optional value that is absent has no member.

Data holds no floating point number as long as the values in it hold none.  A shape without such
values (`Shape.anyFree`) never has any.
-/

namespace Webhook.Json

/-! ## The value of a piece of data -/

mutual

/-- The value that is printed for a piece of data. -/
def Shape.toValue : (s : Shape) → s.Val → Value
  | .text, s => .string s
  | .flag, b => .bool b
  | .short, n => .number (.whole (n.val : Int))
  | .any, v => v
  | .choice words, i => .string (words.get i)
  | .optional _, none => .null
  | .optional s, some v => s.toValue v
  | .list s, vs => .list (vs.map s.toValue)
  | .table s, es => .object (es.map fun e => (e.1, s.toValue e.2))
  | .record _ fields, v => .object (fields.toMembers v)
  | .looseRecord _ fields, v => .object (fields.toMembers v)
termination_by structural s => s

/-- The members that are printed for the fields of a record. -/
def Fields.toMembers : (fields : Fields) → fields.Val → List (String × Value)
  | .nil, _ => []
  | .cons name _ s rest, (v, vs) =>
    if s.isAbsent v then rest.toMembers vs else (name, s.toValue v) :: rest.toMembers vs
termination_by structural fields => fields

end

theorem printItems_map {α : Type} {toValue : α → Value} {print : α → List Char}
    (h : ∀ v, print v = (toValue v).print) :
    ∀ vs : List α, printItems (vs.map toValue) = vs.map print
  | [] => rfl
  | v :: vs => by rw [List.map_cons, List.map_cons, printItems, printItems_map h vs, h v]

theorem printMembers_map {α : Type} {toValue : α → Value} {print : α → List Char}
    (h : ∀ v, print v = (toValue v).print) :
    ∀ es : List (String × α), printMembers (es.map fun e => (e.1, toValue e.2))
      = es.map fun e => printMember e.1 (print e.2)
  | [] => rfl
  | e :: es => by
      rw [List.map_cons, List.map_cons, printMembers, printMembers_map h es, printMemberOf, h e.2]

mutual

theorem Shape.print_eq : ∀ (s : Shape) (v : s.Val), s.print v = (s.toValue v).print
  | .text, _ => rfl
  | .flag, _ => rfl
  | .short, _ => rfl
  | .any, _ => rfl
  | .choice _, _ => rfl
  | .optional _, none => rfl
  | .optional s, some v => s.print_eq v
  | .list s, vs => (congrArg printList (printItems_map s.print_eq vs)).symm
  | .table s, es => (congrArg printObject (printMembers_map s.print_eq es)).symm
  | .record _ fields, v => by
      rw [Shape.print, Shape.toValue, Value.print, fields.print_eq v]
  | .looseRecord _ fields, v => by
      rw [Shape.print, Shape.toValue, Value.print, fields.print_eq v]

theorem Fields.print_eq : ∀ (fields : Fields) (v : fields.Val),
    fields.print v = printMembers (fields.toMembers v)
  | .nil, _ => rfl
  | .cons name _ s rest, (v, vs) => by
      rw [Fields.print, Fields.toMembers]
      split
      next => exact rest.print_eq vs
      next => rw [printMembers, printMemberOf, rest.print_eq vs, s.print_eq v]

end

/-! ## Shapes without numbers of their own -/

mutual

/-- Whether a shape has no part that may be any value. -/
def Shape.anyFree : Shape → Bool
  | .any => false
  | .optional s | .list s | .table s => s.anyFree
  | .record _ fields | .looseRecord _ fields => fields.anyFree
  | _ => true
termination_by structural s => s

/-- Whether no field of a record has a part that may be any value. -/
def Fields.anyFree : Fields → Bool
  | .nil => true
  | .cons _ _ s rest => s.anyFree && rest.anyFree
termination_by structural fields => fields

end

theorem Shape.toValue_of_isAbsent :
    ∀ {s : Shape} {v : s.Val}, s.isAbsent v = true → s.toValue v = .null
  | .optional _, none, _ => rfl

/-- The members of a record hold no floating point number if the values of its fields do not. -/
theorem membersFloatFree_cons {name : String} {required : Bool} {s : Shape} {rest : Fields}
    {v : s.Val} {vs : rest.Val} :
    membersFloatFree ((Fields.cons name required s rest).toMembers (v, vs))
      = ((s.toValue v).floatFree && membersFloatFree (rest.toMembers vs)) := by
  rw [Fields.toMembers]
  split
  next h =>
    rw [Shape.toValue_of_isAbsent h]
    rfl
  next => rfl

theorem membersFloatFree_field {name : String} {required : Bool} {s : Shape} {rest : Fields}
    {v : s.Val} {vs : rest.Val} (hv : (s.toValue v).floatFree = true)
    (hvs : membersFloatFree (rest.toMembers vs) = true) :
    membersFloatFree ((Fields.cons name required s rest).toMembers (v, vs)) = true := by
  rw [membersFloatFree_cons, hv, hvs]
  rfl

mutual

/-- Data without any value in it holds no floating point number. -/
theorem Shape.floatFree_of_anyFree : ∀ (s : Shape) (v : s.Val), s.anyFree = true →
    (s.toValue v).floatFree = true
  | .text, _, _ => rfl
  | .flag, _, _ => rfl
  | .short, _, _ => rfl
  | .choice _, _, _ => rfl
  | .optional _, none, _ => rfl
  | .optional s, some v, h => s.floatFree_of_anyFree v h
  | .list s, vs, h => by
      refine itemsFloatFree_iff.mpr fun w hw => ?_
      obtain ⟨v, -, rfl⟩ := List.mem_map.mp hw
      exact s.floatFree_of_anyFree v h
  | .table s, es, h => by
      refine membersFloatFree_iff.mpr fun w hw => ?_
      obtain ⟨e, -, rfl⟩ := List.mem_map.mp hw
      exact s.floatFree_of_anyFree e.2 h
  | .record _ fields, v, h => fields.floatFree_of_anyFree v h
  | .looseRecord _ fields, v, h => fields.floatFree_of_anyFree v h

theorem Fields.floatFree_of_anyFree : ∀ (fields : Fields) (v : fields.Val),
    fields.anyFree = true → membersFloatFree (fields.toMembers v) = true
  | .nil, _, _ => rfl
  | .cons _ _ s rest, (v, vs), h => by
      obtain ⟨hs, hrest⟩ := Bool.and_eq_true_iff.mp h
      rw [membersFloatFree_cons, s.floatFree_of_anyFree v hs, rest.floatFree_of_anyFree vs hrest]
      rfl

end

end Webhook.Json
