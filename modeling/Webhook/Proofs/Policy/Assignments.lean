import Webhook.Proofs.Policy.Objects

/-!
# Setting a value inside an object

`Value.setAt` sets the value at the end of a path of names.  What stands at other paths stays as it
was, and objects are made where there is none yet.

An object keeps its type when the new value has the type that is due at its place
(`Resource.check_setAt`).  `Schema.entryAt?` gives that type.  It does not go through records with
required fields, which cannot be made from nothing.
-/

namespace Webhook

open Json (Value Mismatch)

namespace Json.Value

/-- The members of an object.  Anything else has none. -/
def members : Value → List (String × Value)
  | .object ms => ms
  | _ => []

/-- Sets the value at the end of a path of names. -/
def setAt : Value → List String → Value → Value
  | _, [], new => new
  | v, name :: rest, new =>
    .object (insertMember name (setAt ((v.member? name).getD .null) rest new) v.members)

theorem member?_eq (name : String) (v : Value) : v.member? name = v.members.lookup name := by
  cases v <;> rfl

theorem path?_cons (name : String) (rest : List String) (v : Value) :
    v.path? (name :: rest) = (v.member? name).bind (path? rest) := rfl

theorem member?_insertMember (key name : String) (w : Value) (ms : List (String × Value)) :
    (Value.object (insertMember name w ms)).member? key
      = if key = name then some w else ms.lookup key :=
  lookup_insertMember name key w ms

/-- On the way to the new value there is an object at every place. -/
theorem path?_setAt (new : Value) (last : String) : ∀ (path : List String) (v : Value),
    ∃ w : Value, (v.setAt (path ++ [last]) new).path? path
      = some (.object (insertMember last new w.members))
  | [], v => ⟨v, rfl⟩
  | name :: rest, v => by
      obtain ⟨w, hw⟩ := path?_setAt new last rest ((v.member? name).getD .null)
      refine ⟨w, ?_⟩
      rw [List.cons_append, setAt, path?_cons, member?_insertMember, if_pos rfl]
      exact hw

end Json.Value

namespace Resource

/-- The type of the member of a name, where the object may lack any other member. -/
def Schema.entry? (name : String) : Schema → Option Schema
  | .record _ fields [] => fields.lookup name
  | .versioned _ _ fields =>
    if name = "apiVersion" ∨ name = "kind" then none else fields.lookup name
  | .table value => some value
  | _ => none

/-- The type at the end of a path of names, where each object on the way may lack any other
member. -/
def Schema.entryAt? : List String → Schema → Option Schema
  | [], s => some s
  | name :: rest, s => (s.entry? name).bind (Schema.entryAt? rest)

/-- A value is null, or has a type. -/
def NullOr (s : Schema) (v : Value) : Prop := v = .null ∨ s.check v = .ok ()

theorem checkField_of_check {name : String} {s : Schema} {v : Value} (h : s.check v = .ok ()) :
    ∀ {fields : List (String × Schema)}, fields.lookup name = some s →
      checkField fields name v = .ok ()
  | (field, s') :: fields, hlookup => by
      rw [Json.lookup_member] at hlookup
      rw [checkField]
      split at hlookup
      next hname =>
        obtain rfl := Option.some.inj hlookup
        rw [if_pos hname.symm]
        cases v with
        | null => rfl
        | bool _ => exact h
        | number _ => exact h
        | string _ => exact h
        | list _ => exact h
        | object _ => exact h
      next hname =>
        rw [if_neg fun heq => hname heq.symm]
        exact checkField_of_check h hlookup

theorem nullOr_of_checkField {name : String} {s : Schema} {fields : List (String × Schema)}
    {v : Value} (hlookup : fields.lookup name = some s)
    (h : checkField fields name v = .ok ()) : NullOr s v := by
  by_cases hv : v = .null
  · exact .inl hv
  · exact .inr (check_of_checkField hv hlookup h)

/-- The check that an object makes of each of its members, where it makes no other. -/
def Schema.memberCheck? : Schema → Option (String × Value → Except Mismatch Unit)
  | .record _ fields [] => some fun m => checkField fields m.1 m.2
  | .versioned apiVersion name fields => some fun m =>
    if m.1 = "apiVersion" then checkTag apiVersion m.2
    else if m.1 = "kind" then checkTag name m.2
    else checkField fields m.1 m.2
  | .table value => some fun m => value.check m.2
  | _ => none

theorem check_object {s : Schema} {check : String × Value → Except Mismatch Unit}
    (hs : s.memberCheck? = some check) {ms : List (String × Value)} :
    s.check (.object ms) = .ok () ↔ ∀ m ∈ ms, check m = .ok () := by
  match s, hs with
  | .record _ fields [], hs =>
      obtain rfl := Option.some.inj hs
      rw [Schema.check]
      constructor
      · intro h
        obtain ⟨⟨⟩, hms, -⟩ := Json.bind_eq_ok h
        exact forM_eq_ok_iff.mp hms
      · intro h
        rw [forM_eq_ok_iff.mpr h]
        rfl
  | .versioned _ _ fields, hs =>
      obtain rfl := Option.some.inj hs
      rw [Schema.check]
      exact forM_eq_ok_iff
  | .table value, hs =>
      obtain rfl := Option.some.inj hs
      rw [Schema.check]
      exact forM_eq_ok_iff

/-- A member is checked by the type of its name. -/
theorem memberCheck_of_entry {name : String} {s field : Schema} (h : s.entry? name = some field) :
    ∃ check, s.memberCheck? = some check ∧
      (∀ w, field.check w = .ok () → check (name, w) = .ok ()) ∧
      ∀ w, check (name, w) = .ok () → NullOr field w := by
  match s, h with
  | .record _ fields [], h =>
      exact ⟨_, rfl, fun w hw => checkField_of_check hw h, fun w hw => nullOr_of_checkField h hw⟩
  | .versioned _ _ fields, h =>
      rw [Schema.entry?] at h
      split at h
      next => cases h
      next hname =>
        rw [not_or] at hname
        refine ⟨_, rfl, fun w hw => ?_, fun w hw => ?_⟩
        · rw [if_neg hname.1, if_neg hname.2]
          exact checkField_of_check hw h
        · rw [if_neg hname.1, if_neg hname.2] at hw
          exact nullOr_of_checkField h hw
  | .table value, h =>
      obtain rfl := Option.some.inj h
      exact ⟨_, rfl, fun w hw => hw, fun w hw => .inr hw⟩

/-- Setting a value of the right type gives an object of the type again. -/
theorem check_setAt {new : Value} : ∀ {path : List String} {s field : Schema} {v : Value},
    s.entryAt? path = some field → field.check new = .ok () → NullOr s v →
      s.check (v.setAt path new) = .ok ()
  | [], s, field, v, hs, hnew, _ => by
      obtain rfl := Option.some.inj hs
      exact hnew
  | name :: rest, s, field, v, hs, hnew, hv => by
      obtain ⟨entry, hentry, hrest⟩ := Option.bind_eq_some_iff.mp hs
      obtain ⟨check, hcheck, hset, hget⟩ := memberCheck_of_entry hentry
      have hmembers : ∀ m ∈ v.members, check m = .ok () := by
        match v, hv with
        | .object ms, .inr h => exact (check_object hcheck).mp h
        | .null, _ | .bool _, _ | .number _, _ | .string _, _ | .list _, _ =>
            exact List.forall_mem_nil _
      have hold : NullOr entry ((v.member? name).getD .null) := by
        rw [Value.member?_eq]
        cases hlookup : v.members.lookup name with
        | none => exact .inl rfl
        | some w => exact hget w (hmembers _ (Json.mem_of_lookup hlookup))
      refine (check_object hcheck).mpr fun m hm => ?_
      rcases Json.mem_insertMember hm with rfl | hm
      · exact hset _ (check_setAt hrest hnew hold)
      · exact hmembers m hm

/-- A member that is a text. -/
def textMember? (m : String × Value) : Option (String × String) :=
  match m.2 with
  | .string s => some (m.1, s)
  | _ => none

theorem textsAt_object {path : List String} {v : Value} {ms : List (String × Value)}
    (h : v.path? path = some (.object ms)) : v.textsAt path = ms.filterMap textMember? := by
  rw [Value.textsAt, h]
  rfl

theorem lookup_filterMap_textMember? {key text : String} :
    ∀ {ms : List (String × Value)}, ms.lookup key = some (.string text) →
      (ms.filterMap textMember?).lookup key = some text
  | (name, v) :: ms, h => by
      have htext : ∀ s, ((name, Value.string s) :: ms).filterMap textMember?
          = (name, s) :: ms.filterMap textMember? := fun _ => rfl
      rw [Json.lookup_member] at h
      by_cases hname : key = name
      · rw [if_pos hname] at h
        obtain rfl := Option.some.inj h
        rw [htext, Json.lookup_member, if_pos hname]
      · rw [if_neg hname] at h
        have ih := lookup_filterMap_textMember? h
        cases v with
        | string s => rw [htext, Json.lookup_member, if_neg hname, ih]
        | null => exact ih
        | bool _ => exact ih
        | number _ => exact ih
        | list _ => exact ih
        | object _ => exact ih

/-- A text that has been set is found. -/
theorem lookup_textsAt_setAt (path : List String) (key text : String) (v : Value) :
    ((v.setAt (path ++ [key]) (.string text)).textsAt path).lookup key = some text := by
  obtain ⟨w, hw⟩ := Value.path?_setAt (.string text) key path v
  rw [textsAt_object hw]
  refine lookup_filterMap_textMember? ?_
  rw [Json.lookup_insertMember, if_pos rfl]

end Resource
end Webhook
