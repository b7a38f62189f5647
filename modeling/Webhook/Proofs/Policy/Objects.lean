import Webhook.Proofs.Json.Readings
import Webhook.Proofs.Policy.Annotations

/-!
# What an object of a type holds

A type says what stands at a place inside its objects.  `Schema.at?` follows a path of field names
through a type, and `Holds` says what an object holds at such a path when a table of texts is
due there: the table, or nothing, because one of the members on the way is absent or null.
`holds_of_check` says that every object of the type holds one or the other, and `textsAt_of_holds`
that it is what the policies find.
-/

namespace Webhook

open Json (Value Mismatch)

namespace Resource

/-- The type of the field that has a name, unless the name is that of the version or the kind. -/
def Schema.field? (name : String) : Schema → Option Schema
  | .record _ fields _ => fields.lookup name
  | .versioned _ _ fields =>
    if name = "apiVersion" ∨ name = "kind" then none else fields.lookup name
  | _ => none

/-- The type at the end of a path of field names. -/
def Schema.at? : List String → Schema → Option Schema
  | [], s => some s
  | name :: rest, s => (s.field? name).bind (Schema.at? rest)

/-- The texts that an object holds at the end of a path: those of the table there, or none when a
member on the way is absent or null. -/
inductive Holds : List String → Value → List (String × String) → Prop where
  | table {texts : List (String × String)} : Holds [] (tableOf texts) texts
  | absent {name : String} {rest : List String} {members : List (String × Value)} :
      members.lookup name = none ∨ members.lookup name = some .null →
      Holds (name :: rest) (.object members) []
  | member {name : String} {rest : List String} {members : List (String × Value)} {v : Value}
      {texts : List (String × String)} :
      members.lookup name = some v → v ≠ .null → Holds rest v texts →
      Holds (name :: rest) (.object members) texts

/-! ## Checks that pass -/

/-- A member that is not null has the type of the field of its name. -/
theorem check_of_checkField {name : String} {s : Schema} {v : Value} (hv : v ≠ .null) :
    ∀ {fields : List (String × Schema)}, fields.lookup name = some s →
      checkField fields name v = .ok () → s.check v = .ok ()
  | (field, s') :: fields, hlookup, h => by
      rw [Json.lookup_member] at hlookup
      rw [checkField] at h
      split at hlookup
      next hname =>
        obtain rfl := Option.some.inj hlookup
        rw [if_pos hname.symm, checkNamed] at h
        · exact h
        · exact hv
      next hname =>
        rw [if_neg fun heq => hname heq.symm] at h
        exact check_of_checkField hv hlookup h

/-- A value of a type with fields is an object, and its members have the types of the fields. -/
theorem check_member {name : String} {field : Schema} : ∀ {s : Schema} {v : Value},
    s.field? name = some field → s.check v = .ok () →
    ∃ members, v = .object members ∧
      ∀ w, members.lookup name = some w → w ≠ .null → field.check w = .ok ()
  | .record _ fields required, .object members, hfield, h => by
      rw [Schema.check] at h
      obtain ⟨⟨⟩, hmembers, -⟩ := Json.bind_eq_ok h
      refine ⟨members, rfl, fun w hw hnull => ?_⟩
      exact check_of_checkField hnull hfield (forM_eq_ok_iff.mp hmembers _ (Json.mem_of_lookup hw))
  | .versioned _ _ fields, .object members, hfield, h => by
      rw [Schema.field?] at hfield
      split at hfield
      next => cases hfield
      next hname =>
        rw [not_or] at hname
        rw [Schema.check] at h
        refine ⟨members, rfl, fun w hw hnull => ?_⟩
        have hmember := forM_eq_ok_iff.mp h _ (Json.mem_of_lookup hw)
        rw [if_neg hname.1, if_neg hname.2] at hmember
        exact check_of_checkField hnull hfield hmember

theorem exists_texts {members : List (String × Value)}
    (h : ∀ m ∈ members, Schema.text.check m.2 = .ok ()) :
    ∃ texts : List (String × String), members = texts.map fun t => (t.1, Value.string t.2) := by
  induction members with
  | nil => exact ⟨[], rfl⟩
  | cons m members ih =>
      obtain ⟨hm, hmembers⟩ := List.forall_mem_cons.mp h
      obtain ⟨texts, rfl⟩ := ih hmembers
      obtain ⟨name, v⟩ := m
      cases v with
      | string s => exact ⟨(name, s) :: texts, rfl⟩
      | null => cases hm
      | bool _ => cases hm
      | number _ => cases hm
      | list _ => cases hm
      | object _ => cases hm

/-- A value whose type is a table of texts is one. -/
theorem exists_tableOf {v : Value} (h : textTable.check v = .ok ()) :
    ∃ texts, v = tableOf texts := by
  cases v with
  | object members =>
      rw [textTable, Schema.check] at h
      obtain ⟨texts, rfl⟩ := exists_texts (forM_eq_ok_iff.mp h)
      exact ⟨texts, rfl⟩
  | null => cases h
  | bool _ => cases h
  | number _ => cases h
  | string _ => cases h
  | list _ => cases h

/-- Where a table of texts is due by the type, an object holds one, or nothing. -/
theorem holds_of_check {path : List String} {s : Schema} {v : Value}
    (hs : s.at? path = some textTable) (h : s.check v = .ok ()) :
    ∃ texts, Holds path v texts := by
  induction path generalizing s v with
  | nil =>
      obtain rfl := Option.some.inj hs
      obtain ⟨texts, rfl⟩ := exists_tableOf h
      exact ⟨texts, .table⟩
  | cons name rest ih =>
      obtain ⟨field, hfield, hrest⟩ := Option.bind_eq_some_iff.mp hs
      obtain ⟨members, rfl, hmembers⟩ := check_member hfield h
      cases hlookup : members.lookup name with
      | none => exact ⟨[], .absent (.inl hlookup)⟩
      | some w =>
          by_cases hnull : w = .null
          · exact ⟨[], .absent (.inr (hnull ▸ hlookup))⟩
          · obtain ⟨texts, htexts⟩ := ih hrest (hmembers w hlookup hnull)
            exact ⟨texts, .member hlookup hnull htexts⟩

/-- Nothing stands inside null. -/
theorem path?_null : ∀ path : List String, Value.path? path .null = none
  | [] => rfl
  | _ :: _ => rfl

theorem path?_object (name : String) (rest : List String) (members : List (String × Value)) :
    (Value.object members).path? (name :: rest)
      = (members.lookup name).bind (Value.path? rest) := rfl

theorem path?_of_holds {path : List String} {v : Value} {texts : List (String × String)}
    (h : Holds path v texts) :
    v.path? path = some (tableOf texts) ∨ v.path? path = none ∧ texts = [] := by
  induction h with
  | table => exact .inl rfl
  | @absent name rest members hlookup =>
      rw [path?_object]
      rcases hlookup with hlookup | hlookup
      · rw [hlookup]
        exact .inr ⟨rfl, rfl⟩
      · rw [hlookup]
        exact .inr ⟨path?_null rest, rfl⟩
  | member hlookup _ _ ih =>
      rw [path?_object, hlookup]
      exact ih

/-- The texts that an object holds at a path are those that are found there. -/
theorem textsAt_of_holds {path : List String} {v : Value} {texts : List (String × String)}
    (h : Holds path v texts) : v.textsAt path = texts := by
  rcases path?_of_holds h with hpath | ⟨hpath, rfl⟩
  · exact textsAt_of_path? hpath
  · rw [Value.textsAt, hpath]

/-- The texts that an object holds at a path are determined. -/
theorem Holds.unique {path : List String} {v : Value} {texts texts' : List (String × String)}
    (h : Holds path v texts) (h' : Holds path v texts') : texts = texts' :=
  (textsAt_of_holds h).symm.trans (textsAt_of_holds h')

end Resource
end Webhook
