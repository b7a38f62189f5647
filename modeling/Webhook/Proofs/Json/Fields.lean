import Webhook.Proofs.Json.RoundTrip

/-!
# The members that the fields of a record are read from

A record that is read from an object is read by the names of its members.  `Fields.ReadFrom` says
for each field what that comes to: either exactly one member has its name, and its value is read as
the data of the field, or no member has, and the field takes its default.
`Fields.readFrom_of_readMembers` says that this holds of every record that is read, as long as no
two fields have one name and a field that is there twice is refused.

`Raw.valuesOf` gives the values under a name in raw JSON, and `valuesNamed` those in a tree
(`forall₂_valuesNamed`).
-/

namespace Webhook.Json

/-! ## Values by name -/

/-- The value of a member, if the member has the name. -/
def Member.valueNamed? (name : String) (m : Member) : Option Tree :=
  match m.readName with
  | .ok n => if n = name then some m.value else none
  | .error _ => none

/-- The values of the members that have a name. -/
def valuesNamed (name : String) (ms : List Member) : List Tree :=
  ms.filterMap (Member.valueNamed? name)

theorem valuesNamed_concat_same {name : String} {ms : List Member} {m : Member}
    (h : m.readName = .ok name) :
    valuesNamed name (ms ++ [m]) = valuesNamed name ms ++ [m.value] := by
  have hvalue : m.valueNamed? name = some m.value := by
    rw [Member.valueNamed?, h]
    exact if_pos rfl
  rw [valuesNamed, List.filterMap_append, List.filterMap_cons, hvalue]
  rfl

theorem valuesNamed_concat_other {name n : String} {ms : List Member} {m : Member}
    (h : m.readName = .ok n) (hne : n ≠ name) :
    valuesNamed name (ms ++ [m]) = valuesNamed name ms := by
  have hvalue : m.valueNamed? name = none := by
    rw [Member.valueNamed?, h]
    exact if_neg hne
  rw [valuesNamed, List.filterMap_append, List.filterMap_cons, hvalue]
  exact List.append_nil _

/-- The value of a raw member, if the member has the name. -/
def rawValueNamed? (name : String) (m : Bytes × Raw) : Option Raw :=
  if stringText? m.1 = some name then some m.2 else none

/-- The values of the members of raw JSON that have a name. -/
def Raw.valuesOf (name : String) : Raw → List Raw
  | .object members => members.filterMap (rawValueNamed? name)
  | _ => []

/-- A string in the place of a name is a name when it stands for a text. -/
theorem valueNamed?_string (name : String) (n e a b : Nat) (raw : Bytes) (t : Tree) :
    (Member.mk (.scalar n (.string raw (.closed e))) a t b).valueNamed? name
      = if stringText? raw = some name then some t else none := by
  have hname : (Member.mk (.scalar n (.string raw (.closed e))) a t b).readName
      = readString n raw (.closed e) := rfl
  rw [Member.valueNamed?, hname]
  cases hread : readString n raw (.closed e) with
  | ok s =>
      rw [readString_iff.mp hread]
      simp only [Option.some.injEq]
  | error f =>
      have hne : stringText? raw ≠ some name := by
        intro htext
        rw [readString_iff.mpr htext] at hread
        cases hread
      rw [if_neg hne]

/-- A tree and the raw JSON it shows have the same values under each name. -/
theorem forall₂_valuesNamed (name : String) : ∀ {ms : List Member} {ks : List (Bytes × Raw)},
    ShowsMembers ms ks → List.Forall₂ Shows (valuesNamed name ms) ((Raw.object ks).valuesOf name)
  | _, _, .nil => .nil
  | _, _, @ShowsMembers.cons _ _ _ _ raw _ _ _ _ ht hms => by
      have ih := forall₂_valuesNamed name hms
      rw [valuesNamed, List.filterMap_cons, valueNamed?_string, Raw.valuesOf, List.filterMap_cons,
        rawValueNamed?]
      by_cases htext : stringText? raw = some name
      · rw [if_pos htext, if_pos htext]
        exact .cons ht ih
      · rw [if_neg htext, if_neg htext]
        exact ih

/-! ## From slots to members -/

/-- What a slot holds has been read from the only member of that name, and a slot that holds nothing
belongs to no member. -/
def SlotFilled (name : String) (s : Shape) (d : Nat) (ms : List Member) : Option s.Val → Prop
  | some v => ∃ t, valuesNamed name ms = [t] ∧ s.read d t = .ok v
  | none => valuesNamed name ms = []

/-- What the slots of a record hold has been read from some members. -/
def Fields.Filled : (fields : Fields) → Nat → List Member → fields.Slots → Prop
  | .nil, _, _, _ => True
  | .cons name _ s rest, d, ms, (slot, slots) =>
    SlotFilled name s d ms slot ∧ rest.Filled d ms slots

theorem Fields.filled_noSlots : ∀ (fields : Fields) (d : Nat), fields.Filled d [] fields.noSlots
  | .nil, _ => trivial
  | .cons _ _ _ rest, d => ⟨rfl, rest.filled_noSlots d⟩

/-- A member of another name leaves a slot as it is. -/
theorem SlotFilled.concat {name n : String} {s : Shape} {d : Nat} {ms : List Member} {m : Member}
    {slot : Option s.Val} (h : SlotFilled name s d ms slot) (hn : m.readName = .ok n)
    (hne : n ≠ name) : SlotFilled name s d (ms ++ [m]) slot := by
  cases slot with
  | none => exact (valuesNamed_concat_other hn hne).trans h
  | some v =>
      obtain ⟨t, ht, hread⟩ := h
      exact ⟨t, (valuesNamed_concat_other hn hne).trans ht, hread⟩

theorem Fields.Filled.concat {d : Nat} {ms : List Member} {m : Member} {n : String}
    (hn : m.readName = .ok n) : ∀ {fields : Fields} {slots : fields.Slots},
      fields.Filled d ms slots → n ∉ fields.names → fields.Filled d (ms ++ [m]) slots
  | .nil, _, _, _ => trivial
  | .cons _ _ _ _, (_, _), ⟨hslot, hslots⟩, hnames => by
      rw [names, List.mem_cons, not_or] at hnames
      exact ⟨hslot.concat hn hnames.1, hslots.concat hn hnames.2⟩

/-- A member that is stored fills the slot of its name, which was empty. -/
theorem Fields.Filled.store {d : Nat} {ms : List Member} {m : Member} {n : String}
    (hn : m.readName = .ok n) : ∀ {fields : Fields} {slots slots' : fields.Slots},
      fields.sound = true → fields.Filled d ms slots →
      fields.store d true n m slots = some (.ok slots') → fields.Filled d (ms ++ [m]) slots'
  | .nil, _, _, _, _, h => by cases h
  | .cons name required s rest, (slot, slots), (slot', slots'), hs, ⟨hslot, hslots⟩, h => by
      obtain ⟨-, hname, -, hrest⟩ := sound_cons.mp hs
      have h := (store_cons name required s rest d true n m slot slots).symm.trans h
      split at h
      next heq =>
        subst heq
        split at h
        next => cases h
        next hempty =>
          -- a field that is there twice is refused, so the slot was empty
          obtain ⟨v, hread, heq⟩ := map_eq_ok (Option.some.inj h)
          cases heq
          cases slot with
          | some w => exact absurd rfl hempty
          | none =>
              refine ⟨⟨m.value, ?_, hread⟩, hslots.concat hn hname⟩
              rw [valuesNamed_concat_same hn]
              exact congrArg (· ++ [m.value]) hslot
      next hne =>
        obtain ⟨r, hstore, h⟩ := Option.map_eq_some_iff.mp h
        obtain ⟨slots'', rfl, heq⟩ := map_eq_ok h
        cases heq
        exact ⟨hslot.concat hn hne, hslots.store hn hrest hstore⟩

theorem Fields.not_mem_names_of_store {d : Nat} {once : Bool} {n : String} {m : Member} :
    ∀ {fields : Fields} {slots : fields.Slots}, fields.store d once n m slots = none →
      n ∉ fields.names
  | .nil, _, _ => by simp [names]
  | .cons name required s rest, (slot, slots), h => by
      have h := (store_cons name required s rest d once n m slot slots).symm.trans h
      split at h
      next =>
        split at h
        next => cases h
        next => cases h
      next hne =>
        rw [names, List.mem_cons, not_or]
        exact ⟨hne, not_mem_names_of_store (Option.map_eq_none_iff.mp h)⟩

/-- After some members the slots are filled from these members. -/
theorem Fields.filled_of_foldlM {fields : Fields} (hs : fields.sound = true) {d : Nat} :
    ∀ {ms done : List Member} {slots slots' : fields.Slots}, fields.Filled d done slots →
      ms.foldlM (fields.readMember d true) slots = .ok slots' →
      fields.Filled d (done ++ ms) slots'
  | [], done, _, _, hfilled, h => by
      cases h
      rwa [List.append_nil]
  | m :: ms, done, slots, slots', hfilled, h => by
      rw [List.foldlM_cons] at h
      obtain ⟨slots'', hread, h⟩ := bind_eq_ok h
      have hnext : fields.Filled d (done ++ [m]) slots'' := by
        obtain ⟨n, hn, hstore | ⟨hstore, -, rfl⟩⟩ := readMember_inv hread
        · exact hfilled.store hn hs hstore
        · exact hfilled.concat hn (not_mem_names_of_store hstore)
      have hall := filled_of_foldlM hs hnext h
      rwa [List.append_assoc, List.singleton_append] at hall

/-! ## From members to data -/

/-- The data of a field is read from the only member of its name, or no member has the name and the
data is the default. -/
def FieldReadFrom (name : String) (required : Bool) (s : Shape) (d : Nat) (ms : List Member)
    (v : s.Val) : Prop :=
  (∃ t, valuesNamed name ms = [t] ∧ s.read d t = .ok v) ∨
    (valuesNamed name ms = [] ∧ s.fromSlot? required none = some v)

/-- The data of each field of a record is read from some members. -/
def Fields.ReadFrom : (fields : Fields) → Nat → List Member → fields.Val → Prop
  | .nil, _, _, _ => True
  | .cons name required s rest, d, ms, (v, vs) =>
    FieldReadFrom name required s d ms v ∧ rest.ReadFrom d ms vs

theorem Fields.readFrom_of_complete {d stop : Nat} {ms : List Member} :
    ∀ {fields : Fields} {slots : fields.Slots} {v : fields.Val}, fields.Filled d ms slots →
      fields.complete stop slots = .ok v → fields.ReadFrom d ms v
  | .nil, _, _, _, _ => trivial
  | .cons name required s rest, (slot, slots), v, ⟨hslot, hslots⟩, h => by
      have h := (complete_cons stop name required s rest slot slots).symm.trans h
      split at h
      next w hw =>
        obtain ⟨vs, hrest, rfl⟩ := map_eq_ok h
        refine ⟨?_, readFrom_of_complete hslots hrest⟩
        cases slot with
        | some u =>
            obtain rfl := Option.some.inj hw
            exact .inl hslot
        | none => exact .inr ⟨hslot, hw⟩
      next => cases h

/-- The fields of a record are read from its members, by their names. -/
theorem Fields.readFrom_of_readMembers {fields : Fields} {d : Nat} {ms : List Member}
    {ending : Ending} {v : fields.Val} (hs : fields.sound = true)
    (h : fields.readMembers d true ms ending = .ok v) : fields.ReadFrom d ms v := by
  obtain ⟨stop, slots, -, hslots, hcomplete⟩ := readMembers_inv h
  exact readFrom_of_complete (filled_of_foldlM hs (fields.filled_noSlots d) hslots) hcomplete

end Webhook.Json
