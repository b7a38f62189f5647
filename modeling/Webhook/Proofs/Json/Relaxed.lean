import Webhook.Proofs.Json.Respelling

/-!
# Records that may lack anything

`Fields.relaxed` are the fields of a record, each of which may now be absent or null.  When the
fields were required, and their shapes refuse null, the relaxed record lacks nothing exactly when
the strict one can be read, and then the two hold the same data (`Shape.readText_relaxed`).
-/

namespace Webhook.Json

/-- The same fields, each of which may be absent or null. -/
def Fields.relaxed : Fields → Fields
  | .nil => .nil
  | .cons name _ s rest => .cons name false (.optional s) rest.relaxed

/-- The data of all fields, as data of fields that may be absent. -/
def Fields.present : (fields : Fields) → fields.Val → fields.relaxed.Val
  | .nil, _ => ()
  | .cons _ _ _ rest, (v, vs) => (some v, rest.present vs)

/-- What has been read of some fields, as fields that may be null. -/
def Fields.presentSlots : (fields : Fields) → fields.Slots → fields.relaxed.Slots
  | .nil, _ => ()
  | .cons _ _ _ rest, (slot, slots) => (slot.map some, rest.presentSlots slots)

/-- Null is not read as data of the shape. -/
def Shape.RefusesNull (s : Shape) : Prop :=
  ∀ {d : Nat} {t : Tree} {v : s.Val}, s.read d t = .ok v → t.isNull = false

/-- All fields are required, and none of them may be null. -/
def Fields.Demanding : Fields → Prop
  | .nil => True
  | .cons _ required s rest => required = true ∧ s.RefusesNull ∧ rest.Demanding

theorem Shape.refusesNull_text : Shape.text.RefusesNull := by
  intro d t v h
  obtain ⟨start, raw, stop, rfl, -⟩ := read_text_inv h
  rfl

theorem Shape.refusesNull_record (title : String) (fields : Fields) :
    (Shape.record title fields).RefusesNull := by
  intro d t v h
  obtain ⟨e, start, -, ⟨ms, ending, rfl, -⟩ | ⟨items, ending, expected, rfl, -⟩⟩ :=
    read_record_inv h
  · rfl
  · rfl

/-- A value that is not null is read as an optional one just like by itself. -/
theorem Shape.read_optional_some {s : Shape} (hs : s.RefusesNull) {d : Nat} {t : Tree}
    {v : s.Val} : (Shape.optional s).read d t = .ok (some v) ↔ s.read d t = .ok v := by
  constructor
  · intro h
    rcases read_optional_inv h with ⟨-, hnone⟩ | ⟨-, w, hw, hread⟩
    · cases hnone
    · cases hw
      exact hread
  · intro h
    rw [read_optional, hs h, h]
    rfl

namespace Fields

/-! ## Members -/

theorem presentSlots_noSlots :
    ∀ fields : Fields, fields.presentSlots fields.noSlots = fields.relaxed.noSlots
  | .nil => rfl
  | .cons _ _ _ rest => congrArg (Prod.mk none) rest.presentSlots_noSlots

theorem presentSlots_injective : ∀ {fields : Fields} {slots slots' : fields.Slots},
    fields.presentSlots slots = fields.presentSlots slots' → slots = slots'
  | .nil, _, _, _ => rfl
  | .cons _ _ s rest, (slot, slots), (slot', slots'), h => by
      obtain ⟨hslot, hslots⟩ := Prod.mk.inj h
      rw [Option.map_injective (fun _ _ => Option.some.inj) hslot, presentSlots_injective hslots]

/-- A member goes into the same slot of both records. -/
theorem readMember_relaxed {d : Nat} {m : Member} : ∀ {fields : Fields}, fields.Demanding →
    ∀ {slots slots' : fields.Slots}, fields.readMember d true slots m = .ok slots' →
      fields.relaxed.readMember d true (fields.presentSlots slots) m
        = .ok (fields.presentSlots slots')
  | .nil, _, _, _, h => h
  | .cons field required s rest, ⟨_, hs, hrest⟩, (slot, slots), _, h => by
      rcases readMember_cons_inv h with ⟨v, hname, hslot, hv, rfl⟩ |
        ⟨name, slots', hname, hne, hslots, rfl⟩
      · have hempty : (true && (slot.map some).isSome) = false := by
          rw [Option.isSome_map]
          exact hslot
        exact readMember_same hempty hname ((Shape.read_optional_some hs).mpr hv) _
      · exact readMember_other_ok hname hne (readMember_relaxed hrest hslots)

/-- What ends as data of all fields was that before each member as well, because a slot that has
been filled stays as it is. -/
theorem readMember_of_relaxed {d : Nat} {m : Member} : ∀ {fields : Fields}, fields.Demanding →
    ∀ {before : fields.relaxed.Slots} {slots' : fields.Slots},
      fields.relaxed.readMember d true before m = .ok (fields.presentSlots slots') →
      ∃ slots, before = fields.presentSlots slots ∧
        fields.readMember d true slots m = .ok slots'
  | .nil, _, _, _, h => ⟨(), rfl, h⟩
  | .cons field required s rest, ⟨_, hs, hrest⟩, (slot?, before), (slot, slots'), h => by
      rcases readMember_cons_inv h with ⟨v?, hname, hempty, hv, heq⟩ |
        ⟨name, after, hname, hne, hafter, heq⟩
      · obtain ⟨hslot, rfl⟩ := Prod.mk.inj heq
        obtain ⟨v, rfl, rfl⟩ := Option.map_eq_some_iff.mp hslot
        obtain rfl : slot? = none := Option.isSome_eq_false_iff.mp hempty |> Option.isNone_iff_eq_none.mp
        exact ⟨(none, slots'), rfl,
          readMember_same rfl hname ((Shape.read_optional_some hs).mp hv) slots'⟩
      · obtain ⟨rfl, rfl⟩ := Prod.mk.inj heq
        obtain ⟨slots, rfl, hslots⟩ := readMember_of_relaxed hrest hafter
        exact ⟨(slot, slots), rfl, readMember_other_ok hname hne hslots⟩

theorem foldlM_relaxed {fields : Fields} (h : fields.Demanding) {d : Nat} {ms : List Member} :
    ∀ {before : fields.relaxed.Slots} {slots' : fields.Slots},
      ms.foldlM (fields.relaxed.readMember d true) before = .ok (fields.presentSlots slots') ↔
      ∃ slots, before = fields.presentSlots slots ∧
        ms.foldlM (fields.readMember d true) slots = .ok slots' := by
  induction ms with
  | nil =>
      intro before slots'
      constructor
      · intro hfold
        exact ⟨slots', Except.ok.inj hfold, rfl⟩
      · rintro ⟨slots, rfl, hfold⟩
        cases hfold
        rfl
  | cons m ms ih =>
      intro before slots'
      constructor
      · intro hfold
        rw [List.foldlM_cons] at hfold
        obtain ⟨after, hfirst, hrest⟩ := bind_eq_ok hfold
        obtain ⟨between, rfl, hms⟩ := ih.mp hrest
        obtain ⟨slots, rfl, hm⟩ := readMember_of_relaxed h hfirst
        exact ⟨slots, rfl, foldlM_cons_ok hm hms⟩
      · rintro ⟨slots, rfl, hfold⟩
        rw [List.foldlM_cons] at hfold
        obtain ⟨between, hm, hms⟩ := bind_eq_ok hfold
        exact foldlM_cons_ok (readMember_relaxed h hm) (ih.mpr ⟨between, rfl, hms⟩)

/-- The relaxed record lacks nothing exactly when the strict one is complete. -/
theorem complete_relaxed {stop : Nat} : ∀ {fields : Fields}, fields.Demanding →
    ∀ {before : fields.relaxed.Slots} {v : fields.Val},
      fields.relaxed.complete stop before = .ok (fields.present v) ↔
      ∃ slots, before = fields.presentSlots slots ∧ fields.complete stop slots = .ok v
  | .nil, _, _, _ => ⟨fun _ => ⟨(), rfl, rfl⟩, fun _ => rfl⟩
  | .cons name _ s rest, ⟨rfl, hs, hrest⟩, (slot?, before), (v, vs) => by
      have hcomplete := complete_cons stop name false (.optional s) rest.relaxed slot? before
      constructor
      · intro h
        have h := hcomplete.symm.trans h
        split at h
        next v? hslot =>
          obtain ⟨ws, hws, heq⟩ := map_eq_ok h
          obtain ⟨rfl, rfl⟩ := Prod.mk.inj heq
          obtain ⟨slots, rfl, hslots⟩ := (complete_relaxed hrest).mp hws
          -- the data is there, so it is not the default of an absent field
          cases slot? with
          | none => cases hslot
          | some w =>
              obtain rfl : w = some v := Option.some.inj hslot
              refine ⟨(some v, slots), rfl, ?_⟩
              refine (complete_cons stop name true s rest (some v) slots).trans ?_
              show (rest.complete stop slots).map (fun vs => (v, vs)) = _
              rw [hslots]
              rfl
        next => cases h
      · rintro ⟨⟨slot, slots⟩, heq, h⟩
        obtain ⟨rfl, rfl⟩ := Prod.mk.inj heq
        have h := (complete_cons stop name true s rest slot slots).symm.trans h
        refine hcomplete.trans ?_
        cases slot with
        | none => cases h
        | some w =>
            obtain ⟨ws, hws, heq⟩ := map_eq_ok h
            obtain ⟨rfl, rfl⟩ := Prod.mk.inj heq
            show (rest.relaxed.complete stop _).map (fun vs => (some w, vs)) = _
            rw [(complete_relaxed hrest).mpr ⟨slots, rfl, hws⟩]
            rfl

theorem readMembers_of_complete {fields : Fields} {d : Nat} {once : Bool} {ms : List Member}
    {stop : Nat} {slots : fields.Slots} {v : fields.Val}
    (hfold : ms.foldlM (fields.readMember d once) fields.noSlots = .ok slots)
    (hcomplete : fields.complete stop slots = .ok v) :
    fields.readMembers d once ms (.closed stop) = .ok v := by
  unfold readMembers
  rw [hfold]
  exact hcomplete

theorem readMembers_relaxed {fields : Fields} (h : fields.Demanding) {d : Nat} {ms : List Member}
    {ending : Ending} {v : fields.Val} :
    fields.relaxed.readMembers d true ms ending = .ok (fields.present v) ↔
      fields.readMembers d true ms ending = .ok v := by
  constructor
  · intro hread
    obtain ⟨stop, after, rfl, hfold, hcomplete⟩ := readMembers_inv hread
    obtain ⟨slots, rfl, hslots⟩ := (complete_relaxed h).mp hcomplete
    obtain ⟨start, hstart, hfold⟩ := (foldlM_relaxed h).mp hfold
    rw [← presentSlots_noSlots] at hstart
    rw [← presentSlots_injective hstart] at hfold
    exact readMembers_of_complete hfold hslots
  · intro hread
    obtain ⟨stop, slots, rfl, hfold, hcomplete⟩ := readMembers_inv hread
    refine readMembers_of_complete ?_ ((complete_relaxed h).mpr ⟨slots, rfl, hcomplete⟩)
    exact (foldlM_relaxed h).mpr ⟨_, (presentSlots_noSlots fields).symm, hfold⟩

/-! ## Items -/

/-- Fields that may be left out at the end of a list are there when they hold data. -/
theorem readItems_relaxed {d : Nat} {expected expected' : String} {ending : Ending} :
    ∀ {fields : Fields}, fields.Demanding → ∀ {done done' : Nat} {ts : List Tree}
      {v : fields.Val},
      fields.relaxed.readItems d expected' ending done' ts = .ok (fields.present v) ↔
        fields.readItems d expected ending done ts = .ok v
  | .nil, _, _, _, _, _ => Iff.rfl
  | .cons name _ s rest, ⟨rfl, hs, hrest⟩, done, done', [], (v, vs) => by
      constructor
      · intro h
        have h := (readItems_nil name false (.optional s) rest.relaxed d expected' ending
          done').symm.trans h
        split at h
        next => cases h
        next stop =>
          split at h
          next v? hdefault =>
            cases hdefault
            obtain ⟨ws, -, heq⟩ := map_eq_ok h
            cases heq
          next => cases h
      · intro h
        have h := (readItems_nil name true s rest d expected ending done).symm.trans h
        split at h
        next => cases h
        next => cases h
  | .cons name _ s rest, ⟨rfl, hs, hrest⟩, done, done', t :: ts, (v, vs) => by
      constructor
      · intro h
        have h := (readItems_cons name false (.optional s) rest.relaxed d expected' ending done'
          t ts).symm.trans h
        refine (readItems_cons name true s rest d expected ending done t ts).trans ?_
        split at h
        next => cases h
        next v? hv =>
          obtain ⟨ws, hws, heq⟩ := map_eq_ok h
          obtain ⟨rfl, rfl⟩ := Prod.mk.inj heq
          rw [(Shape.read_optional_some hs).mp hv, (readItems_relaxed hrest).mp hws]
          rfl
      · intro h
        have h := (readItems_cons name true s rest d expected ending done t ts).symm.trans h
        refine (readItems_cons name false (.optional s) rest.relaxed d expected' ending done' t
          ts).trans ?_
        split at h
        next => cases h
        next w hw =>
          obtain ⟨ws, hws, heq⟩ := map_eq_ok h
          obtain ⟨rfl, rfl⟩ := Prod.mk.inj heq
          rw [(Shape.read_optional_some hs).mpr hw, (readItems_relaxed hrest).mpr hws]
          rfl

end Fields

/-! ## Records -/

theorem Shape.read_relaxed {title title' : String} {fields : Fields} (h : fields.Demanding)
    {d : Nat} {t : Tree} {v : fields.Val} :
    (Shape.record title' fields.relaxed).read d t = .ok (fields.present v) ↔
      (Shape.record title fields).read d t = .ok v := by
  constructor
  · intro hread
    obtain ⟨e, start, rfl, ⟨ms, ending, rfl, hread⟩ | ⟨items, ending, expected, rfl, hread⟩⟩ :=
      read_record_inv hread
    · exact (Fields.readMembers_relaxed h).mp hread
    · exact (Fields.readItems_relaxed h).mp hread
  · intro hread
    obtain ⟨e, start, rfl, ⟨ms, ending, rfl, hread⟩ | ⟨items, ending, expected, rfl, hread⟩⟩ :=
      read_record_inv hread
    · exact (Fields.readMembers_relaxed h).mpr hread
    · exact (Fields.readItems_relaxed h).mpr hread

theorem Shape.readText_of_read {s : Shape} {text : Bytes} {t : Tree} {v : s.Val}
    (htext : document text = ⟨t, none⟩) (h : s.read nestingLimit t = .ok v) :
    s.readText text = .ok v := by
  rw [readText, htext]
  simp only [h]

/-- A text is read as a record that lacks nothing exactly when it is read as the strict record,
with the same data. -/
theorem Shape.readText_relaxed {title title' : String} {fields : Fields} (h : fields.Demanding)
    {text : Bytes} {v : fields.Val} :
    (Shape.record title' fields.relaxed).readText text = .ok (fields.present v) ↔
      (Shape.record title fields).readText text = .ok v := by
  constructor
  · intro hread
    obtain ⟨t, htext, hread⟩ := readText_inv hread
    exact readText_of_read htext ((read_relaxed h).mp hread)
  · intro hread
    obtain ⟨t, htext, hread⟩ := readText_inv hread
    exact readText_of_read htext ((read_relaxed h).mpr hread)

end Webhook.Json
