import Webhook.Proofs.Json.Respelling

/-!
# Members that no field has the name of

A record passes over the members that none of its fields has the name of.  `Widened` says that raw
JSON has been given such members, wherever the shape has a record: in the record itself, and in the
values of its fields.  What has been read before is read afterwards as well (`Widened.read`).
-/

namespace Webhook.Json

/-- The shape of the field that has a name. -/
def Fields.shapeOf? (name : String) : Fields → Option Shape
  | .nil => none
  | .cons field _ s rest => if name = field then some s else rest.shapeOf? name

mutual

/-- Raw JSON to whose records members have been added. -/
inductive Widened : Shape → Raw → Raw → Prop where
  | same {s : Shape} {k : Raw} : Widened s k k
  | optional {s : Shape} {k k' : Raw} : Widened s k k' → Widened (.optional s) k k'
  | record {title : String} {fields : Fields} {ms ms' : List (Bytes × Raw)} :
      WidenedMembers fields ms ms' → Widened (.record title fields) (.object ms) (.object ms')
  | looseRecord {title : String} {fields : Fields} {ms ms' : List (Bytes × Raw)} :
      WidenedMembers fields ms ms' → Widened (.looseRecord title fields) (.object ms) (.object ms')

/-- Members of a record to which others have been added.  None of its fields has the name of one
that has been added. -/
inductive WidenedMembers : Fields → List (Bytes × Raw) → List (Bytes × Raw) → Prop where
  | nil {fields : Fields} : WidenedMembers fields [] []
  | keep {fields : Fields} {m : Bytes × Raw} {ms ms' : List (Bytes × Raw)} :
      WidenedMembers fields ms ms' → WidenedMembers fields (m :: ms) (m :: ms')
  | within {fields : Fields} {name : String} {s : Shape} {raw : Bytes} {k k' : Raw}
      {ms ms' : List (Bytes × Raw)} : stringText? raw = some name →
      fields.shapeOf? name = some s → Widened s k k' → WidenedMembers fields ms ms' →
      WidenedMembers fields ((raw, k) :: ms) ((raw, k') :: ms')
  | add {fields : Fields} {name : String} {raw : Bytes} {k : Raw} {ms ms' : List (Bytes × Raw)} :
      stringText? raw = some name → name ∉ fields.names → WidenedMembers fields ms ms' →
      WidenedMembers fields ms ((raw, k) :: ms')

end

theorem Widened.word_iff {w : Word} :
    ∀ {s : Shape} {k k' : Raw}, Widened s k k' → (k = .word w ↔ k' = .word w)
  | _, _, _, .same => Iff.rfl
  | _, _, _, .optional h => h.word_iff
  | _, _, _, .record _ => ⟨nofun, nofun⟩
  | _, _, _, .looseRecord _ => ⟨nofun, nofun⟩

/-- A member is read into the slot of its name, whatever else may be different. -/
theorem Fields.readMember_within {d : Nat} {once : Bool} {m m' : Member} {name : String}
    {s : Shape} (hname : m.readName = .ok name) (hname' : m'.readName = .ok name)
    (hread : ∀ v, s.read d m.value = .ok v → s.read d m'.value = .ok v) :
    ∀ {fields : Fields} {slots slots' : fields.Slots}, fields.shapeOf? name = some s →
      fields.readMember d once slots m = .ok slots' →
      fields.readMember d once slots m' = .ok slots'
  | .cons field required s' rest, (slot, slots), _, hshape, h => by
      rw [shapeOf?] at hshape
      rcases readMember_cons_inv h with ⟨v, hfield, hslot, hv, rfl⟩ |
        ⟨n, slots', hn, hne, hslots, rfl⟩
      · obtain rfl := Except.ok.inj (hname.symm.trans hfield)
        rw [if_pos rfl] at hshape
        obtain rfl := Option.some.inj hshape
        exact readMember_same hslot hname' (hread v hv) slots
      · obtain rfl := Except.ok.inj (hname.symm.trans hn)
        rw [if_neg hne] at hshape
        exact readMember_other_ok hname' hne (readMember_within hname hname' hread hshape hslots)

theorem ShowsMember.same {m m' : Member} {k : Bytes × Raw} (h : ShowsMember m k)
    (h' : ShowsMember m' k) : m.Same m' :=
  ⟨h.name?_eq.trans h'.name?_eq.symm, k.2, k.2, h.shows, h'.shows, .refl k.2⟩

theorem ShowsMember.readName {m : Member} {k : Bytes × Raw} {name : String}
    (h : ShowsMember m k) (hname : stringText? k.1 = some name) : m.readName = .ok name :=
  Member.name?_eq_some.mp (h.name?_eq.trans hname)

-- The recursion is on the derivation.  Where it says nothing (`same`, `keep`) the two trees spell
-- one value, which `read_same` settles.
mutual

/-- What has been read is read again after members have been added. -/
theorem Widened.read : ∀ {s : Shape} {k k' : Raw}, Widened s k k' → ∀ {d : Nat} {t t' : Tree}
    {v : s.Val}, Shows t k → Shows t' k' → s.read d t = .ok v → s.read d t' = .ok v
  | s, k, _, .same, _, t, t', v, ht, ht', h => s.read_same t t' v ⟨k, k, ht, ht', .refl k⟩ h
  | .optional s, _, _, .optional hw, _, _, _, _, ht, ht', h =>
      Shape.read_optional_of (ht.isNull_iff.trans (hw.word_iff.trans ht'.isNull_iff.symm))
        (fun _ hv => hw.read ht ht' hv) h
  | .record title fields, _, _, .record hms, _, _, _, v, .object hts, .object hts', h => by
      obtain ⟨e, start, rfl, ⟨ts, ending, heq, h⟩ | ⟨items, ending, expected, heq, -⟩⟩ :=
        Shape.read_record_inv h
      · cases heq
        exact Fields.readMembers_of_slots
          (fun _ => hms.foldlM (showsMembers_iff.mp hts) (showsMembers_iff.mp hts')) h
      · cases heq
  | .looseRecord title fields, _, _, .looseRecord hms, _, _, _, v, .object hts, .object hts',
      h => by
      obtain ⟨e, start, ts, ending, rfl, heq, h⟩ := Shape.read_looseRecord_inv h
      cases heq
      exact Fields.readMembers_of_slots
        (fun _ => hms.foldlM (showsMembers_iff.mp hts) (showsMembers_iff.mp hts')) h

/-- Members that have been added fill no slot. -/
theorem WidenedMembers.foldlM : ∀ {fields : Fields} {ms ms' : List (Bytes × Raw)},
    WidenedMembers fields ms ms' → ∀ {d : Nat} {once : Bool} {ts ts' : List Member}
    {slots slots' : fields.Slots}, List.Forall₂ ShowsMember ts ms →
    List.Forall₂ ShowsMember ts' ms' →
    ts.foldlM (fields.readMember d once) slots = .ok slots' →
    ts'.foldlM (fields.readMember d once) slots = .ok slots'
  | _, _, _, .nil, _, _, _, _, _, _, .nil, .nil, h => h
  | fields, _, _, .keep hms, _, _, _, _, _, _, .cons hm hts, .cons hm' hts', h => by
      rw [List.foldlM_cons] at h
      obtain ⟨between, hread, h⟩ := bind_eq_ok h
      exact foldlM_cons_ok (fields.readMember_respelled _ _ _ _ (hm.same hm') hread)
        (hms.foldlM hts hts' h)
  | fields, _, _, .within hname hshape hw hms, _, _, _, _, _, _, .cons hm hts, .cons hm' hts',
      h => by
      rw [List.foldlM_cons] at h
      obtain ⟨between, hread, h⟩ := bind_eq_ok h
      exact foldlM_cons_ok
        (Fields.readMember_within (hm.readName hname) (hm'.readName hname)
          (fun v hv => hw.read hm.shows hm'.shows hv) hshape hread)
        (hms.foldlM hts hts' h)
  | fields, _, _, .add hname hnot hms, _, _, _, _, slots, _, hts, .cons hm' hts', h =>
      foldlM_cons_ok
        (Fields.readMember_unknown (hm'.readName hname) hm'.shows.skipFault?_eq hnot slots)
        (hms.foldlM hts hts' h)

end

end Webhook.Json
