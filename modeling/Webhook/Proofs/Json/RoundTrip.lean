import Mathlib.Data.List.Nodup
import Webhook.Proofs.Json.Documents
import Webhook.Proofs.Json.Readings

/-!
# Data of a shape read back

`Shape.readText_print` says that data is read back from its text.  The data has to be kept
(`Shape.Kept`), which it is when it has been read, and to hold no floating point number.

The shape has to make sense (`Shape.sound`): the words of a choice and the names of the fields of a
record are distinct, and a field that may be left out of the text may be absent.  A record is read
back field by field: `Fields.foldlM_raw` says that the members of its text fill the slots of all
fields that are in it (`Fields.filled`).
-/

namespace Webhook.Json

/-- Whether a shape is that of an optional value. -/
def Shape.isOptional : Shape → Bool
  | .optional _ => true
  | _ => false

mutual

/-- Whether the data of a shape can be told from its text. -/
def Shape.sound : Shape → Bool
  | .choice words => decide words.Nodup
  | .optional s | .list s | .table s => s.sound
  | .record _ fields | .looseRecord _ fields => fields.sound
  | _ => true
termination_by structural s => s

/-- Whether the data of the fields of a record can be told from its text. -/
def Fields.sound : Fields → Bool
  | .nil => true
  | .cons name required s rest =>
    !(required && s.isOptional) && decide (name ∉ rest.names) && s.sound && rest.sound
termination_by structural fields => fields

end

@[simp] theorem Fields.sound_cons {name : String} {required : Bool} {s : Shape} {rest : Fields} :
    (Fields.cons name required s rest).sound = true ↔
      (required && s.isOptional) = false ∧ name ∉ rest.names ∧ s.sound = true ∧
        rest.sound = true := by
  rw [sound, Bool.and_eq_true_iff, Bool.and_eq_true_iff, Bool.and_eq_true_iff, Bool.not_eq_true',
    decide_eq_true_eq, and_assoc, and_assoc]

/-! ## Trees of several pieces of data -/

theorem forall₂_imp_mem {α β : Type} {r r' : α → β → Prop} :
    ∀ {xs : List α} {ys : List β}, (∀ x, ∀ y ∈ ys, r x y → r' x y) →
      List.Forall₂ r xs ys → List.Forall₂ r' xs ys
  | _, _, _, .nil => .nil
  | _, _, h, .cons hxy hs =>
      .cons (h _ _ (.head _) hxy) (forall₂_imp_mem (fun x y hy => h x y (.tail _ hy)) hs)

theorem forall₂_of_showsItems {α : Type} {toValue : α → Value} :
    ∀ {vs : List α} {ts : List Tree}, ShowsItems ts (rawItems (vs.map toValue)) →
      List.Forall₂ (fun t v => Shows t (toValue v).raw) ts vs
  | [], _, .nil => .nil
  | _ :: _, _, .cons ht hts => .cons ht (forall₂_of_showsItems hts)

/-- Members are the trees of entries with the same names. -/
theorem forall₂_of_showsMembers :
    ∀ {es : List (String × Value)} {ms : List Member}, ShowsMembers ms (rawMembers es) →
      List.Forall₂ (fun m e => m.readName = .ok e.1 ∧ Shows m.value e.2.raw) ms es
  | [], _, .nil => .nil
  | (name, _) :: _, _, .cons ht hms =>
      .cons ⟨readName_escaped _ _ _ _ name _, ht⟩ (forall₂_of_showsMembers hms)

/-- Only null is printed as null. -/
theorem isNull_of_shows {v : Value} {t : Tree} (h : Shows t v.raw) (hv : v ≠ .null) :
    t.isNull = false := by
  cases v with
  | null => exact absurd rfl hv
  | bool b =>
      cases h
      cases b with
      | true => rfl
      | false => rfl
  | number n =>
      cases h
      rfl
  | string s =>
      cases h
      rfl
  | list items =>
      cases h
      rfl
  | object members =>
      cases h
      rfl

/-! ## The slots of a record -/

/-- The slots of a record after its members. -/
def Fields.filled : (fields : Fields) → fields.Val → fields.Slots
  | .nil, _ => ()
  | .cons _ _ s rest, (v, vs) => (if s.isAbsent v then none else some v, rest.filled vs)

theorem Shape.fromSlot?_absent {required : Bool} :
    ∀ {s : Shape} {v : s.Val}, s.isAbsent v = true → (required && s.isOptional) = false →
      s.fromSlot? required none = some v
  | .optional _, none, _, h => by
      cases required with
      | true => cases h
      | false => rfl

/-- The slots that are filled give back the data. -/
theorem Fields.complete_filled (stop : Nat) : ∀ {fields : Fields} {v : fields.Val},
    fields.sound = true → fields.complete stop (fields.filled v) = .ok v
  | .nil, _, _ => rfl
  | .cons name required s rest, (v, vs), h => by
      obtain ⟨hoptional, -, -, hrest⟩ := sound_cons.mp h
      have hslot : s.fromSlot? required (if s.isAbsent v then none else some v) = some v := by
        split
        next habsent => exact s.fromSlot?_absent habsent hoptional
        next => rfl
      refine (complete_cons stop name required s rest _ (rest.filled vs)).trans ?_
      rw [hslot, rest.complete_filled stop hrest]
      rfl

theorem Fields.names_toMembers : ∀ {fields : Fields} {v : fields.Val},
    ∀ m ∈ fields.toMembers v, m.1 ∈ fields.names
  | .cons name required s rest, (v, vs), m, hm => by
      rw [toMembers] at hm
      split at hm
      next => exact .tail _ (rest.names_toMembers m hm)
      next =>
        rcases List.mem_cons.mp hm with rfl | hm
        · exact .head _
        · exact .tail _ (rest.names_toMembers m hm)

theorem Fields.readMember_of_readName {fields : Fields} {d : Nat} {once : Bool} {m : Member}
    {name : String} (hname : m.readName = .ok name) (slots : fields.Slots) :
    fields.readMember d once slots m = match fields.store d once name m slots with
      | some result => result
      | none => m.skip.map fun _ => slots := by
  rw [readMember, hname]
  rfl

/-- A member of another name leaves a slot as it is. -/
theorem Fields.readMember_other {field : String} {required : Bool} {s : Shape} {rest : Fields}
    {d : Nat} {once : Bool} {m : Member} {name : String} (hname : m.readName = .ok name)
    (hne : name ≠ field) (slot : Option s.Val) (slots : rest.Slots) :
    (Fields.cons field required s rest).readMember d once (slot, slots) m
      = (rest.readMember d once slots m).map fun slots => (slot, slots) := by
  refine (readMember_of_readName hname _).trans ?_
  rw [readMember_of_readName hname, store_cons, if_neg hne]
  cases rest.store d once name m slots with
  | some result => rfl
  | none =>
      cases m.skip with
      | ok _ => rfl
      | error f => rfl

/-- The member of a field that has not been read yet, or may be there twice, fills its slot. -/
theorem Fields.readMember_same {field : String} {required : Bool} {s : Shape} {rest : Fields}
    {d : Nat} {once : Bool} {m : Member} {slot : Option s.Val} {v : s.Val}
    (hslot : (once && slot.isSome) = false) (hname : m.readName = .ok field)
    (hread : s.read d m.value = .ok v) (slots : rest.Slots) :
    (Fields.cons field required s rest).readMember d once (slot, slots) m
      = .ok (some v, slots) := by
  refine (readMember_of_readName hname _).trans ?_
  rw [store_cons, if_pos rfl, hslot, hread]
  rfl

theorem Fields.foldlM_other {field : String} {required : Bool} {s : Shape} {rest : Fields}
    {d : Nat} {once : Bool} (slot : Option s.Val) :
    ∀ {ms : List Member} {slots slots' : rest.Slots},
      (∀ m ∈ ms, ∃ name, m.readName = .ok name ∧ name ≠ field) →
      ms.foldlM (rest.readMember d once) slots = .ok slots' →
      ms.foldlM ((Fields.cons field required s rest).readMember d once) (slot, slots)
        = .ok (slot, slots')
  | [], _, _, _, h => by
      cases h
      rfl
  | m :: ms, slots, slots', hms, h => by
      rw [List.foldlM_cons] at h
      obtain ⟨slots'', hread, h⟩ := bind_eq_ok h
      obtain ⟨name, hname, hne⟩ := hms m (.head _)
      refine foldlM_cons_ok ((readMember_other hname hne slot slots).trans ?_)
        (foldlM_other slot (fun m hm => hms m (.tail _ hm)) h)
      rw [hread]
      rfl

/-- The names of the members of a record are those of its fields. -/
theorem Fields.readName_raw {fields : Fields} {v : fields.Val} {ms : List Member}
    (h : ShowsMembers ms (rawMembers (fields.toMembers v))) :
    ∀ m ∈ ms, ∃ name, m.readName = .ok name ∧ name ∈ fields.names := by
  intro m hm
  obtain ⟨e, he, hname, -⟩ := exists_of_mem_forall₂ (forall₂_of_showsMembers h) hm
  exact ⟨e.1, hname, fields.names_toMembers e he⟩

theorem Fields.readMembers_of_foldlM {fields : Fields} {d : Nat} {once : Bool} {ms : List Member}
    {v : fields.Val} {stop : Nat} (hs : fields.sound = true)
    (h : ms.foldlM (fields.readMember d once) fields.noSlots = .ok (fields.filled v)) :
    fields.readMembers d once ms (.closed stop) = .ok v := by
  unfold readMembers
  rw [h]
  exact fields.complete_filled stop hs

/-! ## Reading back -/

theorem Shape.read_list_ok {s : Shape} {e start stop : Nat} {items : List Tree} {vs : List s.Val}
    (h : items.mapM (s.read e) = .ok vs) :
    (Shape.list s).read (e + 1) (.list start items (.closed stop)) = .ok vs := by
  rw [read_list, h]

theorem Shape.read_table_ok {s : Shape} {e start stop : Nat} {ms : List Member}
    {es : List (String × s.Val)} (h : ms.mapM (s.readEntry e) = .ok es) :
    (Shape.table s).read (e + 1) (.object start ms (.closed stop)) = .ok (sortMembers es) := by
  rw [read_table, h]

theorem readWord_get {words : List String} (h : words.Nodup) (i : Fin words.length) (stop : Nat) :
    readWord words (words.get i) stop = .ok i := by
  have hindex : words.finIdxOf? (words.get i) = some i := by
    rw [List.finIdxOf?_eq_some_iff]
    refine ⟨rfl, fun j hj heq => ?_⟩
    exact absurd (Fin.ext (h.getElem_inj_iff.mp heq)) (Fin.ne_of_lt hj)
  rw [readWord, hindex]

theorem readChoice_get {words : List String} (h : words.Nodup) (i : Fin words.length)
    (d start stop : Nat) :
    (Tree.scalar start (.string (escaped (words.get i)) (.closed stop))).readChoice words d
      = .ok i := by
  have hvariant : (Tree.scalar start (.string (escaped (words.get i)) (.closed stop))).readVariant
      words = .ok i := by
    rw [Tree.readVariant, readString_escaped]
    exact readWord_get h i stop
  exact hvariant

theorem readShort_raw (start : Nat) (n : Fin 0x10000) :
    (Tree.scalar start (.number (spell (Number.whole (n.val : Int)).render))).readShort
      = .ok n := by
  have hrange : wholeRange (n.val : Int) := ⟨by omega, by omega⟩
  have hlt : (n.val : Int).toNat < 0x10000 ∧ 0 ≤ (n.val : Int) := ⟨n.isLt, by omega⟩
  rw [Tree.readShort, readNumber_render start hrange]
  exact dif_pos hlt

mutual

/-- Every tree of what is printed for data is read as that data. -/
theorem Shape.read_raw : ∀ (s : Shape) {d : Nat} {t : Tree} {v : s.Val}, s.sound = true →
    (s.toValue v).floatFree = true → s.Kept d v → Shows t (s.toValue v).raw → s.read d t = .ok v
  | .text, _, _, v, _, _, _, .string => readString_escaped _ _ v
  | .flag, _, _, true, _, _, _, .word => rfl
  | .flag, _, _, false, _, _, _, .word => rfl
  | .short, _, _, v, _, _, _, .number => readShort_raw _ v
  | .any, _, _, v, _, hfree, hkept, ht => readValue_raw v hfree hkept ht
  | .choice _, d, _, i, hs, _, _, .string => readChoice_get (of_decide_eq_true hs) i d _ _
  | .optional _, _, _, none, _, _, _, .word => rfl
  | .optional s, d, t, some v, hs, hfree, ⟨hkept, hnull⟩, ht => by
      have hread := s.read_raw hs hfree hkept ht
      -- a value printed as null would be taken for none
      rw [Shape.read_optional, isNull_of_shows ht hnull, hread]
      rfl
  | .list s, _, _, vs, hs, hfree, ⟨e, rfl, hkept⟩, .list ht => by
      refine Shape.read_list_ok (mapM_of_forall₂
        (forall₂_imp_mem (fun t v hv htv => ?_) (forall₂_of_showsItems ht)))
      have hv' := itemsFloatFree_iff.mp hfree (s.toValue v) (List.mem_map_of_mem hv)
      exact s.read_raw hs hv' (hkept v hv) htv
  | .table s, _, _, es, hs, hfree, ⟨e, rfl, hsorted, hkept⟩, .object ht => by
      refine (Shape.read_table_ok (mapM_of_forall₂ (forall₂_imp_mem (fun m entry hentry hm => ?_)
        (List.forall₂_map_right_iff.mp (forall₂_of_showsMembers ht))))).trans
          (congrArg Except.ok (sortMembers_of_sortedNames hsorted))
      have hv := membersFloatFree_iff.mp hfree (entry.1, s.toValue entry.2)
        (List.mem_map_of_mem hentry)
      rw [Shape.readEntry, hm.1, s.read_raw hs hv (hkept entry hentry) hm.2]
      rfl
  | .record _ fields, _, _, v, hs, hfree, ⟨e, rfl, hkept⟩, .object ht =>
      Fields.readMembers_of_foldlM hs (fields.foldlM_raw hs hfree hkept ht)
  | .looseRecord _ fields, _, _, v, hs, hfree, ⟨e, rfl, hkept⟩, .object ht =>
      Fields.readMembers_of_foldlM hs (fields.foldlM_raw hs hfree hkept ht)

/-- The members of the text of a record fill the slots of the fields that are in it. -/
theorem Fields.foldlM_raw : ∀ (fields : Fields) {d : Nat} {once : Bool} {ms : List Member}
    {v : fields.Val}, fields.sound = true → membersFloatFree (fields.toMembers v) = true →
    fields.Kept d v → ShowsMembers ms (rawMembers (fields.toMembers v)) →
    ms.foldlM (fields.readMember d once) fields.noSlots = .ok (fields.filled v)
  | .nil, _, _, _, _, _, _, _, .nil => rfl
  | .cons name required s rest, d, once, ms, (v, vs), hs, hfree, ⟨hv, hvs⟩, ht => by
      rw [membersFloatFree_cons, Bool.and_eq_true_iff] at hfree
      obtain ⟨hfirst, hfree⟩ := hfree
      obtain ⟨-, hname, hs, hrest⟩ := Fields.sound_cons.mp hs
      -- no member of the other fields has the name of this one
      have others : ∀ {ms : List Member}, ShowsMembers ms (rawMembers (rest.toMembers vs)) →
          ∀ m ∈ ms, ∃ n, m.readName = .ok n ∧ n ≠ name := by
        intro ms hms m hm
        obtain ⟨n, hread, hn⟩ := Fields.readName_raw hms m hm
        refine ⟨n, hread, ?_⟩
        rintro rfl
        exact hname hn
      rw [Fields.toMembers] at ht
      split at ht
      next habsent =>
        have hfilled : (Fields.cons name required s rest).filled (v, vs)
            = (none, rest.filled vs) := by
          rw [Fields.filled, if_pos habsent]
        rw [hfilled]
        exact Fields.foldlM_other none (others ht) (rest.foldlM_raw hrest hfree hvs ht)
      next habsent =>
        have hfilled : (Fields.cons name required s rest).filled (v, vs)
            = (some v, rest.filled vs) := by
          rw [Fields.filled, if_neg habsent]
        rw [hfilled]
        cases ht with
        | cons htv hms =>
            exact foldlM_cons_ok
              (Fields.readMember_same (Bool.and_false once) (readName_escaped _ _ _ _ name _)
                (s.read_raw hs hfirst hv htv) rest.noSlots)
              (Fields.foldlM_other (some v) (others hms) (rest.foldlM_raw hrest hfree hvs hms))

end

theorem Shape.readText_inv {s : Shape} {text : Bytes} {v : s.Val} (h : s.readText text = .ok v) :
    ∃ t, document text = ⟨t, none⟩ ∧ s.read nestingLimit t = .ok v := by
  unfold readText at h
  simp only at h
  split at h
  next => cases h
  next => cases h
  next hread htrailing =>
    cases h
    exact ⟨_, by rw [← htrailing], hread⟩

theorem Shape.kept_of_readText {s : Shape} {text : Bytes} {v : s.Val}
    (h : s.readText text = .ok v) : s.Kept nestingLimit v := by
  obtain ⟨t, -, hread⟩ := readText_inv h
  exact s.kept_of_read hread

/-- Data is read back from its text. -/
theorem Shape.readText_print {s : Shape} {v : s.Val} (hs : s.sound = true)
    (hfree : (s.toValue v).floatFree = true) (hkept : s.Kept nestingLimit v) :
    s.readText (Utf8.encode (String.ofList (s.print v))) = .ok v := by
  have htext : IsText (s.toValue v).raw (Utf8.encode (String.ofList (s.print v))) := by
    rw [encode_ofList, s.print_eq v]
    exact isText_print hfree
  obtain ⟨t, hdocument, ht⟩ := htext.document
  rw [readText, hdocument]
  simp only [s.read_raw hs hfree hkept ht]

end Webhook.Json
