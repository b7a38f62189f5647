import Webhook.Proofs.Json.Spelling

/-!
# Reading does not depend on the spelling

What is read from one spelling of a value is read from every other one (`Shape.read_same`).  Only
the faults differ, since they are noticed at another place, and another one may come first.

Two things carry this.  A member is read in the same way in both spellings
(`Fields.readMember_respelled`).  And members with different names fill different slots, so two of
them that stand side by side may be swapped (`Fields.readMember_swap`), and all of them may be put
in another order (`Fields.foldlM_perm`).  The entries of tables and objects are sorted in the end
(`sortMembers_perm`).
-/

namespace Webhook.Json

/-! ## Results of several steps -/

theorem mapM_transport {ε α β : Type} {f : α → Except ε β} {r : α → α → Prop}
    {xs ys : List α} {vs : List β} (step : ∀ x y v, r x y → f x = .ok v → f y = .ok v)
    (hs : List.Forall₂ r xs ys) (h : xs.mapM f = .ok vs) : ys.mapM f = .ok vs := by
  induction hs generalizing vs with
  | nil => exact h
  | cons hxy _ ih =>
      rw [List.mapM_cons] at h
      obtain ⟨v, hv, h⟩ := bind_eq_ok h
      obtain ⟨vs, hvs, h⟩ := bind_eq_ok h
      rw [List.mapM_cons, step _ _ _ hxy hv, ih hvs]
      exact h

theorem foldlM_transport {ε α β : Type} {f : β → α → Except ε β} {r : α → α → Prop}
    {xs ys : List α} {b b' : β} (step : ∀ b b' x y, r x y → f b x = .ok b' → f b y = .ok b')
    (hs : List.Forall₂ r xs ys) (h : xs.foldlM f b = .ok b') : ys.foldlM f b = .ok b' := by
  induction hs generalizing b with
  | nil => exact h
  | cons hxy _ ih =>
      rw [List.foldlM_cons] at h
      obtain ⟨b, hb, h⟩ := bind_eq_ok h
      exact foldlM_cons_ok (step _ _ _ _ hxy hb) (ih h)

/-! ## Texts -/

/-- A tree of a string for a text. -/
def Tree.Spells (t : Tree) (s : String) : Prop :=
  ∃ start raw stop, t = .scalar start (.string raw (.closed stop)) ∧ stringText? raw = some s

theorem Tree.Same.spells {t t' : Tree} {s : String} (h : t.Same t') (ht : t.Spells s) :
    t'.Spells s := by
  obtain ⟨start, raw, stop, rfl, htext⟩ := ht
  obtain ⟨-, start', raw', stop', -, rfl, hsame⟩ := h.string_inv
  exact ⟨start', raw', stop', rfl, hsame ▸ htext⟩

theorem Shape.read_text_iff {d : Nat} {t : Tree} {s : String} :
    Shape.text.read d t = .ok s ↔ t.Spells s := by
  constructor
  · intro h
    obtain ⟨start, raw, stop, rfl, hread⟩ := read_text_inv h
    exact ⟨start, raw, stop, rfl, readString_iff.mp hread⟩
  · rintro ⟨start, raw, stop, rfl, htext⟩
    exact readString_iff.mpr htext

theorem Member.readName_iff {m : Member} {name : String} :
    m.readName = .ok name ↔ m.name.Spells name := by
  constructor
  · intro h
    unfold readName at h
    split at h
    next start raw closing hm =>
      obtain ⟨stop, rfl⟩ := readString_closed h
      exact ⟨start, raw, stop, hm, readString_iff.mp h⟩
    next => cases h
    next => cases h
  · rintro ⟨start, raw, stop, hm, htext⟩
    obtain ⟨_, a, t, b⟩ := m
    cases hm
    exact readString_iff.mpr htext

theorem Member.name?_eq_some {m : Member} {name : String} :
    m.name? = some name ↔ m.readName = .ok name := by
  rw [name?]
  cases m.readName with
  | ok n =>
      constructor
      · rintro ⟨⟩
        rfl
      · rintro ⟨⟩
        rfl
  | error f => exact ⟨nofun, nofun⟩

theorem Member.Same.readName {m m' : Member} {name : String} (h : m.Same m')
    (hname : m.readName = .ok name) : m'.readName = .ok name :=
  name?_eq_some.mp (h.name ▸ name?_eq_some.mpr hname)

theorem Tree.readVariant_iff {words : List String} {t : Tree} {i : Fin words.length} :
    t.readVariant words = .ok i ↔ ∃ word, t.Spells word ∧ words.finIdxOf? word = some i := by
  constructor
  · intro h
    match t, h with
    | .scalar start (.string raw closing), h =>
        rw [readVariant] at h
        split at h
        next => cases h
        next word hread =>
          obtain ⟨stop, rfl⟩ := readString_closed hread
          refine ⟨word, ⟨start, raw, stop, rfl, readString_iff.mp hread⟩, ?_⟩
          rw [readWord] at h
          split at h
          next j hj =>
            cases h
            exact hj
          next => cases h
    | .scalar _ (.word _), h => cases h
    | .scalar _ (.number _), h => cases h
    | .scalar _ (.cutWord _ _), h => cases h
    | .scalar _ (.cutNumber _ _), h => cases h
    | .list _ _ _, h => cases h
    | .object _ _ _, h => cases h
    | .broken _, h => cases h
  · rintro ⟨word, ⟨start, raw, stop, rfl, htext⟩, hi⟩
    rw [readVariant, readString_iff.mpr htext]
    simp only
    rw [readWord, hi]

/-! ## Scalars -/

/-- Where a number stands has no part in its value. -/
theorem toOption_readNumber (n n' : Nat) (digits : Bytes) :
    (readNumber n digits).toOption = (readNumber n' digits).toOption := by
  unfold readNumber
  simp only
  generalize (digits.head? == some 0x2D) = negative
  generalize (if negative = true then digits.drop 1 else digits) = unsigned
  generalize ((unsigned.dropWhile isDigit).head? == some 0x2E) = hasPoint
  generalize (if hasPoint = true then ((unsigned.dropWhile isDigit).drop 1).takeWhile isDigit
    else []) = places
  generalize (if hasPoint = true then ((unsigned.dropWhile isDigit).drop 1).dropWhile isDigit
    else unsigned.dropWhile isDigit) = afterPlaces
  cases afterPlaces with
  | nil =>
      simp only
      split
      next => split <;> rfl
      next => split <;> rfl
  | cons letter signed =>
      simp only
      generalize (if (signed.head? == some 0x2D || signed.head? == some 0x2B) = true then
        signed.drop 1 else signed) = exponent
      cases readExponent 0 0 exponent with
      | ok e =>
          simp only
          split <;> rfl
      | error seen =>
          simp only
          split <;> rfl

theorem readNumber_ok {n n' : Nat} {digits : Bytes} {x : Number}
    (h : readNumber n digits = .ok x) : readNumber n' digits = .ok x := by
  have hsame := toOption_readNumber n n' digits
  rw [h] at hsame
  cases hread : readNumber n' digits with
  | ok y =>
      rw [hread] at hsame
      cases hsame
      rfl
  | error f =>
      rw [hread] at hsame
      cases hsame

/-- A tree of raw JSON has no break. -/
theorem Shows.skipFault?_eq {t : Tree} {k : Raw} (h : Shows t k) : t.skipFault? = none := by
  cases h <;> rfl

theorem Tree.readFlag_inv {t : Tree} {b : Bool} (h : t.readFlag = .ok b) :
    ∃ start, t = .scalar start (.word (if b then .yes else .no)) := by
  match t, h with
  | .scalar start (.word .yes), h =>
      cases h
      exact ⟨start, rfl⟩
  | .scalar start (.word .no), h =>
      cases h
      exact ⟨start, rfl⟩
  | .scalar _ (.word .null), h => cases h
  | .scalar _ (.number _), h => cases h
  | .scalar _ (.string _ _), h => cases h
  | .scalar _ (.cutWord _ _), h => cases h
  | .scalar _ (.cutNumber _ _), h => cases h
  | .list _ _ _, h => cases h
  | .object _ _ _, h => cases h
  | .broken _, h => cases h

theorem Tree.readFlag_word (start : Nat) (b : Bool) :
    (Tree.scalar start (.word (if b then .yes else .no))).readFlag = .ok b := by
  cases b with
  | true => rfl
  | false => rfl

theorem Tree.readShort_iff {t : Tree} {n : Fin 0x10000} : t.readShort = .ok n ↔
    ∃ start digits, t = .scalar start (.number digits) ∧
      readNumber start digits = .ok (.whole (n.val : Int)) := by
  constructor
  · intro h
    match t, h with
    | .scalar start (.number digits), h =>
        refine ⟨start, digits, rfl, ?_⟩
        rw [readShort] at h
        split at h
        next => cases h
        next => cases h
        next k hread =>
          split at h
          next hrange =>
            cases h
            rw [hread, Int.toNat_of_nonneg hrange.2]
          next => cases h
    | .scalar _ (.word _), h => cases h
    | .scalar _ (.string _ _), h => cases h
    | .scalar _ (.cutWord _ _), h => cases h
    | .scalar _ (.cutNumber _ _), h => cases h
    | .list _ _ _, h => cases h
    | .object _ _ _, h => cases h
    | .broken _, h => cases h
  · rintro ⟨start, digits, rfl, hread⟩
    have hrange : (n.val : Int).toNat < 0x10000 ∧ 0 ≤ (n.val : Int) := ⟨n.isLt, by omega⟩
    rw [readShort, hread]
    exact dif_pos hrange

/-! ## Values -/

theorem readItemValues_eq (d : Nat) (ts : List Tree) (done : List Value) :
    readItemValues d done ts = (ts.mapM (Tree.readValue d)).map (done.reverse ++ ·) := by
  induction ts generalizing done with
  | nil =>
      rw [readItemValues]
      exact congrArg Except.ok (List.append_nil _).symm
  | cons t ts ih =>
      rw [readItemValues, List.mapM_cons]
      cases t.readValue d with
      | error f => rfl
      | ok v =>
          simp only
          rw [ih (v :: done), List.reverse_cons]
          cases ts.mapM (Tree.readValue d) with
          | error f => rfl
          | ok vs => exact congrArg Except.ok (List.append_assoc _ _ _)

/-- Reads the name and the value of a member. -/
def Member.readAs {α : Type} (read : Tree → Except Fault α) (m : Member) :
    Except Fault (String × α) := do return (← m.readName, ← read m.value)

theorem readMemberValue_eq (d : Nat) : ∀ m : Member,
    readMemberValue d m = m.readAs (Tree.readValue d)
  | ⟨name, afterName, value, afterValue⟩ => by
      rw [readMemberValue, Member.readAs]
      cases (Member.mk name afterName value afterValue).readName with
      | error f => rfl
      | ok n =>
          cases value.readValue d with
          | error f => rfl
          | ok v => rfl

theorem readMemberValues_eq (d : Nat) (ms : List Member) (done : List (String × Value)) :
    readMemberValues d done ms
      = (ms.mapM (Member.readAs (Tree.readValue d))).map (done.reverse ++ ·) := by
  induction ms generalizing done with
  | nil =>
      rw [readMemberValues]
      exact congrArg Except.ok (List.append_nil _).symm
  | cons m ms ih =>
      rw [readMemberValues, List.mapM_cons, readMemberValue_eq]
      cases m.readAs (Tree.readValue d) with
      | error f => rfl
      | ok e =>
          simp only
          rw [ih (e :: done), List.reverse_cons]
          cases ms.mapM (Member.readAs (Tree.readValue d)) with
          | error f => rfl
          | ok es => exact congrArg Except.ok (List.append_assoc _ _ _)

/-- A list is read as the list of what its items are read as. -/
theorem Tree.readValue_list (d start stop : Nat) (ts : List Tree) :
    (Tree.list start ts (.closed stop)).readValue (d + 1)
      = (ts.mapM (Tree.readValue d)).map .list := by
  unfold readValue
  simp only
  rw [readItemValues_eq]
  cases ts.mapM (Tree.readValue d) with
  | error f => rfl
  | ok vs => rfl

/-- An object is read as its members in the order of their names. -/
theorem Tree.readValue_object (d start stop : Nat) (ms : List Member) :
    (Tree.object start ms (.closed stop)).readValue (d + 1)
      = (ms.mapM (Member.readAs (Tree.readValue d))).map fun es => .object (sortMembers es) := by
  unfold readValue
  simp only
  rw [readMemberValues_eq]
  cases ms.mapM (Member.readAs (Tree.readValue d)) with
  | error f => rfl
  | ok es => rfl

/-! ## Entries in another order -/

/-- Members with different names are sorted in one way only. -/
theorem sortMembers_perm {α : Type} {es es' : List (String × α)} (hnodup : (es.map (·.1)).Nodup)
    (hperm : es.Perm es') : sortMembers es = sortMembers es' := by
  have hnodup' : (es'.map (·.1)).Nodup := (hperm.map (·.1)).nodup hnodup
  have mem : ∀ {es : List (String × α)}, (es.map (·.1)).Nodup →
      ∀ e, e ∈ sortMembers es ↔ e ∈ es := by
    intro es hnodup e
    rw [mem_sortMembers_iff]
    have hreverse : (es.reverse.map (·.1)).Nodup := by
      rw [List.map_reverse]
      exact List.nodup_reverse.mpr hnodup
    exact ⟨fun h => List.mem_reverse.mp (mem_of_lookup h),
      fun h => lookup_of_nodup hreverse (List.mem_reverse.mpr h)⟩
  have hsorted := sortedNames_sortMembers es
  have hsorted' := sortedNames_sortMembers es'
  have hsame : (sortMembers es).Perm (sortMembers es') :=
    (List.perm_ext_iff_of_nodup hsorted.nodup.of_map hsorted'.nodup.of_map).mpr fun e =>
      (mem hnodup e).trans (hperm.mem_iff.trans (mem hnodup' e).symm)
  exact hsame.eq_of_pairwise
    (fun a b _ _ hab hba => absurd hab (String.lt_asymm hba)) hsorted hsorted'

/-- The entries of an object are the same in every spelling, once they are sorted. -/
theorem readAs_same {α : Type} {read : Tree → Except Fault α}
    (hread : ∀ t t' v, Tree.Same t t' → read t = .ok v → read t' = .ok v)
    {ms ns ms' : List Member} {es : List (String × α)} (hms : List.Forall₂ Member.Same ms ns)
    (horder : Reordered Member.name? ns ms') (h : ms.mapM (Member.readAs read) = .ok es) :
    ∃ es', ms'.mapM (Member.readAs read) = .ok es' ∧ sortMembers es' = sortMembers es := by
  have hns : ns.mapM (Member.readAs read) = .ok es := by
    refine mapM_transport (fun m n e hmn he => ?_) hms h
    obtain ⟨name, hname, he⟩ := bind_eq_ok he
    obtain ⟨v, hv, he⟩ := bind_eq_ok he
    rw [Member.readAs, hmn.readName hname, hread _ _ _ hmn.value hv]
    exact he
  have hkey : ∀ (e : String × α) (m : Member), m.readAs read = .ok e → some e.1 = m.name? := by
    intro e m he
    obtain ⟨name, hname, he⟩ := bind_eq_ok he
    obtain ⟨v, hv, he⟩ := bind_eq_ok he
    cases he
    exact (Member.name?_eq_some.mpr hname).symm
  obtain ⟨es', hes, hms'⟩ := horder.lift hkey (forall₂_of_mapM hns).flip
  refine ⟨es', mapM_of_forall₂ hms'.flip, ?_⟩
  rcases hes with rfl | ⟨hnodup, hperm⟩
  · rfl
  · rw [List.filterMap_eq_map'] at hnodup
    exact (sortMembers_perm hnodup hperm).symm

/-- A value is the same in every spelling. -/
theorem Tree.readValue_same : ∀ (d : Nat) (t t' : Tree) (v : Value), t.Same t' →
    t.readValue d = .ok v → t'.readValue d = .ok v
  | d, .scalar n (.word w), t', v, hsame, h => by
      obtain ⟨n', rfl⟩ := hsame.word_inv
      cases w <;> exact h
  | d, .scalar n (.number digits), t', v, hsame, h => by
      obtain ⟨n', rfl⟩ := hsame.number_inv
      rw [readValue, Scalar.read] at h ⊢
      cases hread : readNumber n digits with
      | error f =>
          rw [hread] at h
          cases h
      | ok x =>
          rw [hread] at h
          rw [readNumber_ok hread]
          exact h
  | d, .scalar n (.string raw closing), t', v, hsame, h => by
      obtain ⟨e, n', raw', e', rfl, rfl, htext⟩ := hsame.string_inv
      rw [readValue, Scalar.read] at h ⊢
      cases hread : readString n raw (.closed e) with
      | error f =>
          rw [hread] at h
          cases h
      | ok s =>
          rw [hread] at h
          rw [readString_iff.mpr (htext ▸ readString_iff.mp hread)]
          exact h
  | 0, .list _ _ _, _, _, _, h => by cases h
  | 0, .object _ _ _, _, _, _, h => by cases h
  | d + 1, .list start ts ending, _, _, hsame, h => by
      obtain ⟨e, start', ts', e', rfl, rfl, hts⟩ := hsame.list_inv
      rw [readValue_list] at h ⊢
      obtain ⟨vs, hvs, rfl⟩ := map_eq_ok h
      rw [mapM_transport (fun t t' v => readValue_same d t t' v) hts hvs]
      rfl
  | d + 1, .object start ms ending, _, _, hsame, h => by
      obtain ⟨e, start', ns, ms', e', rfl, rfl, hms, horder⟩ := hsame.object_inv
      rw [readValue_object] at h ⊢
      obtain ⟨es, hes, rfl⟩ := map_eq_ok h
      obtain ⟨es', hes', hsort⟩ :=
        readAs_same (fun t t' v => readValue_same d t t' v) hms horder hes
      rw [hes']
      exact congrArg (fun es => Except.ok (Value.object es)) hsort
  | _, .broken _, _, _, _, h => by cases h
  | _, .scalar _ (.cutWord _ _), _, _, _, h => by cases h
  | _, .scalar _ (.cutNumber _ _), _, _, _, h => by cases h

/-- A word of a choice is the same in every spelling. -/
theorem Tree.Same.readChoice {words : List String} {d : Nat} {t t' : Tree} {i : Fin words.length}
    (hsame : t.Same t') (h : t.readChoice words d = .ok i) : t'.readChoice words d = .ok i := by
  rcases Tree.readChoice_inv h with ⟨start, raw, stop, rfl, hvariant⟩ |
    ⟨e, start, m, stop, rfl, rfl, hvariant, hnull⟩
  · obtain ⟨word, hword, hi⟩ := Tree.readVariant_iff.mp hvariant
    obtain ⟨-, start', raw', stop', -, rfl, -⟩ := hsame.string_inv
    exact Tree.readVariant_iff.mpr ⟨word, hsame.spells hword, hi⟩
  · obtain ⟨-, start', ns, ms', stop', -, rfl, hms, horder⟩ := hsame.object_inv
    cases hms with
    | @cons _ n _ _ hm hnil =>
        cases hnil
        have honly : ms' = [n] := by
          rcases horder with rfl | ⟨-, hperm⟩
          · rfl
          · exact hperm.symm.eq_singleton
        obtain ⟨word, hword, hi⟩ := Tree.readVariant_iff.mp hvariant
        have hname := Member.readName_iff.mp (hm.readName (Member.readName_iff.mpr hword))
        rw [honly, Tree.readChoice_object, Tree.readVariant_iff.mpr ⟨word, hname, hi⟩]
        simp only
        rw [if_pos (hm.value.isNull_iff.mp hnull)]
        rfl

/-! ## Records -/

namespace Fields

/-- The first field of a record takes the members of its name, and the other fields the others. -/
theorem readMember_cons_inv {field : String} {required : Bool} {s : Shape} {rest : Fields}
    {d : Nat} {once : Bool} {slot : Option s.Val} {slots : rest.Slots} {m : Member}
    {filled : (Fields.cons field required s rest).Slots}
    (h : (Fields.cons field required s rest).readMember d once (slot, slots) m = .ok filled) :
    (∃ v, m.readName = .ok field ∧ (once && slot.isSome) = false ∧ s.read d m.value = .ok v ∧
      filled = (some v, slots)) ∨
    ∃ name slots', m.readName = .ok name ∧ name ≠ field ∧
      rest.readMember d once slots m = .ok slots' ∧ filled = (slot, slots') := by
  obtain ⟨name, hname, -⟩ := readMember_inv h
  by_cases hfield : name = field
  · subst hfield
    have h := (readMember_of_readName hname _).symm.trans h
    rw [store_cons, if_pos rfl] at h
    split at h
    next result hresult =>
      split at hresult
      next =>
        cases hresult
        cases h
      next hslot =>
        cases hresult
        obtain ⟨v, hv, rfl⟩ := map_eq_ok h
        exact .inl ⟨v, hname, Bool.eq_false_iff.mpr hslot, hv, rfl⟩
    next hresult =>
      split at hresult
      next => cases hresult
      next => cases hresult
  · have h := (readMember_other hname hfield slot slots).symm.trans h
    obtain ⟨slots', hslots, rfl⟩ := map_eq_ok h
    exact .inr ⟨name, slots', hname, hfield, hslots, rfl⟩

theorem readMember_other_ok {field : String} {required : Bool} {s : Shape} {rest : Fields}
    {d : Nat} {once : Bool} {m : Member} {name : String} {slot : Option s.Val}
    {slots slots' : rest.Slots} (hname : m.readName = .ok name) (hne : name ≠ field)
    (h : rest.readMember d once slots m = .ok slots') :
    (Fields.cons field required s rest).readMember d once (slot, slots) m
      = .ok (slot, slots') := by
  refine (readMember_other hname hne slot slots).trans ?_
  rw [h]
  rfl

/-- A member that no field has the name of is passed over. -/
theorem readMember_unknown {d : Nat} {once : Bool} {m : Member} {name : String}
    (hname : m.readName = .ok name) (hvalue : m.value.skipFault? = none) :
    ∀ {fields : Fields}, name ∉ fields.names → ∀ slots : fields.Slots,
      fields.readMember d once slots m = .ok slots
  | .nil, _, slots => by
      refine (readMember_of_readName hname slots).trans ?_
      have hskip : m.skip = .ok () := by
        rw [Member.skip, hvalue]
      exact congrArg (Except.map fun _ => slots) hskip
  | .cons field required s rest, hnames, (slot, slots) => by
      rw [names, List.mem_cons, not_or] at hnames
      exact readMember_other_ok hname hnames.1 (readMember_unknown hname hvalue hnames.2 slots)

/-- Two members with different names may be read in either order. -/
theorem readMember_swap {d : Nat} {once : Bool} {m m' : Member} (hne : m.name? ≠ m'.name?) :
    ∀ {fields : Fields} {slots slots' slots'' : fields.Slots},
      fields.readMember d once slots m = .ok slots' →
      fields.readMember d once slots' m' = .ok slots'' →
      ∃ between, fields.readMember d once slots m' = .ok between ∧
        fields.readMember d once between m = .ok slots''
  | .nil, slots, _, _, h, h' => ⟨slots, h', h⟩
  | .cons field required s rest, (slot, slots), _, _, h, h' => by
      rcases readMember_cons_inv h with ⟨v, hname, hslot, hv, rfl⟩ |
        ⟨name, slots', hname, hfield, hm, rfl⟩
      · rcases readMember_cons_inv h' with ⟨-, hname', -⟩ |
          ⟨name', slots'', hname', hfield', hm', rfl⟩
        · refine absurd ?_ hne
          rw [Member.name?_eq_some.mpr hname, Member.name?_eq_some.mpr hname']
        · exact ⟨(slot, slots''), readMember_other_ok hname' hfield' hm',
            readMember_same hslot hname hv slots''⟩
      · rcases readMember_cons_inv h' with ⟨v, hname', hslot, hv, rfl⟩ |
          ⟨name', slots'', hname', hfield', hm', rfl⟩
        · exact ⟨(some v, slots), readMember_same hslot hname' hv slots,
            readMember_other_ok hname hfield hm⟩
        · obtain ⟨between, hbetween, hm⟩ := readMember_swap hne hm hm'
          exact ⟨(slot, between), readMember_other_ok hname' hfield' hbetween,
            readMember_other_ok hname hfield hm⟩

/-- Members with different names may be read in any order. -/
theorem foldlM_perm {fields : Fields} {d : Nat} {once : Bool} {ms ms' : List Member}
    (hperm : ms.Perm ms') : ∀ {slots slots' : fields.Slots}, (ms.filterMap Member.name?).Nodup →
      ms.foldlM (fields.readMember d once) slots = .ok slots' →
      ms'.foldlM (fields.readMember d once) slots = .ok slots' := by
  induction hperm with
  | nil =>
      intro slots slots' _ h
      exact h
  | cons m _ ih =>
      intro slots slots' hnodup h
      rw [List.foldlM_cons] at h
      obtain ⟨slots'', hm, h⟩ := bind_eq_ok h
      have htail := hnodup.sublist ((List.sublist_cons_self m _).filterMap Member.name?)
      exact foldlM_cons_ok hm (ih htail h)
  | swap m m' ms =>
      intro slots slots' hnodup h
      rw [List.foldlM_cons] at h
      obtain ⟨after', hm', h⟩ := bind_eq_ok h
      rw [List.foldlM_cons] at h
      obtain ⟨after, hm, h⟩ := bind_eq_ok h
      -- the one that is read first has a name, and no other member has it
      have hne : m'.name? ≠ m.name? := by
        intro heq
        obtain ⟨name, hname, -⟩ := readMember_inv hm
        have hname := Member.name?_eq_some.mpr hname
        rw [List.filterMap_cons, heq, List.filterMap_cons, hname] at hnodup
        exact (List.nodup_cons.mp hnodup).1 (.head _)
      obtain ⟨between, hbetween, hm⟩ := readMember_swap hne hm' hm
      exact foldlM_cons_ok hbetween (foldlM_cons_ok hm h)
  | trans hperm _ ih ih' =>
      intro slots slots' hnodup h
      exact ih' ((hperm.filterMap Member.name?).nodup hnodup) (ih hnodup h)

/-- Where a record ends has no part in its data. -/
theorem complete_ok {stop stop' : Nat} : ∀ {fields : Fields} {slots : fields.Slots}
    {v : fields.Val}, fields.complete stop slots = .ok v → fields.complete stop' slots = .ok v
  | .nil, _, _, h => h
  | .cons name required s rest, (slot, slots), v, h => by
      have h := (complete_cons stop name required s rest slot slots).symm.trans h
      refine (complete_cons stop' name required s rest slot slots).trans ?_
      split at h
      next w hw =>
        obtain ⟨vs, hvs, rfl⟩ := map_eq_ok h
        rw [complete_ok hvs]
        rfl
      next => cases h

/-- A record depends on its members only through the slots that they fill. -/
theorem readMembers_of_slots {fields : Fields} {d : Nat} {once : Bool} {ms ms' : List Member}
    {ending : Ending} {stop : Nat} {v : fields.Val}
    (hslots : ∀ slots, ms.foldlM (fields.readMember d once) fields.noSlots = .ok slots →
      ms'.foldlM (fields.readMember d once) fields.noSlots = .ok slots)
    (h : fields.readMembers d once ms ending = .ok v) :
    fields.readMembers d once ms' (.closed stop) = .ok v := by
  obtain ⟨_, slots, -, hfold, hcomplete⟩ := readMembers_inv h
  unfold readMembers
  rw [hslots slots hfold]
  exact complete_ok hcomplete

/-- A record is the same in every spelling, if each of its members is. -/
theorem readMembers_same {fields : Fields} {d : Nat} {once : Bool} {ms ns ms' : List Member}
    {ending : Ending} {stop : Nat} {v : fields.Val}
    (hread : ∀ (slots slots' : fields.Slots) (m m' : Member), m.Same m' →
      fields.readMember d once slots m = .ok slots' →
      fields.readMember d once slots m' = .ok slots')
    (hms : List.Forall₂ Member.Same ms ns) (horder : Reordered Member.name? ns ms')
    (h : fields.readMembers d once ms ending = .ok v) :
    fields.readMembers d once ms' (.closed stop) = .ok v := by
  refine readMembers_of_slots (fun slots hslots => ?_) h
  have hns := foldlM_transport hread hms hslots
  rcases horder with rfl | ⟨hnodup, hperm⟩
  · exact hns
  · exact foldlM_perm hperm hnodup hns

end Fields

theorem readListEnd_inv {ts : List Tree} {ending : Ending} (h : readListEnd ts ending = .ok ()) :
    ts = [] ∧ ∃ stop, ending = .closed stop := by
  match ts, ending, h with
  | [], .closed stop, _ => exact ⟨rfl, stop, rfl⟩
  | [], .broken (.misplaced _ _ _ _), h => cases h
  | [], .broken (.scalar _), h => cases h
  | .broken (.misplaced _ _ _ _) :: _, _, h => cases h
  | .broken (.scalar _) :: _, _, h => cases h
  | .scalar _ _ :: _, _, h => cases h
  | .list _ _ _ :: _, _, h => cases h
  | .object _ _ _ :: _, _, h => cases h

/-! ## Data of a shape -/

/-- An optional value is read from one tree as from another, if its value is. -/
theorem Shape.read_optional_of {s : Shape} {d : Nat} {t t' : Tree} {v? : Option s.Val}
    (hnull : t.isNull = true ↔ t'.isNull = true)
    (hread : ∀ v, s.read d t = .ok v → s.read d t' = .ok v)
    (h : (Shape.optional s).read d t = .ok v?) : (Shape.optional s).read d t' = .ok v? := by
  rw [read_optional] at h ⊢
  split at h
  next ht =>
    rw [if_pos (hnull.mp ht)]
    exact h
  next ht =>
    obtain ⟨v, hv, rfl⟩ := map_eq_ok h
    rw [if_neg fun ht' => ht (hnull.mpr ht'), hread v hv]
    rfl

-- The recursion is on the shape: the members of a record are read with the shapes of its fields,
-- however deep the tree is.
mutual

/-- Data is the same in every spelling. -/
theorem Shape.read_same : ∀ (s : Shape) {d : Nat} (t t' : Tree) (v : s.Val), t.Same t' →
    s.read d t = .ok v → s.read d t' = .ok v
  | .text, _, _, _, _, hsame, h => Shape.read_text_iff.mpr (hsame.spells (Shape.read_text_iff.mp h))
  | .flag, _, t, _, b, hsame, h => by
      obtain ⟨start, rfl⟩ := Tree.readFlag_inv h
      obtain ⟨start', rfl⟩ := hsame.word_inv
      exact Tree.readFlag_word start' b
  | .short, _, t, _, n, hsame, h => by
      obtain ⟨start, digits, rfl, hread⟩ := Tree.readShort_iff.mp h
      obtain ⟨start', rfl⟩ := hsame.number_inv
      exact Tree.readShort_iff.mpr ⟨start', digits, rfl, readNumber_ok hread⟩
  | .any, d, t, t', v, hsame, h => t.readValue_same d t' v hsame h
  | .choice _, _, _, _, _, hsame, h => hsame.readChoice h
  | .optional s, _, t, t', _, hsame, h =>
      Shape.read_optional_of hsame.isNull_iff (fun v => s.read_same t t' v hsame) h
  | .list s, _, _, _, vs, hsame, h => by
      obtain ⟨e, start, items, stop, rfl, rfl, hitems⟩ := Shape.read_list_inv h
      obtain ⟨-, start', items', stop', -, rfl, hitems'⟩ := hsame.list_inv
      exact Shape.read_list_ok (mapM_transport s.read_same hitems' (mapM_of_forall₂ hitems))
  | .table s, _, _, _, es, hsame, h => by
      obtain ⟨e, start, ms, stop, es, rfl, rfl, hms, rfl⟩ := Shape.read_table_inv h
      obtain ⟨-, start', ns, ms', stop', -, rfl, hms', horder⟩ := hsame.object_inv
      obtain ⟨es', hes', hsort⟩ := readAs_same s.read_same hms' horder (mapM_of_forall₂ hms)
      rw [← hsort]
      exact Shape.read_table_ok hes'
  | .record title fields, _, _, _, v, hsame, h => by
      obtain ⟨e, start, rfl, ⟨ms, ending, rfl, h⟩ | ⟨items, ending, expected, rfl, h⟩⟩ :=
        Shape.read_record_inv h
      · obtain ⟨-, start', ns, ms', stop', -, rfl, hms, horder⟩ := hsame.object_inv
        exact Fields.readMembers_same fields.readMember_respelled hms horder h
      · obtain ⟨-, start', items', stop', -, rfl, hitems⟩ := hsame.list_inv
        exact fields.readItems_same hitems h
  | .looseRecord title fields, _, _, _, v, hsame, h => by
      obtain ⟨e, start, ms, ending, rfl, rfl, h⟩ := Shape.read_looseRecord_inv h
      obtain ⟨-, start', ns, ms', stop', -, rfl, hms, horder⟩ := hsame.object_inv
      exact Fields.readMembers_same fields.readMember_respelled hms horder h

/-- A member is read into the same slot in every spelling. -/
theorem Fields.readMember_respelled : ∀ (fields : Fields) {d : Nat} {once : Bool}
    (slots slots' : fields.Slots) (m m' : Member), m.Same m' →
    fields.readMember d once slots m = .ok slots' → fields.readMember d once slots m' = .ok slots'
  | .nil, _, _, _, _, m, m', hsame, h => by
      obtain ⟨name, hname, -⟩ := Fields.readMember_inv h
      obtain ⟨_, _, -, ht, -⟩ := hsame.value
      exact Fields.readMember_unknown (hsame.readName hname) ht.skipFault?_eq List.not_mem_nil _
  | .cons field required s rest, d, once, (slot, slots), _, m, m', hsame, h => by
      rcases Fields.readMember_cons_inv h with ⟨v, hname, hslot, hv, rfl⟩ |
        ⟨name, slots', hname, hfield, hslots, rfl⟩
      · exact Fields.readMember_same hslot (hsame.readName hname)
          (s.read_same m.value m'.value v hsame.value hv) slots
      · exact Fields.readMember_other_ok (hsame.readName hname) hfield
          (rest.readMember_respelled slots slots' m m' hsame hslots)

/-- The items of a list are read as the same fields in every spelling. -/
theorem Fields.readItems_same : ∀ (fields : Fields) {d : Nat} {expected expected' : String}
    {ending : Ending} {stop done done' : Nat} {ts ts' : List Tree} {v : fields.Val},
    List.Forall₂ Tree.Same ts ts' → fields.readItems d expected ending done ts = .ok v →
    fields.readItems d expected' (.closed stop) done' ts' = .ok v
  | .nil, _, _, _, _, _, _, _, ts, ts', _, hsame, h => by
      obtain ⟨rfl, -⟩ := readListEnd_inv h
      cases hsame
      rfl
  | .cons name required s rest, d, expected, expected', ending, stop, done, done', _, _, v,
      .cons ht hts, h => by
      have h := (Fields.readItems_cons name required s rest d expected ending done _ _).symm.trans h
      refine (Fields.readItems_cons name required s rest d expected' _ done' _ _).trans ?_
      split at h
      next => cases h
      next w hw =>
        obtain ⟨vs, hvs, rfl⟩ := map_eq_ok h
        rw [s.read_same _ _ w ht hw]
        simp only
        rw [rest.readItems_same hts hvs]
        rfl
  | .cons name required s rest, d, expected, expected', ending, stop, done, done', _, _, v,
      .nil, h => by
      have h := (Fields.readItems_nil name required s rest d expected ending done).symm.trans h
      refine (Fields.readItems_nil name required s rest d expected' _ done').trans ?_
      simp only
      split at h
      next => cases h
      next =>
        split at h
        next w hw =>
          obtain ⟨vs, hvs, rfl⟩ := map_eq_ok h
          rw [rest.readItems_same .nil hvs]
          rfl
        next => cases h

end

end Webhook.Json
