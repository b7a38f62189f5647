import Mathlib.Data.List.Forall2
import Webhook.Proofs.Json.Shapes

/-!
# What has been read

What follows when a tree is read as data of a shape.  `Shape.Kept` says of data that a reader could
have kept it: the values in it are kept (`Value.Kept`), the entries of its tables are in order, and
it is not nested too deeply.  Null stands for the absence of an optional value, so no data of
another meaning is null.  `Shape.kept_of_read` says that this holds of everything that is read.

A record is read member by member, into one slot for each field, and then its fields are completed
(`Fields.readMembers`).
-/

namespace Webhook.Json

/-! ## Results -/

theorem map_eq_ok {ε α β : Type} {f : α → β} {x : Except ε α} {b : β} (h : x.map f = .ok b) :
    ∃ a, x = .ok a ∧ f a = b := by
  cases x with
  | error e => cases h
  | ok a => exact ⟨a, rfl, Except.ok.inj h⟩

theorem eq_ok_of_isSome {ε α : Type} {x : Except ε α} (h : x.toOption.isSome = true) :
    ∃ a, x = .ok a := by
  cases x with
  | error e => cases h
  | ok a => exact ⟨a, rfl⟩

theorem bind_eq_ok {ε α β : Type} {f : α → Except ε β} {x : Except ε α} {b : β}
    (h : (x >>= f) = .ok b) : ∃ a, x = .ok a ∧ f a = .ok b := by
  cases x with
  | error e => cases h
  | ok a => exact ⟨a, rfl, h⟩

/-- Items that are all read give the list of what they are read as. -/
theorem forall₂_of_mapM {ε α β : Type} {f : α → Except ε β} :
    ∀ {xs : List α} {ys : List β}, xs.mapM f = .ok ys →
      List.Forall₂ (fun x y => f x = .ok y) xs ys
  | [], _, h => by
      cases h
      exact .nil
  | x :: xs, _, h => by
      rw [List.mapM_cons] at h
      obtain ⟨y, hy, h⟩ := bind_eq_ok h
      obtain ⟨ys, hys, h⟩ := bind_eq_ok h
      cases h
      exact .cons hy (forall₂_of_mapM hys)

theorem mapM_of_forall₂ {ε α β : Type} {f : α → Except ε β} {xs : List α} {ys : List β}
    (h : List.Forall₂ (fun x y => f x = .ok y) xs ys) : xs.mapM f = .ok ys := by
  induction h with
  | nil => rfl
  | cons hxy _ ih =>
      rw [List.mapM_cons, hxy, ih]
      rfl

theorem exists_of_forall₂ {α β : Type} {r : α → β → Prop} :
    ∀ {xs : List α} {ys : List β}, List.Forall₂ r xs ys → ∀ {y}, y ∈ ys → ∃ x, r x y
  | _, _, .cons h hs, y, hy => by
      rcases List.mem_cons.mp hy with rfl | hy
      · exact ⟨_, h⟩
      · exact exists_of_forall₂ hs hy

theorem exists_of_mem_forall₂ {α β : Type} {r : α → β → Prop} :
    ∀ {xs : List α} {ys : List β}, List.Forall₂ r xs ys → ∀ {x}, x ∈ xs → ∃ y ∈ ys, r x y
  | _, _, .cons h hs, x, hx => by
      rcases List.mem_cons.mp hx with rfl | hx
      · exact ⟨_, .head _, h⟩
      · obtain ⟨y, hy, hxy⟩ := exists_of_mem_forall₂ hs hx
        exact ⟨y, .tail _ hy, hxy⟩

theorem foldlM_cons_ok {ε α β : Type} {f : β → α → Except ε β} {b b' b'' : β} {a : α}
    {as : List α} (h : f b a = .ok b') (hs : as.foldlM f b' = .ok b'') :
    (a :: as).foldlM f b = .ok b'' := by
  rw [List.foldlM_cons, h]
  exact hs

/-- What each step keeps, a whole run of steps keeps. -/
theorem foldlM_inv {ε α β : Type} {f : β → α → Except ε β} {p : β → Prop}
    (step : ∀ {b b' : β} {a : α}, p b → f b a = .ok b' → p b') :
    ∀ {as : List α} {b b' : β}, p b → as.foldlM f b = .ok b' → p b'
  | [], _, _, hb, h => by
      cases h
      exact hb
  | _ :: _, _, _, hb, h => by
      rw [List.foldlM_cons] at h
      obtain ⟨b', hb', h⟩ := bind_eq_ok h
      exact foldlM_inv step (step hb hb') h

/-! ## Records, member by member -/

namespace Fields

/-- Reads one member of a record. -/
def readMember (fields : Fields) (depth : Nat) (once : Bool) (slots : fields.Slots) (m : Member) :
    Except Fault fields.Slots := do
  let name ← m.readName
  match fields.store depth once name m slots with
  | some result => result
  | none => do m.skip; return slots

/-- Reads the members of a record, and then its end. -/
def readMembers (fields : Fields) (depth : Nat) (once : Bool) (ms : List Member)
    (ending : Ending) : Except Fault fields.Val :=
  match ms.foldlM (fields.readMember depth once) fields.noSlots, ending with
  | .error f, _ => .error f
  | .ok _, .broken b => .error b.fault
  | .ok slots, .closed stop => fields.complete stop slots

/-- A member goes into a slot, or is passed over. -/
theorem readMember_inv {fields : Fields} {d : Nat} {once : Bool} {slots slots' : fields.Slots}
    {m : Member} (h : fields.readMember d once slots m = .ok slots') :
    ∃ name, m.readName = .ok name ∧
      (fields.store d once name m slots = some (.ok slots') ∨
        (fields.store d once name m slots = none ∧ m.skip = .ok () ∧ slots' = slots)) := by
  obtain ⟨name, hname, h⟩ := bind_eq_ok h
  refine ⟨name, hname, ?_⟩
  split at h
  next result hstore => exact .inl (hstore.trans (congrArg some h))
  next hstore =>
    obtain ⟨_, hskip, h⟩ := bind_eq_ok h
    cases h
    exact .inr ⟨hstore, hskip, rfl⟩

theorem store_cons (field : String) (required : Bool) (s : Shape) (rest : Fields) (d : Nat)
    (once : Bool) (name : String) (m : Member) (slot : Option s.Val) (slots : rest.Slots) :
    (Fields.cons field required s rest).store d once name m (slot, slots)
      = if name = field then
          if once && slot.isSome then
            some (.error (mismatchAt (.duplicateField field) m.refusedAt))
          else some ((s.read d m.value).map fun v => (some v, slots))
        else (rest.store d once name m slots).map fun r => r.map fun slots => (slot, slots) := rfl

end Fields

/-! ## The forms that are read -/

theorem readString_closed {start : Nat} {raw : Bytes} {closing : Closing} {s : String}
    (h : readString start raw closing = .ok s) : ∃ stop, closing = .closed stop := by
  unfold readString at h
  split at h
  next => cases h
  next stop _ => exact ⟨stop, rfl⟩
  next stop _ => exact ⟨stop, rfl⟩
  next => cases h

/-- A text is read from a string. -/
theorem Shape.read_text_inv {d : Nat} {t : Tree} {s : String} (h : Shape.text.read d t = .ok s) :
    ∃ start raw stop, t = .scalar start (.string raw (.closed stop)) ∧
      readString start raw (.closed stop) = .ok s := by
  match t, h with
  | .scalar start (.string raw closing), h =>
      obtain ⟨stop, rfl⟩ := readString_closed h
      exact ⟨start, raw, stop, rfl, h⟩
  | .scalar _ (.word _), h => cases h
  | .scalar _ (.number _), h => cases h
  | .scalar _ (.cutWord _ _), h => cases h
  | .scalar _ (.cutNumber _ _), h => cases h
  | .list _ _ _, h => cases h
  | .object _ _ _, h => cases h
  | .broken _, h => cases h

theorem Shape.read_list (s : Shape) (e start : Nat) (items : List Tree) (ending : Ending) :
    (Shape.list s).read (e + 1) (.list start items ending)
      = match items.mapM (s.read e), ending with
        | .error f, _ => .error f
        | .ok _, .broken b => .error b.fault
        | .ok vs, .closed _ => .ok vs := rfl

/-- A list is read item by item. -/
theorem Shape.read_list_inv {s : Shape} {d : Nat} {t : Tree} {vs : List s.Val}
    (h : (Shape.list s).read d t = .ok vs) : ∃ e start items stop, d = e + 1 ∧
      t = .list start items (.closed stop) ∧
      List.Forall₂ (fun t v => s.read e t = .ok v) items vs := by
  match d, t, h with
  | 0, .list _ _ _, h => cases h
  | e + 1, .list start items ending, h =>
      have h := (read_list s e start items ending).symm.trans h
      split at h
      next => cases h
      next => cases h
      next stop hitems _ =>
        cases h
        exact ⟨e, start, items, stop, rfl, rfl, forall₂_of_mapM hitems⟩
  | 0, .scalar _ _, h => cases h
  | 0, .object _ _ _, h => cases h
  | 0, .broken _, h => cases h
  | _ + 1, .scalar _ _, h => cases h
  | _ + 1, .object _ _ _, h => cases h
  | _ + 1, .broken _, h => cases h

/-- An entry of a table is read from a member. -/
def Shape.readEntry (s : Shape) (depth : Nat) (m : Member) : Except Fault (String × s.Val) :=
  do return (← m.readName, ← s.read depth m.value)

theorem Shape.read_table (s : Shape) (e start : Nat) (ms : List Member) (ending : Ending) :
    (Shape.table s).read (e + 1) (.object start ms ending)
      = match ms.mapM (s.readEntry e), ending with
        | .error f, _ => .error f
        | .ok _, .broken b => .error b.fault
        | .ok es, .closed _ => .ok (sortMembers es) := rfl

/-- A table is read entry by entry. -/
theorem Shape.read_table_inv {s : Shape} {d : Nat} {t : Tree} {es : List (String × s.Val)}
    (h : (Shape.table s).read d t = .ok es) : ∃ e start ms stop es', d = e + 1 ∧
      t = .object start ms (.closed stop) ∧
      List.Forall₂ (fun m v => s.readEntry e m = .ok v) ms es' ∧ es = sortMembers es' := by
  match d, t, h with
  | 0, .object _ _ _, h => cases h
  | e + 1, .object start ms ending, h =>
      have h := (read_table s e start ms ending).symm.trans h
      split at h
      next => cases h
      next => cases h
      next es' stop hms _ =>
        cases h
        exact ⟨e, start, ms, stop, es', rfl, rfl, forall₂_of_mapM hms, rfl⟩
  | 0, .scalar _ _, h => cases h
  | 0, .list _ _ _, h => cases h
  | 0, .broken _, h => cases h
  | _ + 1, .scalar _ _, h => cases h
  | _ + 1, .list _ _ _, h => cases h
  | _ + 1, .broken _, h => cases h

/-- The members of a record fill slots, and these are completed. -/
theorem Fields.readMembers_inv {fields : Fields} {d : Nat} {once : Bool} {ms : List Member}
    {ending : Ending} {v : fields.Val} (h : fields.readMembers d once ms ending = .ok v) :
    ∃ stop slots, ending = .closed stop ∧
      ms.foldlM (fields.readMember d once) fields.noSlots = .ok slots ∧
      fields.complete stop slots = .ok v := by
  unfold readMembers at h
  split at h
  next => cases h
  next => cases h
  next slots stop hslots => exact ⟨stop, slots, rfl, hslots, h⟩

/-- A record is read from an object, or from a list of its fields. -/
theorem Shape.read_record_inv {title : String} {fields : Fields} {d : Nat} {t : Tree}
    {v : fields.Val} (h : (Shape.record title fields).read d t = .ok v) : ∃ e start, d = e + 1 ∧
      ((∃ ms ending, t = .object start ms ending ∧ fields.readMembers e true ms ending = .ok v) ∨
        ∃ items ending expected, t = .list start items ending ∧
          fields.readItems e expected ending 0 items = .ok v) := by
  match d, t, h with
  | e + 1, .object start ms ending, h => exact ⟨e, start, rfl, .inl ⟨ms, ending, rfl, h⟩⟩
  | e + 1, .list start items ending, h =>
      exact ⟨e, start, rfl, .inr ⟨items, ending, _, rfl, h⟩⟩
  | 0, .object _ _ _, h => cases h
  | 0, .list _ _ _, h => cases h
  | 0, .scalar _ _, h => cases h
  | 0, .broken _, h => cases h
  | _ + 1, .scalar _ _, h => cases h
  | _ + 1, .broken _, h => cases h

/-- A loose record is read from an object only. -/
theorem Shape.read_looseRecord_inv {title : String} {fields : Fields} {d : Nat} {t : Tree}
    {v : fields.Val} (h : (Shape.looseRecord title fields).read d t = .ok v) :
    ∃ e start ms ending, d = e + 1 ∧ t = .object start ms ending ∧
      fields.readMembers e false ms ending = .ok v := by
  match d, t, h with
  | e + 1, .object start ms ending, h => exact ⟨e, start, ms, ending, rfl, rfl, h⟩
  | 0, .object _ _ _, h => cases h
  | 0, .list _ _ _, h => cases h
  | 0, .scalar _ _, h => cases h
  | 0, .broken _, h => cases h
  | _ + 1, .scalar _ _, h => cases h
  | _ + 1, .list _ _ _, h => cases h
  | _ + 1, .broken _, h => cases h

theorem Shape.read_optional (s : Shape) (d : Nat) (t : Tree) :
    (Shape.optional s).read d t = if t.isNull then .ok none else (s.read d t).map some := rfl

/-- An optional value is absent, or is read from a tree other than null. -/
theorem Shape.read_optional_inv {s : Shape} {d : Nat} {t : Tree} {v? : Option s.Val}
    (h : (Shape.optional s).read d t = .ok v?) :
    (t.isNull = true ∧ v? = none) ∨
      (t.isNull = false ∧ ∃ v, v? = some v ∧ s.read d t = .ok v) := by
  rw [read_optional] at h
  split at h
  next hnull =>
    cases h
    exact .inl ⟨hnull, rfl⟩
  next hnull =>
    obtain ⟨v, hv, rfl⟩ := map_eq_ok h
    exact .inr ⟨Bool.not_eq_true _ ▸ hnull, v, rfl, hv⟩

/-! ## Data a reader keeps -/

/-- All items of a list. -/
def AllItems {α : Type} (p : α → Prop) (vs : List α) : Prop := ∀ v ∈ vs, p v

/-- All entries of a table, which are in order. -/
def AllEntries {α : Type} (p : α → Prop) (es : List (String × α)) : Prop :=
  SortedNames es ∧ ∀ e ∈ es, p e.2

mutual

/-- Data that is kept where so many lists and objects may be nested. -/
def Shape.Kept : (s : Shape) → Nat → s.Val → Prop
  | .any, d, v => v.Kept d
  | .optional _, _, none => True
  | .optional s, d, some v => s.Kept d v ∧ s.toValue v ≠ .null
  | .list s, d, vs => ∃ e, d = e + 1 ∧ AllItems (s.Kept e) vs
  | .table s, d, es => ∃ e, d = e + 1 ∧ AllEntries (s.Kept e) es
  | .record _ fields, d, v => ∃ e, d = e + 1 ∧ fields.Kept e v
  | .looseRecord _ fields, d, v => ∃ e, d = e + 1 ∧ fields.Kept e v
  | _, _, _ => True
termination_by structural s => s

/-- Data of fields that is kept where so many lists and objects may be nested. -/
def Fields.Kept : (fields : Fields) → Nat → fields.Val → Prop
  | .nil, _, _ => True
  | .cons _ _ s rest, d, (v, vs) => s.Kept d v ∧ rest.Kept d vs
termination_by structural fields => fields

end

/-- What has been read into the slots of a record is kept. -/
def Fields.SlotsKept : (fields : Fields) → Nat → fields.Slots → Prop
  | .nil, _, _ => True
  | .cons _ _ s rest, d, (slot, slots) =>
    (∀ v, slot = some v → s.Kept d v) ∧ rest.SlotsKept d slots

theorem Fields.slotsKept_noSlots : ∀ (fields : Fields) (d : Nat), fields.SlotsKept d fields.noSlots
  | .nil, _ => trivial
  | .cons _ _ _ rest, d => ⟨by simp, rest.slotsKept_noSlots d⟩

theorem Shape.kept_of_default : ∀ {s : Shape} {v : s.Val} (d : Nat), s.default? = some v →
    s.Kept d v
  | .text, _, _, _ => trivial
  | .optional _, none, _, _ => trivial
  | .optional _, some _, _, h => by cases Option.some.inj h

/-- The data of a field: what has been read into its slot, or else its default. -/
def Shape.fromSlot? (required : Bool) (s : Shape) (slot : Option s.Val) : Option s.Val :=
  slot.or (if required then none else s.default?)

theorem Fields.complete_slot (stop : Nat) (name : String) (required : Bool) (s : Shape)
    (rest : Fields) (slot : Option s.Val) (slots : rest.Slots) :
    (Fields.cons name required s rest).complete stop (slot, slots)
      = match slot, (if required then none else s.default?) with
        | some v, _ => (rest.complete stop slots).map fun vs => (v, vs)
        | none, some v => (rest.complete stop slots).map fun vs => (v, vs)
        | none, none => .error (mismatchAt (.missingField name) stop) := rfl

theorem Fields.complete_cons (stop : Nat) (name : String) (required : Bool) (s : Shape)
    (rest : Fields) (slot : Option s.Val) (slots : rest.Slots) :
    (Fields.cons name required s rest).complete stop (slot, slots)
      = match s.fromSlot? required slot with
        | some v => (rest.complete stop slots).map fun vs => (v, vs)
        | none => .error (mismatchAt (.missingField name) stop) := by
  rw [complete_slot, Shape.fromSlot?]
  generalize (if required then none else s.default?) = default?
  cases slot with
  | some v => rfl
  | none =>
      cases default? with
      | some v => rfl
      | none => rfl

theorem Fields.readItems_cons (name : String) (required : Bool) (s : Shape) (rest : Fields)
    (d : Nat) (expected : String) (ending : Ending) (done : Nat) (t : Tree) (ts : List Tree) :
    (Fields.cons name required s rest).readItems d expected ending done (t :: ts)
      = match s.read d t with
        | .error f => .error f
        | .ok v => (rest.readItems d expected ending (done + 1) ts).map fun vs => (v, vs) := rfl

theorem Fields.readItems_end (name : String) (required : Bool) (s : Shape) (rest : Fields)
    (d : Nat) (expected : String) (ending : Ending) (done : Nat) :
    (Fields.cons name required s rest).readItems d expected ending done []
      = match ending, (if required then none else s.default?) with
        | .broken b, _ => .error b.fault
        | .closed _, some v =>
          (rest.readItems d expected ending (done + 1) []).map fun vs => (v, vs)
        | .closed stop, none => .error (mismatchAt (.wrongLength done expected) stop) := rfl

/-- A field that a list does not go up to takes its default. -/
theorem Fields.readItems_nil (name : String) (required : Bool) (s : Shape) (rest : Fields)
    (d : Nat) (expected : String) (ending : Ending) (done : Nat) :
    (Fields.cons name required s rest).readItems d expected ending done []
      = match ending with
        | .broken b => .error b.fault
        | .closed stop => match s.fromSlot? required none with
          | some v => (rest.readItems d expected (.closed stop) (done + 1) []).map fun vs => (v, vs)
          | none => .error (mismatchAt (.wrongLength done expected) stop) := by
  rw [readItems_end, Shape.fromSlot?]
  generalize (if required then none else s.default?) = default?
  cases ending with
  | broken b => rfl
  | closed stop =>
      cases default? with
      | some v => rfl
      | none => rfl

theorem Shape.kept_of_fromSlot {required : Bool} {s : Shape} {slot : Option s.Val} {v : s.Val}
    {d : Nat} (h : s.fromSlot? required slot = some v) (hslot : ∀ v, slot = some v → s.Kept d v) :
    s.Kept d v := by
  cases slot with
  | some w =>
      obtain rfl := Option.some.inj h
      exact hslot w rfl
  | none =>
      cases required with
      | true => cases h
      | false => exact s.kept_of_default d h

theorem Fields.kept_of_complete {stop d : Nat} : ∀ {fields : Fields} {slots : fields.Slots}
    {v : fields.Val}, fields.complete stop slots = .ok v → fields.SlotsKept d slots →
      fields.Kept d v
  | .nil, _, _, _, _ => trivial
  | .cons name required s rest, (slot, slots), v, h, ⟨hslot, hslots⟩ => by
      have h := (complete_cons stop name required s rest slot slots).symm.trans h
      split at h
      next w hw =>
        obtain ⟨vs, hrest, rfl⟩ := map_eq_ok h
        exact ⟨s.kept_of_fromSlot hw hslot, rest.kept_of_complete hrest hslots⟩
      next => cases h

theorem Scalar.read_ne_null {start : Nat} {sc : Scalar} (h : sc.isNull = false) :
    sc.read start ≠ .ok .null := by
  intro hread
  match sc, h, hread with
  | .word .yes, _, hread => cases hread
  | .word .no, _, hread => cases hread
  | .number _, _, hread =>
      obtain ⟨_, _, hread⟩ := map_eq_ok hread
      cases hread
  | .string _ _, _, hread =>
      obtain ⟨_, _, hread⟩ := map_eq_ok hread
      cases hread

theorem Tree.readValue_ne_null {d : Nat} {t : Tree} (ht : t.isNull = false) :
    t.readValue d ≠ .ok .null := by
  intro h
  cases t with
  | scalar start sc =>
      unfold readValue at h
      split at h
      next => cases h
      next hread => exact Scalar.read_ne_null ht hread
      next => cases h
      next => cases h
      next => cases h
      next hnull hbool hnumber hstring hread =>
        cases sc with
        | word w =>
            cases w with
            | null => cases ht
            | yes =>
                cases hread
                exact hbool true rfl
            | no =>
                cases hread
                exact hbool false rfl
        | number _ =>
            obtain ⟨n, _, rfl⟩ := map_eq_ok hread
            exact hnumber n rfl
        | string _ _ =>
            obtain ⟨s, _, rfl⟩ := map_eq_ok hread
            exact hstring s rfl
        | cutWord _ _ => cases hread
        | cutNumber _ _ => cases hread
  | list start items ending =>
      cases d with
      | zero => cases h
      | succ d =>
          unfold readValue at h
          simp only at h
          split at h
          next => cases h
          next => cases h
          next => cases h
  | object start ms ending =>
      cases d with
      | zero => cases h
      | succ d =>
          unfold readValue at h
          simp only at h
          split at h
          next => cases h
          next => cases h
          next => cases h
  | broken b => cases h

/-- What is read from a tree other than null is not printed as null. -/
theorem Shape.toValue_ne_null {d : Nat} {t : Tree} (ht : t.isNull = false) :
    ∀ {s : Shape} {v : s.Val}, s.read d t = .ok v → s.toValue v ≠ .null
  | .any, v, h => by
      rintro rfl
      exact t.readValue_ne_null ht h
  | .optional s, none, h => by
      rcases read_optional_inv h with ⟨hnull, -⟩ | ⟨-, v, hv, -⟩
      · rw [hnull] at ht
        cases ht
      · cases hv
  | .optional s, some v, h => by
      rcases read_optional_inv h with ⟨-, hv⟩ | ⟨-, v, hv, hread⟩
      · cases hv
      · cases hv
        exact s.toValue_ne_null ht hread
  | .text, _, _ => by rintro ⟨⟩
  | .flag, _, _ => by rintro ⟨⟩
  | .short, _, _ => by rintro ⟨⟩
  | .choice _, _, _ => by rintro ⟨⟩
  | .list _, _, _ => by rintro ⟨⟩
  | .table _, _, _ => by rintro ⟨⟩
  | .record _ _, _, _ => by rintro ⟨⟩
  | .looseRecord _ _, _, _ => by rintro ⟨⟩

/-- The fields of a record are kept when every member that is stored is. -/
theorem Fields.kept_of_readMembers {fields : Fields} {d : Nat} {once : Bool} {ms : List Member}
    {ending : Ending} {v : fields.Val}
    (hstore : ∀ {name : String} {m : Member} {slots slots' : fields.Slots},
      fields.store d once name m slots = some (.ok slots') → fields.SlotsKept d slots →
        fields.SlotsKept d slots')
    (h : fields.readMembers d once ms ending = .ok v) : fields.Kept d v := by
  obtain ⟨stop, slots, rfl, hslots, hcomplete⟩ := readMembers_inv h
  refine fields.kept_of_complete hcomplete
    (foldlM_inv (fun {slots slots' m} hkept hread => ?_) (fields.slotsKept_noSlots d) hslots)
  obtain ⟨name, -, hread | ⟨-, -, rfl⟩⟩ := readMember_inv hread
  · exact hstore hread hkept
  · exact hkept

mutual

/-- What has been read is kept. -/
theorem Shape.kept_of_read : ∀ (s : Shape) {d : Nat} {t : Tree} {v : s.Val},
    s.read d t = .ok v → s.Kept d v
  | .text, _, _, _, _ => trivial
  | .flag, _, _, _, _ => trivial
  | .short, _, _, _, _ => trivial
  | .choice _, _, _, _, _ => trivial
  | .any, _, t, _, h => t.kept_of_readValue h
  | .optional _, _, _, none, _ => trivial
  | .optional s, _, _, some v, h => by
      rcases Shape.read_optional_inv h with ⟨-, hv⟩ | ⟨hnull, w, hv, hread⟩
      · cases hv
      · cases hv
        exact ⟨s.kept_of_read hread, s.toValue_ne_null hnull hread⟩
  | .list s, _, _, vs, h => by
      obtain ⟨e, start, items, stop, rfl, rfl, hitems⟩ := Shape.read_list_inv h
      refine ⟨e, rfl, fun v hv => ?_⟩
      obtain ⟨t, hread⟩ := exists_of_forall₂ hitems hv
      exact s.kept_of_read hread
  | .table s, _, _, es, h => by
      obtain ⟨e, start, ms, stop, es', rfl, rfl, hms, rfl⟩ := Shape.read_table_inv h
      refine ⟨e, rfl, sortedNames_sortMembers es', fun entry hentry => ?_⟩
      obtain ⟨m, hread⟩ := exists_of_forall₂ hms (mem_of_mem_sortMembers hentry)
      obtain ⟨name, -, hread⟩ := bind_eq_ok hread
      obtain ⟨v, hv, hread⟩ := bind_eq_ok hread
      cases hread
      exact s.kept_of_read hv
  | .record _ fields, _, _, v, h => by
      obtain ⟨e, start, rfl, ⟨ms, ending, rfl, h⟩ | ⟨items, ending, expected, rfl, h⟩⟩ :=
        Shape.read_record_inv h
      · exact ⟨e, rfl, Fields.kept_of_readMembers (fields.slotsKept_of_store) h⟩
      · exact ⟨e, rfl, fields.kept_of_readItems h⟩
  | .looseRecord _ fields, _, _, v, h => by
      obtain ⟨e, start, ms, ending, rfl, rfl, h⟩ := Shape.read_looseRecord_inv h
      exact ⟨e, rfl, Fields.kept_of_readMembers (fields.slotsKept_of_store) h⟩

theorem Fields.slotsKept_of_store : ∀ (fields : Fields) {d : Nat} {once : Bool} {name : String}
    {m : Member} {slots slots' : fields.Slots},
    fields.store d once name m slots = some (.ok slots') → fields.SlotsKept d slots →
      fields.SlotsKept d slots'
  | .nil, _, _, _, _, _, _, h, _ => by cases h
  | .cons field _ s rest, d, once, name, m, (slot, slots), (slot', slots'), h,
      ⟨hslot, hslots⟩ => by
      have h := (Fields.store_cons _ _ s rest d once name m slot slots).symm.trans h
      split at h
      next =>
        split at h
        next => cases h
        next =>
          obtain ⟨v, hread, heq⟩ := map_eq_ok (Option.some.inj h)
          cases heq
          refine ⟨?_, hslots⟩
          rintro w ⟨⟩
          exact s.kept_of_read hread
      next =>
        obtain ⟨r, hstore, h⟩ := Option.map_eq_some_iff.mp h
        obtain ⟨slots'', rfl, heq⟩ := map_eq_ok h
        cases heq
        exact ⟨hslot, rest.slotsKept_of_store hstore hslots⟩

theorem Fields.kept_of_readItems : ∀ (fields : Fields) {d : Nat} {expected : String}
    {ending : Ending} {done : Nat} {ts : List Tree} {v : fields.Val},
    fields.readItems d expected ending done ts = .ok v → fields.Kept d v
  | .nil, _, _, _, _, _, _, _ => trivial
  | .cons name required s rest, d, expected, ending, done, t :: ts, v, h => by
      have h :=
        (Fields.readItems_cons name required s rest d expected ending done t ts).symm.trans h
      split at h
      next => cases h
      next w hw =>
        obtain ⟨vs, hvs, rfl⟩ := map_eq_ok h
        exact ⟨s.kept_of_read hw, rest.kept_of_readItems hvs⟩
  | .cons name required s rest, d, expected, ending, done, [], v, h => by
      have h := (Fields.readItems_nil name required s rest d expected ending done).symm.trans h
      split at h
      next => cases h
      next =>
        split at h
        next w hw =>
          obtain ⟨vs, hvs, rfl⟩ := map_eq_ok h
          exact ⟨s.kept_of_fromSlot hw (by simp), rest.kept_of_readItems hvs⟩
        next => cases h

end

/-! ## Nothing breaks in what has been read -/

theorem Scalar.skipFault?_of_read {start : Nat} {sc : Scalar} {found : Found}
    (h : sc.read start = .ok found) : sc.skipFault? = none := by
  match sc, h with
  | .word _, _ => rfl
  | .number _, _ => rfl
  | .string raw closing, h =>
      obtain ⟨s, hread, -⟩ := map_eq_ok h
      obtain ⟨stop, rfl⟩ := readString_closed hread
      rfl

theorem Tree.skipFault?_of_isNull {t : Tree} (h : t.isNull = true) : t.skipFault? = none := by
  match t, h with
  | .scalar _ (.word .null), _ => rfl

theorem Tree.skipFault?_of_readValue {d : Nat} {t : Tree} {v : Value}
    (h : t.readValue d = .ok v) : t.skipFault? = none := by
  match d, t, h with
  | _, .scalar start sc, h =>
      unfold readValue at h
      cases hread : sc.read start with
      | error f =>
          rw [hread] at h
          cases h
      | ok found => exact sc.skipFault?_of_read hread
  | _ + 1, .list _ _ (.closed _), _ => rfl
  | _ + 1, .object _ _ (.closed _), _ => rfl
  | 0, .list _ _ _, h => cases h
  | 0, .object _ _ _, h => cases h
  | d + 1, .list _ items (.broken _), h =>
      unfold readValue at h
      cases hread : readItemValues d [] items with
      | error f =>
          simp only [hread] at h
          cases h
      | ok vs =>
          simp only [hread] at h
          cases h
  | d + 1, .object _ members (.broken _), h =>
      unfold readValue at h
      cases hread : readMemberValues d [] members with
      | error f =>
          simp only [hread] at h
          cases h
      | ok es =>
          simp only [hread] at h
          cases h
  | _, .broken _, h => cases h

theorem Member.closed_of_readEnd {m : Member} {more : List Member} {ending : Ending}
    (h : m.readEnd more ending = .ok ()) : more = [] ∧ ∃ stop, ending = .closed stop := by
  unfold readEnd at h
  split at h
  next stop =>
    split at h
    next hmore => exact ⟨List.isEmpty_iff.mp hmore, stop, rfl⟩
    next => cases h
  next => cases h
  next => cases h

theorem Tree.readChoice_object (words : List String) (e start : Nat) (m : Member)
    (more : List Member) (ending : Ending) :
    (Tree.object start (m :: more) ending).readChoice words (e + 1)
      = match m.name.readVariant words with
        | .error f => .error f
        | .ok i =>
          if m.value.isNull then (m.readEnd more ending).map fun _ => i
          else .error (m.value.mismatch "unit") := rfl

/-- A word of a choice is read from a string, or from the name of the one member of an object. -/
theorem Tree.readChoice_inv {words : List String} {d : Nat} {t : Tree} {i : Fin words.length}
    (h : t.readChoice words d = .ok i) :
    (∃ start raw stop, t = .scalar start (.string raw (.closed stop)) ∧
      t.readVariant words = .ok i) ∨
    ∃ e start m stop, d = e + 1 ∧ t = .object start [m] (.closed stop) ∧
      m.name.readVariant words = .ok i ∧ m.value.isNull = true := by
  match d, t, h with
  | _, .scalar start (.string raw closing), h =>
      have hvariant : (Tree.scalar start (.string raw closing)).readVariant words = .ok i := h
      cases hread : readString start raw closing with
      | error f =>
          rw [readVariant, hread] at hvariant
          cases hvariant
      | ok s =>
          obtain ⟨stop, rfl⟩ := readString_closed hread
          exact .inl ⟨start, raw, stop, rfl, hvariant⟩
  | e + 1, .object start (m :: more) ending, h =>
      have h := (readChoice_object words e start m more ending).symm.trans h
      split at h
      next => cases h
      next j hvariant =>
        split at h
        next hnull =>
          obtain ⟨_, hend, rfl⟩ := map_eq_ok h
          obtain ⟨rfl, stop, rfl⟩ := m.closed_of_readEnd hend
          exact .inr ⟨e, start, m, stop, rfl, rfl, hvariant, hnull⟩
        next => cases h
  | _, .scalar _ (.word _), h => cases h
  | _, .scalar _ (.number _), h => cases h
  | _, .scalar _ (.cutWord _ _), h => cases h
  | _, .scalar _ (.cutNumber _ _), h => cases h
  | _, .list _ _ _, h => cases h
  | _, .broken _, h => cases h
  | 0, .object _ _ _, h => cases h
  | _ + 1, .object _ [] (.closed _), h => cases h
  | _ + 1, .object _ [] (.broken (.misplaced _ _ _ _)), h => cases h
  | _ + 1, .object _ [] (.broken (.scalar _)), h => cases h

theorem Tree.skipFault?_of_readChoice {words : List String} {d : Nat} {t : Tree}
    {i : Fin words.length} (h : t.readChoice words d = .ok i) : t.skipFault? = none := by
  rcases readChoice_inv h with ⟨start, raw, stop, rfl, -⟩ | ⟨e, start, m, stop, -, rfl, -⟩
  · rfl
  · rfl

theorem Fields.closed_of_readItems : ∀ {fields : Fields} {d : Nat} {expected : String}
    {ending : Ending} {done : Nat} {ts : List Tree} {v : fields.Val},
    fields.readItems d expected ending done ts = .ok v → ∃ stop, ending = .closed stop
  | .nil, _, _, .closed stop, _, _, _, _ => ⟨stop, rfl⟩
  | .nil, _, _, .broken (.misplaced _ _ _ _), _, [], _, h => by cases h
  | .nil, _, _, .broken (.scalar _), _, [], _, h => by cases h
  | .nil, _, _, .broken b, _, .scalar _ _ :: _, _, h => by cases h
  | .nil, _, _, .broken b, _, .list _ _ _ :: _, _, h => by cases h
  | .nil, _, _, .broken b, _, .object _ _ _ :: _, _, h => by cases h
  | .nil, _, _, .broken b, _, .broken (.misplaced _ _ _ _) :: _, _, h => by cases h
  | .nil, _, _, .broken b, _, .broken (.scalar _) :: _, _, h => by cases h
  | .cons name required s rest, d, expected, ending, done, t :: ts, v, h => by
      have h :=
        (Fields.readItems_cons name required s rest d expected ending done t ts).symm.trans h
      split at h
      next => cases h
      next w hw =>
        obtain ⟨vs, hvs, rfl⟩ := map_eq_ok h
        exact closed_of_readItems hvs
  | .cons name required s rest, d, expected, ending, done, [], v, h => by
      have h := (Fields.readItems_nil name required s rest d expected ending done).symm.trans h
      split at h
      next => cases h
      next stop _ => exact ⟨stop, rfl⟩

/-- A tree that has been read has no break. -/
theorem Shape.skipFault?_of_read : ∀ {s : Shape} {d : Nat} {t : Tree} {v : s.Val},
    s.read d t = .ok v → t.skipFault? = none
  | .any, _, t, _, h => t.skipFault?_of_readValue h
  | .choice _, _, t, _, h => t.skipFault?_of_readChoice h
  | .optional s, _, t, _, h => by
      rcases read_optional_inv h with ⟨hnull, -⟩ | ⟨-, v, -, hread⟩
      · exact t.skipFault?_of_isNull hnull
      · exact s.skipFault?_of_read hread
  | .list _, _, _, _, h => by
      obtain ⟨e, start, items, stop, rfl, rfl, -⟩ := read_list_inv h
      rfl
  | .table _, _, _, _, h => by
      obtain ⟨e, start, ms, stop, es, rfl, rfl, -⟩ := read_table_inv h
      rfl
  | .record _ _, _, _, _, h => by
      obtain ⟨e, start, rfl, ⟨ms, ending, rfl, h⟩ | ⟨items, ending, expected, rfl, h⟩⟩ :=
        read_record_inv h
      · obtain ⟨stop, slots, rfl, -⟩ := Fields.readMembers_inv h
        rfl
      · obtain ⟨stop, rfl⟩ := Fields.closed_of_readItems h
        rfl
  | .looseRecord _ _, _, _, _, h => by
      obtain ⟨e, start, ms, ending, rfl, rfl, h⟩ := read_looseRecord_inv h
      obtain ⟨stop, slots, rfl, -⟩ := Fields.readMembers_inv h
      rfl
  | .text, _, _, _, h => by
      obtain ⟨start, raw, stop, rfl, -⟩ := read_text_inv h
      rfl
  | .flag, _, t, _, h => by
      match t, h with
      | .scalar _ (.word .yes), _ => rfl
      | .scalar _ (.word .no), _ => rfl
      | .scalar _ (.word .null), h => cases h
      | .scalar _ (.number _), h => cases h
      | .scalar _ (.string _ _), h => cases h
      | .scalar _ (.cutWord _ _), h => cases h
      | .scalar _ (.cutNumber _ _), h => cases h
      | .list _ _ _, h => cases h
      | .object _ _ _, h => cases h
      | .broken _, h => cases h
  | .short, _, t, _, h => by
      match t, h with
      | .scalar _ (.number _), _ => rfl
      | .scalar _ (.word _), h => cases h
      | .scalar _ (.string _ _), h => cases h
      | .scalar _ (.cutWord _ _), h => cases h
      | .scalar _ (.cutNumber _ _), h => cases h
      | .list _ _ _, h => cases h
      | .object _ _ _, h => cases h
      | .broken _, h => cases h

end Webhook.Json
