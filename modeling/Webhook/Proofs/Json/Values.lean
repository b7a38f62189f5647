import Webhook.Json.Reader
import Webhook.Proofs.Json.Scalars

/-!
# Values read back

`Value.raw` is the raw JSON that is printed for a value.  `isText_print` says that the bytes
printed are a text of it, and `readValue_raw` that every tree of it is read as the value again.

Both need that the value holds no floating point number (`Value.floatFree`), whose digits are not
looked at here.  The second needs besides that the value is one that a reader could have kept
(`Value.Kept`): its whole numbers are in range, the members of its objects stand in the order of
their names, and it is not nested too deeply.  `Tree.kept_of_readValue` says that this is no
restriction on what has been read.
-/

namespace Webhook.Json

/-! ## Members in order -/

section Members

variable {α : Type}

/-- Members in the order of their names, no name twice. -/
def SortedNames (members : List (String × α)) : Prop :=
  members.Pairwise fun a b => a.1 < b.1

theorem mem_insertMember {name : String} {v : α} {m : String × α} :
    ∀ {members : List (String × α)}, m ∈ insertMember name v members →
      m = (name, v) ∨ m ∈ members
  | [], h => .inl (List.mem_singleton.mp h)
  | (n, w) :: rest, h => by
      rw [insertMember] at h
      split at h
      next heq =>
        rcases List.mem_cons.mp h with rfl | h
        · exact .inl (by rw [heq])
        · exact .inr (.tail _ h)
      next =>
        split at h
        next => exact List.mem_cons.mp h
        next =>
          rcases List.mem_cons.mp h with rfl | h
          · exact .inr (.head _)
          · rcases mem_insertMember h with h | h
            · exact .inl h
            · exact .inr (.tail _ h)

theorem sortedNames_insertMember (name : String) (v : α) :
    ∀ {members : List (String × α)}, SortedNames members →
      SortedNames (insertMember name v members)
  | [], _ => List.pairwise_singleton _ _
  | (n, w) :: rest, h => by
      obtain ⟨hn, hrest⟩ := List.pairwise_cons.mp h
      rw [insertMember]
      split
      next => exact List.pairwise_cons.mpr ⟨hn, hrest⟩
      next hne =>
        split
        next hlt =>
          refine List.pairwise_cons.mpr ⟨fun m hm => ?_, h⟩
          rcases List.mem_cons.mp hm with rfl | hm
          · exact hlt
          · exact String.lt_trans hlt (hn m hm)
        next hnlt =>
          refine List.pairwise_cons.mpr ⟨fun m hm => ?_, sortedNames_insertMember name v hrest⟩
          rcases mem_insertMember hm with rfl | hm
          · by_contra hnot
            exact hne (String.le_antisymm (String.not_lt.mp hnot) (String.not_lt.mp hnlt))
          · exact hn m hm

/-- A name after all others is put last. -/
theorem insertMember_last {name : String} {v : α} :
    ∀ {members : List (String × α)}, (∀ m ∈ members, m.1 < name) →
      insertMember name v members = members ++ [(name, v)]
  | [], _ => rfl
  | (n, w) :: rest, h => by
      have hlt : n < name := h (n, w) (.head _)
      have hne : name ≠ n := by
        rintro rfl
        exact String.lt_irrefl _ hlt
      rw [insertMember, if_neg hne, if_neg (String.lt_asymm hlt),
        insertMember_last fun m hm => h m (.tail _ hm)]
      rfl

theorem foldl_insertMember (members : List (String × α)) :
    ∀ {sorted : List (String × α)}, SortedNames sorted →
      SortedNames (members.foldl (fun sorted m => insertMember m.1 m.2 sorted) sorted) ∧
        ∀ m ∈ members.foldl (fun sorted m => insertMember m.1 m.2 sorted) sorted,
          m ∈ sorted ∨ m ∈ members := by
  induction members with
  | nil =>
      intro sorted h
      exact ⟨h, fun m hm => .inl hm⟩
  | cons first members ih =>
      intro sorted h
      obtain ⟨hsorted, hmem⟩ := ih (sortedNames_insertMember first.1 first.2 h)
      refine ⟨hsorted, fun m hm => ?_⟩
      rcases hmem m hm with hm | hm
      · rcases mem_insertMember hm with rfl | hm
        · exact .inr (.head _)
        · exact .inl hm
      · exact .inr (.tail _ hm)

theorem sortedNames_sortMembers (members : List (String × α)) :
    SortedNames (sortMembers members) := (foldl_insertMember members List.Pairwise.nil).1

theorem mem_of_mem_sortMembers {members : List (String × α)} {m : String × α}
    (h : m ∈ sortMembers members) : m ∈ members := by
  rcases (foldl_insertMember members List.Pairwise.nil).2 m h with hm | hm
  · cases hm
  · exact hm

theorem lookup_member (key name : String) (v : α) (members : List (String × α)) :
    ((name, v) :: members).lookup key = if key = name then some v else members.lookup key := by
  rw [List.lookup_cons]
  by_cases h : key = name
  · rw [beq_iff_eq.mpr h, if_pos h]
  · rw [beq_eq_false_iff_ne.mpr h, if_neg h]

theorem lookup_insertMember (name key : String) (v : α) : ∀ members : List (String × α),
    (insertMember name v members).lookup key = if key = name then some v else members.lookup key
  | [] => by
      rw [insertMember, lookup_member]
  | (n, w) :: rest => by
      have ih := lookup_insertMember name key v rest
      rw [insertMember]
      split
      next heq =>
        rw [lookup_member, lookup_member, heq]
        split <;> rfl
      next hne =>
        split
        next => rw [lookup_member]
        next =>
          rw [lookup_member, lookup_member, ih]
          by_cases h : key = n
          · rw [if_pos h, if_pos h, if_neg (fun hk => hne (hk.symm.trans h))]
          · rw [if_neg h, if_neg h]

/-- Of several members of one name the last one is kept. -/
theorem lookup_sortMembers (members : List (String × α)) (key : String) :
    (sortMembers members).lookup key = members.reverse.lookup key := by
  have hfold : ∀ (rest sorted : List (String × α)),
      (rest.foldl (fun sorted m => insertMember m.1 m.2 sorted) sorted).lookup key
        = (rest.reverse.lookup key).or (sorted.lookup key) := by
    intro rest
    induction rest with
    | nil =>
        intro sorted
        rfl
    | cons first rest ih =>
        intro sorted
        rw [List.foldl_cons, ih, lookup_insertMember, List.reverse_cons, List.lookup_append,
          Option.or_assoc, lookup_member]
        split <;> rfl
  rw [sortMembers, hfold]
  exact Option.or_none

theorem mem_of_lookup {key : String} {v : α} {members : List (String × α)}
    (h : members.lookup key = some v) : (key, v) ∈ members := by
  obtain ⟨before, after, rfl, -⟩ := List.lookup_eq_some_iff.mp h
  exact List.mem_append_right _ (.head _)

/-- Among members with different names, each one is found under its name. -/
theorem lookup_of_nodup : ∀ {members : List (String × α)} {m : String × α},
    (members.map (·.1)).Nodup → m ∈ members → members.lookup m.1 = some m.2
  | first :: rest, m, hnodup, hm => by
      obtain ⟨hfirst, hrest⟩ := List.nodup_cons.mp hnodup
      rw [lookup_member]
      rcases List.mem_cons.mp hm with rfl | hm
      · rw [if_pos rfl]
      · have hne : m.1 ≠ first.1 := fun heq => hfirst (List.mem_map.mpr ⟨m, hm, heq⟩)
        rw [if_neg hne]
        exact lookup_of_nodup hrest hm

theorem SortedNames.nodup {members : List (String × α)} (h : SortedNames members) :
    (members.map (·.1)).Nodup := by
  refine List.pairwise_map.mpr (List.Pairwise.imp ?_ h)
  intro m m' hlt heq
  rw [heq] at hlt
  exact String.lt_irrefl _ hlt

theorem mem_sortMembers_iff {members : List (String × α)} {m : String × α} :
    m ∈ sortMembers members ↔ members.reverse.lookup m.1 = some m.2 := by
  rw [← lookup_sortMembers]
  exact ⟨lookup_of_nodup (sortedNames_sortMembers members).nodup, mem_of_lookup⟩

/-- Members that are in order stay as they are. -/
theorem sortMembers_of_sortedNames {members : List (String × α)} (h : SortedNames members) :
    sortMembers members = members := by
  have step : ∀ rest done : List (String × α), SortedNames (done ++ rest) →
      rest.foldl (fun sorted m => insertMember m.1 m.2 sorted) done = done ++ rest := by
    intro rest
    induction rest with
    | nil => simp
    | cons m rest ih =>
        intro done h
        have hlast : ∀ m' ∈ done, m'.1 < m.1 := fun m' hm' =>
          (List.pairwise_append.mp h).2.2 m' hm' m (.head _)
        rw [List.foldl_cons, insertMember_last hlast, ih]
        · simp
        · simpa using h
  exact step members [] h

end Members

/-! ## What is printed for a value -/

mutual

/-- The raw JSON that is printed for a value. -/
def Value.raw : Value → Raw
  | .null => .word .null
  | .bool b => .word (if b then .yes else .no)
  | .number n => .number (spell n.render)
  | .string s => .string (escaped s)
  | .list items => .list (rawItems items)
  | .object members => .object (rawMembers members)
termination_by structural v => v

/-- The raw JSON of each item of a list. -/
def rawItems : List Value → List Raw
  | [] => []
  | v :: vs => v.raw :: rawItems vs
termination_by structural vs => vs

/-- The raw JSON of each member of an object. -/
def rawMembers : List (String × Value) → List (Bytes × Raw)
  | [] => []
  | m :: ms => rawMember m :: rawMembers ms
termination_by structural ms => ms

/-- The raw JSON of a member. -/
def rawMember : String × Value → Bytes × Raw
  | (name, v) => (escaped name, v.raw)
termination_by structural m => m

end

/-- The bytes of some lexemes with no blank between them. -/
def lexemesText (ls : List Lexeme) : Bytes := ls.flatMap Lexeme.text

@[simp] theorem lexemesText_cons (l : Lexeme) (ls : List Lexeme) :
    lexemesText (l :: ls) = l.text ++ lexemesText ls := List.flatMap_cons

@[simp] theorem lexemesText_append (ls ls' : List Lexeme) :
    lexemesText (ls ++ ls') = lexemesText ls ++ lexemesText ls' := List.flatMap_append

theorem spell_quote (s : String) : spell (quote s) = (Lexeme.string (escaped s)).text := by
  rw [quote, spell_cons, spell_append]
  rfl

mutual

/-- What is printed for a value are the lexemes of its raw JSON. -/
theorem spell_print : ∀ v : Value, spell v.print = lexemesText v.raw.lexemes
  | .null => rfl
  | .bool true => rfl
  | .bool false => rfl
  | .number n => by
      rw [Value.print, Value.raw, Raw.lexemes, lexemesText_cons]
      exact (List.append_nil _).symm
  | .string s => by
      rw [Value.print, Value.raw, Raw.lexemes, lexemesText_cons, spell_quote]
      exact (List.append_nil _).symm
  | .list items => by
      rw [Value.print, Value.raw, Raw.lexemes, lexemesText_cons, lexemesText_append, printList,
        spell_cons, spell_append, spell_printItems items]
      rfl
  | .object members => by
      rw [Value.print, Value.raw, Raw.lexemes, lexemesText_cons, lexemesText_append, printObject,
        spell_cons, spell_append, spell_printMembers members]
      rfl

theorem spell_printItems : ∀ vs : List Value,
    spell (commaSeparated (printItems vs)) = lexemesText (separated (itemLexemes (rawItems vs)))
  | [] => rfl
  | [v] => spell_print v
  | v :: v' :: vs => by
      have htail := spell_printItems (v' :: vs)
      rw [printItems, printItems, commaSeparated, spell_append, spell_cons, spell_print v,
        rawItems, rawItems, itemLexemes, itemLexemes, separated, lexemesText_append,
        lexemesText_cons]
      · rw [printItems, rawItems, itemLexemes] at htail
        rw [htail]
        rfl
      · simp
      · simp

theorem spell_printMembers : ∀ ms : List (String × Value),
    spell (commaSeparated (printMembers ms))
      = lexemesText (separated (memberLexemes (rawMembers ms)))
  | [] => rfl
  | [m] => spell_printMemberOf m
  | m :: m' :: ms => by
      have htail := spell_printMembers (m' :: ms)
      rw [printMembers, printMembers, commaSeparated, spell_append, spell_cons,
        spell_printMemberOf m, rawMembers, rawMembers, memberLexemes, memberLexemes, separated,
        lexemesText_append, lexemesText_cons]
      · rw [printMembers, rawMembers, memberLexemes] at htail
        rw [htail]
        rfl
      · simp
      · simp

theorem spell_printMemberOf : ∀ m : String × Value,
    spell (printMemberOf m) = lexemesText (lexemesOfMember (rawMember m))
  | (name, v) => by
      rw [printMemberOf, printMember, rawMember, lexemesOfMember, lexemesText_cons,
        lexemesText_cons, spell_append, spell_cons, spell_print v, spell_quote]
      rfl

end

mutual

/-- Whether a value holds no floating point number. -/
def Value.floatFree : Value → Bool
  | .number (.float _) => false
  | .list items => itemsFloatFree items
  | .object members => membersFloatFree members
  | _ => true
termination_by structural v => v

/-- Whether no item of a list holds a floating point number. -/
def itemsFloatFree : List Value → Bool
  | [] => true
  | v :: vs => v.floatFree && itemsFloatFree vs
termination_by structural vs => vs

/-- Whether no member of an object holds a floating point number. -/
def membersFloatFree : List (String × Value) → Bool
  | [] => true
  | m :: ms => memberFloatFree m && membersFloatFree ms
termination_by structural ms => ms

/-- Whether the value of a member holds no floating point number. -/
def memberFloatFree : String × Value → Bool
  | (_, v) => v.floatFree
termination_by structural m => m

end

theorem itemsFloatFree_iff : ∀ {vs : List Value},
    itemsFloatFree vs = true ↔ ∀ v ∈ vs, v.floatFree = true
  | [] => by simp [itemsFloatFree]
  | v :: vs => by
      rw [itemsFloatFree, Bool.and_eq_true_iff, itemsFloatFree_iff, List.forall_mem_cons]

theorem membersFloatFree_iff : ∀ {ms : List (String × Value)},
    membersFloatFree ms = true ↔ ∀ m ∈ ms, m.2.floatFree = true
  | [] => by simp [membersFloatFree]
  | (name, v) :: ms => by
      rw [membersFloatFree, Bool.and_eq_true_iff, membersFloatFree_iff, List.forall_mem_cons,
        memberFloatFree]

/-- Lexemes that follow their grammars. -/
def AllWellFormed (ls : List Lexeme) : Prop := ∀ l ∈ ls, l.WellFormed

@[simp] theorem AllWellFormed.nil : AllWellFormed [] := List.forall_mem_nil _

theorem AllWellFormed.cons {l : Lexeme} {ls : List Lexeme} (hl : l.WellFormed)
    (h : AllWellFormed ls) : AllWellFormed (l :: ls) := List.forall_mem_cons.mpr ⟨hl, h⟩

theorem AllWellFormed.append {ls ls' : List Lexeme} (h : AllWellFormed ls)
    (h' : AllWellFormed ls') : AllWellFormed (ls ++ ls') := List.forall_mem_append.mpr ⟨h, h'⟩

/-- Lexemes that follow their grammars may be written without blanks. -/
theorem spaced_lexemesText : ∀ {ls : List Lexeme}, AllWellFormed ls → Spaced ls (lexemesText ls)
  | [], _ => .done .nil
  | l :: _, h => by
      rw [lexemesText_cons]
      exact .cons (h l (.head _)) (spaced_lexemesText fun l' hl' => h l' (.tail _ hl'))

mutual

theorem allWellFormed_raw : ∀ v : Value, v.floatFree = true → AllWellFormed v.raw.lexemes
  | .null, _ => .cons trivial .nil
  | .bool _, _ => .cons trivial .nil
  | .number (.whole n), _ => .cons (numberText_render n) .nil
  | .string s, _ => .cons (rawText_escaped s) .nil
  | .list items, h =>
      .cons trivial ((allWellFormed_items items h).append (.cons trivial .nil))
  | .object members, h =>
      .cons trivial ((allWellFormed_members members h).append (.cons trivial .nil))

theorem allWellFormed_items : ∀ vs : List Value, itemsFloatFree vs = true →
    AllWellFormed (separated (itemLexemes (rawItems vs)))
  | [], _ => .nil
  | [v], h => allWellFormed_raw v (Bool.and_eq_true_iff.mp h).1
  | v :: v' :: vs, h => by
      obtain ⟨hv, hvs⟩ := Bool.and_eq_true_iff.mp h
      exact (allWellFormed_raw v hv).append (.cons trivial (allWellFormed_items (v' :: vs) hvs))

theorem allWellFormed_members : ∀ ms : List (String × Value), membersFloatFree ms = true →
    AllWellFormed (separated (memberLexemes (rawMembers ms)))
  | [], _ => .nil
  | [m], h => allWellFormed_member m (Bool.and_eq_true_iff.mp h).1
  | m :: m' :: ms, h => by
      obtain ⟨hm, hms⟩ := Bool.and_eq_true_iff.mp h
      exact (allWellFormed_member m hm).append
        (.cons trivial (allWellFormed_members (m' :: ms) hms))

theorem allWellFormed_member : ∀ m : String × Value, memberFloatFree m = true →
    AllWellFormed (lexemesOfMember (rawMember m))
  | (name, v), h => .cons (rawText_escaped name) (.cons trivial (allWellFormed_raw v h))

end

/-- An object follows the grammars if its names and its values do. -/
theorem allWellFormed_object {ms : List (Bytes × Raw)}
    (h : ∀ m ∈ ms, RawText m.1 ∧ AllWellFormed m.2.lexemes) :
    AllWellFormed (Raw.object ms).lexemes := by
  have members : ∀ {ms : List (Bytes × Raw)},
      (∀ m ∈ ms, RawText m.1 ∧ AllWellFormed m.2.lexemes) →
      AllWellFormed (separated (memberLexemes ms)) := by
    intro ms
    induction ms with
    | nil => exact fun _ => .nil
    | cons m ms ih =>
        intro h
        obtain ⟨name, k⟩ := m
        obtain ⟨hname, hvalue⟩ := h (name, k) (.head _)
        have hms := ih fun m hm => h m (.tail _ hm)
        have hm : AllWellFormed (.string name :: .colon :: k.lexemes) :=
          .cons hname (.cons trivial hvalue)
        cases ms with
        | nil => exact hm
        | cons m' ms => exact hm.append (.cons trivial hms)
  exact .cons trivial ((members h).append (.cons trivial .nil))

/-- What is printed for a value without floating point numbers is a JSON text. -/
theorem isText_print {v : Value} (h : v.floatFree = true) : IsText v.raw (spell v.print) := by
  rw [IsText, spell_print]
  exact spaced_lexemesText (allWellFormed_raw v h)

/-! ## Values a reader keeps -/

/-- A value that is kept where so many lists and objects may be nested. -/
inductive Value.Kept : Nat → Value → Prop where
  | null {d : Nat} : Kept d .null
  | bool {d : Nat} {b : Bool} : Kept d (.bool b)
  | whole {d : Nat} {n : Int} : wholeRange n → Kept d (.number (.whole n))
  | float {d : Nat} {x : Binary64} : Kept d (.number (.float x))
  | string {d : Nat} {s : String} : Kept d (.string s)
  | list {d : Nat} {items : List Value} : (∀ v ∈ items, Kept d v) → Kept (d + 1) (.list items)
  | object {d : Nat} {members : List (String × Value)} :
      SortedNames members → (∀ m ∈ members, Kept d m.2) → Kept (d + 1) (.object members)

theorem Tree.kept_of_readScalar {d start : Nat} {s : Scalar} {v : Value}
    (h : (Tree.scalar start s).readValue d = .ok v) : v.Kept d := by
  rw [readValue] at h
  match s with
  | .word .null =>
      cases h
      exact .null
  | .word .yes =>
      cases h
      exact .bool
  | .word .no =>
      cases h
      exact .bool
  | .cutWord _ _ => cases h
  | .number digits =>
      rw [Scalar.read] at h
      cases hread : readNumber start digits with
      | error f =>
          rw [hread] at h
          cases h
      | ok n =>
          rw [hread] at h
          cases h
          cases n with
          | whole n => exact .whole (wholeRange_of_readNumber hread)
          | float x => exact .float
  | .cutNumber _ _ => cases h
  | .string raw closing =>
      rw [Scalar.read] at h
      cases hread : readString start raw closing with
      | error f =>
          rw [hread] at h
          cases h
      | ok s =>
          rw [hread] at h
          cases h
          exact .string

mutual

/-- What has been read is kept. -/
theorem Tree.kept_of_readValue {d : Nat} {v : Value} :
    ∀ {t : Tree}, t.readValue d = .ok v → v.Kept d
  | .scalar _ _, h => Tree.kept_of_readScalar h
  | .list start items ending, h => by
      cases d with
      | zero => cases h
      | succ d =>
          unfold Tree.readValue at h
          simp only at h
          split at h
          next => cases h
          next => cases h
          next vs stop hread =>
            cases h
            exact .list (kept_of_readItemValues hread (by simp))
  | .object start members ending, h => by
      cases d with
      | zero => cases h
      | succ d =>
          unfold Tree.readValue at h
          simp only at h
          split at h
          next => cases h
          next => cases h
          next ms stop hread =>
            cases h
            exact .object (sortedNames_sortMembers ms) fun m hm =>
              kept_of_readMemberValues hread (by simp) m (mem_of_mem_sortMembers hm)
  | .broken b, h => by cases h

theorem kept_of_readItemValues {d : Nat} {vs : List Value} :
    ∀ {ts : List Tree} {done : List Value}, readItemValues d done ts = .ok vs →
      (∀ v ∈ done, v.Kept d) → ∀ v ∈ vs, v.Kept d
  | [], done, h, hdone => by
      cases h
      intro v hv
      exact hdone v (List.mem_reverse.mp hv)
  | t :: ts, done, h, hdone => by
      rw [readItemValues] at h
      split at h
      next => cases h
      next v hread =>
        refine kept_of_readItemValues h fun w hw => ?_
        rcases List.mem_cons.mp hw with rfl | hw
        · exact t.kept_of_readValue hread
        · exact hdone w hw

theorem kept_of_readMemberValues {d : Nat} {vs : List (String × Value)} :
    ∀ {ms : List Member} {done : List (String × Value)}, readMemberValues d done ms = .ok vs →
      (∀ m ∈ done, m.2.Kept d) → ∀ m ∈ vs, m.2.Kept d
  | [], done, h, hdone => by
      cases h
      intro m hm
      exact hdone m (List.mem_reverse.mp hm)
  | m :: ms, done, h, hdone => by
      rw [readMemberValues] at h
      split at h
      next => cases h
      next e hread =>
        refine kept_of_readMemberValues h fun e' he' => ?_
        rcases List.mem_cons.mp he' with rfl | he'
        · exact kept_of_readMemberValue hread
        · exact hdone e' he'

theorem kept_of_readMemberValue {d : Nat} {e : String × Value} :
    ∀ {m : Member}, readMemberValue d m = .ok e → e.2.Kept d
  | ⟨name, afterName, value, afterValue⟩, h => by
      rw [readMemberValue] at h
      split at h
      next => cases h
      next =>
        split at h
        next => cases h
        next v hread =>
          cases h
          exact value.kept_of_readValue hread

end

/-! ## Reading back -/

theorem readName_escaped (n e a b : Nat) (name : String) (t : Tree) :
    (Member.mk (.scalar n (.string (escaped name) (.closed e))) a t b).readName = .ok name :=
  readString_escaped n e name

mutual

/-- Every tree of what is printed for a value is read as that value. -/
theorem readValue_raw : ∀ (v : Value) {d : Nat} {t : Tree}, v.floatFree = true → v.Kept d →
    Shows t v.raw → t.readValue d = .ok v
  | .null, _, _, _, _, .word => rfl
  | .bool true, _, _, _, _, .word => rfl
  | .bool false, _, _, _, _, .word => rfl
  | .number (.whole n), _, _, _, .whole hn, .number => by
      rw [Tree.readValue, Scalar.read, readNumber_render _ hn]
      rfl
  | .string s, _, _, _, _, .string => by
      rw [Tree.readValue, Scalar.read, readString_escaped]
      rfl
  | .list items, _, _, hfree, .list hkept, .list ht => by
      simp only [Tree.readValue, readItemValues_raw items hfree hkept ht [], List.reverse_nil,
        List.nil_append]
  | .object members, _, _, hfree, .object hsorted hkept, .object ht => by
      simp only [Tree.readValue, readMemberValues_raw members hfree hkept ht [],
        List.reverse_nil, List.nil_append, sortMembers_of_sortedNames hsorted]

theorem readItemValues_raw : ∀ (vs : List Value) {d : Nat} {ts : List Tree},
    itemsFloatFree vs = true → (∀ v ∈ vs, v.Kept d) → ShowsItems ts (rawItems vs) →
    ∀ done : List Value, readItemValues d done ts = .ok (done.reverse ++ vs)
  | [], _, _, _, _, .nil, done => by rw [readItemValues, List.append_nil]
  | v :: vs, _, _, hfree, hkept, .cons ht hts, done => by
      obtain ⟨hv, hvs⟩ := Bool.and_eq_true_iff.mp hfree
      rw [readItemValues, readValue_raw v hv (hkept v (.head _)) ht]
      simp only
      rw [readItemValues_raw vs hvs (fun w hw => hkept w (.tail _ hw)) hts (v :: done)]
      simp

theorem readMemberValues_raw : ∀ (es : List (String × Value)) {d : Nat} {ms : List Member},
    membersFloatFree es = true → (∀ e ∈ es, e.2.Kept d) → ShowsMembers ms (rawMembers es) →
    ∀ done : List (String × Value), readMemberValues d done ms = .ok (done.reverse ++ es)
  | [], _, _, _, _, .nil, done => by rw [readMemberValues, List.append_nil]
  | (name, v) :: es, _, _, hfree, hkept, .cons ht hms, done => by
      obtain ⟨hv, hes⟩ := Bool.and_eq_true_iff.mp hfree
      rw [readMemberValues, readMemberValue, readName_escaped]
      simp only [readValue_raw v hv (hkept (name, v) (.head _)) ht]
      rw [readMemberValues_raw es hes (fun e he => hkept e (.tail _ he)) hms ((name, v) :: done)]
      simp

end

end Webhook.Json
