import Mathlib.Data.List.Perm.Basic
import Webhook.Proofs.Json.Fields

/-!
# One value in two spellings

`Raw.Same` says that two pieces of raw JSON are spellings of one value.  Numbers are spelled alike.
Strings and the names of members stand for the same texts, with whatever escapes.  The members of
an object may stand in another order, but not when two of them have one name, since the later one
may count then.  Blanks are no part of raw JSON.

The relation is reflexive and symmetric (`Raw.Same.refl`, `Raw.Same.symm`).  `Tree.Same` and
`Member.Same` are the same for trees, and the `inv` lemmas say what a tree looks like that spells
the value of a given one.
-/

namespace Webhook.Json

/-! ## The order of things with keys -/

section Reordered

variable {α β : Type} {key : α → Option String} {xs ys : List α}

/-- The same things in another order, unless two of them have one key. -/
def Reordered (key : α → Option String) (xs ys : List α) : Prop :=
  xs = ys ∨ (xs.filterMap key).Nodup ∧ xs.Perm ys

theorem Reordered.symm (h : Reordered key xs ys) : Reordered key ys xs := by
  rcases h with rfl | ⟨hnodup, hperm⟩
  · exact .inl rfl
  · exact .inr ⟨(hperm.filterMap key).nodup hnodup, hperm.symm⟩

theorem filterMap_of_forall₂ {r : α → β → Prop} {keyOf : β → Option String}
    {ys : List β} (hkey : ∀ x y, r x y → key x = keyOf y) (hs : List.Forall₂ r xs ys) :
    xs.filterMap key = ys.filterMap keyOf := by
  induction hs with
  | nil => rfl
  | cons hxy _ ih => rw [List.filterMap_cons, List.filterMap_cons, hkey _ _ hxy, ih]

/-- Things that stand for others one by one can be put in the order of those. -/
theorem Reordered.lift {r : α → β → Prop} {keyOf : β → Option String} {ys zs : List β}
    (hkey : ∀ x y, r x y → key x = keyOf y) (hs : List.Forall₂ r xs ys)
    (h : Reordered keyOf ys zs) : ∃ ws, Reordered key xs ws ∧ List.Forall₂ r ws zs := by
  rcases h with rfl | ⟨hnodup, hperm⟩
  · exact ⟨xs, .inl rfl, hs⟩
  · obtain ⟨ws, hws, hxs⟩ := List.perm_comp_forall₂ hperm.symm hs.flip
    exact ⟨ws, .inr ⟨filterMap_of_forall₂ hkey hs ▸ hnodup, hxs.symm⟩, hws.flip⟩

end Reordered

/-! ## Spellings -/

/-- The name of a member of raw JSON, if it stands for a text. -/
def rawName? (m : Bytes × Raw) : Option String := stringText? m.1

mutual

/-- Two spellings of one value. -/
inductive Raw.Same : Raw → Raw → Prop where
  | word {w : Word} : Raw.Same (.word w) (.word w)
  | number {digits : Bytes} : Raw.Same (.number digits) (.number digits)
  | string {raw raw' : Bytes} :
      stringText? raw = stringText? raw' → Raw.Same (.string raw) (.string raw')
  | list {ks ks' : List Raw} : SameItems ks ks' → Raw.Same (.list ks) (.list ks')
  | object {ms ns ms' : List (Bytes × Raw)} :
      SameMembers ms ns → Reordered rawName? ns ms' → Raw.Same (.object ms) (.object ms')

/-- Two spellings of the items of a list. -/
inductive SameItems : List Raw → List Raw → Prop where
  | nil : SameItems [] []
  | cons {k k' : Raw} {ks ks' : List Raw} :
      Raw.Same k k' → SameItems ks ks' → SameItems (k :: ks) (k' :: ks')

/-- Two spellings of the members of an object, in one order. -/
inductive SameMembers : List (Bytes × Raw) → List (Bytes × Raw) → Prop where
  | nil : SameMembers [] []
  | cons {raw raw' : Bytes} {k k' : Raw} {ms ms' : List (Bytes × Raw)} :
      stringText? raw = stringText? raw' → Raw.Same k k' → SameMembers ms ms' →
      SameMembers ((raw, k) :: ms) ((raw', k') :: ms')

end

/-- Two spellings of a member. -/
def SameMember (m m' : Bytes × Raw) : Prop := rawName? m = rawName? m' ∧ m.2.Same m'.2

theorem sameMembers_iff :
    ∀ {ms ms' : List (Bytes × Raw)}, SameMembers ms ms' ↔ List.Forall₂ SameMember ms ms'
  | [], [] => ⟨fun _ => .nil, fun _ => .nil⟩
  | [], _ :: _ => ⟨nofun, nofun⟩
  | _ :: _, [] => ⟨nofun, nofun⟩
  | (raw, k) :: ms, (raw', k') :: ms' => by
      rw [List.forall₂_cons, ← sameMembers_iff]
      constructor
      · intro h
        cases h with
        | cons hname hk hms => exact ⟨⟨hname, hk⟩, hms⟩
      · rintro ⟨⟨hname, hk⟩, hms⟩
        exact .cons hname hk hms

mutual

theorem Raw.Same.refl : ∀ k : Raw, k.Same k
  | .word _ => .word
  | .number _ => .number
  | .string _ => .string rfl
  | .list ks => .list (SameItems.refl ks)
  | .object ms => .object (SameMembers.refl ms) (.inl rfl)

theorem SameItems.refl : ∀ ks : List Raw, SameItems ks ks
  | [] => .nil
  | k :: ks => .cons (Raw.Same.refl k) (SameItems.refl ks)

theorem SameMembers.refl : ∀ ms : List (Bytes × Raw), SameMembers ms ms
  | [] => .nil
  | m :: ms => .cons rfl (SameMember.refl m).2 (SameMembers.refl ms)

theorem SameMember.refl : ∀ m : Bytes × Raw, SameMember m m
  | (_, k) => ⟨rfl, Raw.Same.refl k⟩

end

mutual

theorem Raw.Same.symm : ∀ {k k' : Raw}, k.Same k' → k'.Same k
  | _, _, .word => .word
  | _, _, .number => .number
  | _, _, .string h => .string h.symm
  | _, _, .list hs => .list hs.symm
  | _, _, .object hms horder => by
      obtain ⟨ws, hws, hsame⟩ := horder.lift (fun _ _ h => h.1.symm)
        (sameMembers_iff.mp hms.symm).flip
      exact .object (sameMembers_iff.mpr hsame.flip) hws.symm

theorem SameItems.symm : ∀ {ks ks' : List Raw}, SameItems ks ks' → SameItems ks' ks
  | _, _, .nil => .nil
  | _, _, .cons hk hks => .cons hk.symm hks.symm

theorem SameMembers.symm :
    ∀ {ms ms' : List (Bytes × Raw)}, SameMembers ms ms' → SameMembers ms' ms
  | _, _, .nil => .nil
  | _, _, .cons hname hk hms => .cons hname.symm hk.symm hms.symm

end

theorem Raw.Same.word_iff {w : Word} {k k' : Raw} (h : k.Same k') :
    k = .word w ↔ k' = .word w := by
  cases h with
  | word => exact Iff.rfl
  | number => exact ⟨nofun, nofun⟩
  | string => exact ⟨nofun, nofun⟩
  | list => exact ⟨nofun, nofun⟩
  | object => exact ⟨nofun, nofun⟩

/-! ## Trees of two spellings -/

/-- Trees of two spellings of one value. -/
def Tree.Same (t t' : Tree) : Prop := ∃ k k', Shows t k ∧ Shows t' k' ∧ k.Same k'

/-- The name of a member, if it stands for a text. -/
def Member.name? (m : Member) : Option String := m.readName.toOption

/-- Members of one name, whose values are two spellings of one value. -/
structure Member.Same (m m' : Member) : Prop where
  /-- They have one name. -/
  name : m.name? = m'.name?
  /-- They have one value. -/
  value : m.value.Same m'.value

/-- A member of an object is the tree of a raw one. -/
def ShowsMember (m : Member) (k : Bytes × Raw) : Prop :=
  ∃ n e a b t, m = ⟨.scalar n (.string k.1 (.closed e)), a, t, b⟩ ∧ Shows t k.2

theorem showsMembers_iff : ∀ {ms : List Member} {ks : List (Bytes × Raw)},
    ShowsMembers ms ks ↔ List.Forall₂ ShowsMember ms ks
  | [], [] => ⟨fun _ => .nil, fun _ => .nil⟩
  | [], _ :: _ => ⟨nofun, nofun⟩
  | _ :: _, [] => ⟨nofun, nofun⟩
  | m :: ms, (raw, k) :: ks => by
      rw [List.forall₂_cons, ← showsMembers_iff]
      constructor
      · intro h
        cases h with
        | cons ht hms => exact ⟨⟨_, _, _, _, _, rfl, ht⟩, hms⟩
      · rintro ⟨⟨n, e, a, b, t, rfl, ht⟩, hms⟩
        exact .cons ht hms

theorem toOption_readString (start stop : Nat) (raw : Bytes) :
    (readString start raw (.closed stop)).toOption = stringText? raw := by
  cases htext : stringText? raw with
  | some s =>
      rw [readString_iff.mpr htext]
      rfl
  | none =>
      cases hread : readString start raw (.closed stop) with
      | error f => rfl
      | ok s =>
          rw [readString_iff.mp hread] at htext
          cases htext

theorem ShowsMember.name?_eq {m : Member} {k : Bytes × Raw} (h : ShowsMember m k) :
    m.name? = rawName? k := by
  obtain ⟨n, e, a, b, t, rfl, -⟩ := h
  exact toOption_readString n e k.1

theorem ShowsMember.shows {m : Member} {k : Bytes × Raw} (h : ShowsMember m k) :
    Shows m.value k.2 := by
  obtain ⟨n, e, a, b, t, rfl, ht⟩ := h
  exact ht

theorem forall₂_tree_same : ∀ {ts us : List Tree} {ks ls : List Raw}, ShowsItems ts ks →
    SameItems ks ls → ShowsItems us ls → List.Forall₂ Tree.Same ts us
  | _, _, _, _, .nil, .nil, .nil => .nil
  | _, _, _, _, .cons ht hts, .cons hk hks, .cons hu hus =>
      .cons ⟨_, _, ht, hu, hk⟩ (forall₂_tree_same hts hks hus)

theorem forall₂_member_same : ∀ {ms ns : List Member} {ks ls : List (Bytes × Raw)},
    List.Forall₂ ShowsMember ms ks → List.Forall₂ SameMember ks ls →
      List.Forall₂ ShowsMember ns ls → List.Forall₂ Member.Same ms ns
  | _, _, _, _, .nil, .nil, .nil => .nil
  | _, _, _, _, .cons hm hms, .cons hk hks, .cons hn hns =>
      .cons ⟨hm.name?_eq.trans (hk.1.trans hn.name?_eq.symm), _, _, hm.shows, hn.shows, hk.2⟩
        (forall₂_member_same hms hks hns)

theorem Shows.isNull_iff {t : Tree} {k : Raw} (h : Shows t k) :
    t.isNull = true ↔ k = .word .null := by
  cases h with
  | @word n w =>
      cases w with
      | null => exact ⟨fun _ => rfl, fun _ => rfl⟩
      | yes => exact ⟨nofun, nofun⟩
      | no => exact ⟨nofun, nofun⟩
  | number => exact ⟨nofun, nofun⟩
  | string => exact ⟨nofun, nofun⟩
  | list => exact ⟨nofun, nofun⟩
  | object => exact ⟨nofun, nofun⟩

theorem Tree.Same.isNull_iff {t t' : Tree} (h : t.Same t') :
    t.isNull = true ↔ t'.isNull = true := by
  obtain ⟨k, k', ht, ht', hk⟩ := h
  exact ht.isNull_iff.trans (hk.word_iff.trans ht'.isNull_iff.symm)

/-- A tree of the value of a word is that word. -/
theorem Tree.Same.word_inv {n : Nat} {w : Word} {t' : Tree}
    (h : (Tree.scalar n (.word w)).Same t') : ∃ n', t' = .scalar n' (.word w) := by
  obtain ⟨_, _, ht, ht', hk⟩ := h
  cases ht
  cases hk
  cases ht'
  exact ⟨_, rfl⟩

/-- A tree of the value of a number is that number. -/
theorem Tree.Same.number_inv {n : Nat} {digits : Bytes} {t' : Tree}
    (h : (Tree.scalar n (.number digits)).Same t') : ∃ n', t' = .scalar n' (.number digits) := by
  obtain ⟨_, _, ht, ht', hk⟩ := h
  cases ht
  cases hk
  cases ht'
  exact ⟨_, rfl⟩

/-- A tree of the value of a string is a string for the same text. -/
theorem Tree.Same.string_inv {n : Nat} {raw : Bytes} {closing : Closing} {t' : Tree}
    (h : (Tree.scalar n (.string raw closing)).Same t') : ∃ e n' raw' e', closing = .closed e ∧
      t' = .scalar n' (.string raw' (.closed e')) ∧ stringText? raw = stringText? raw' := by
  obtain ⟨_, _, ht, ht', hk⟩ := h
  cases ht
  cases hk with
  | string htext =>
      cases ht'
      exact ⟨_, _, _, _, rfl, rfl, htext⟩

/-- A tree of the value of a list is a list of the values of its items. -/
theorem Tree.Same.list_inv {n : Nat} {ts : List Tree} {ending : Ending} {t' : Tree}
    (h : (Tree.list n ts ending).Same t') : ∃ e n' ts' e', ending = .closed e ∧
      t' = .list n' ts' (.closed e') ∧ List.Forall₂ Tree.Same ts ts' := by
  obtain ⟨_, _, ht, ht', hk⟩ := h
  cases ht with
  | list hts =>
    cases hk with
    | list hks =>
      cases ht' with
      | list hts' => exact ⟨_, _, _, _, rfl, rfl, forall₂_tree_same hts hks hts'⟩

/-- A tree of the value of an object is an object with the same members, perhaps in another
order. -/
theorem Tree.Same.object_inv {n : Nat} {ms : List Member} {ending : Ending} {t' : Tree}
    (h : (Tree.object n ms ending).Same t') : ∃ e n' ns ms' e', ending = .closed e ∧
      t' = .object n' ms' (.closed e') ∧ List.Forall₂ Member.Same ms ns ∧
        Reordered Member.name? ns ms' := by
  obtain ⟨_, _, ht, ht', hk⟩ := h
  cases ht with
  | object hms =>
    cases hk with
    | object hks horder =>
      cases ht' with
      | object hms' =>
          obtain ⟨ns, hns, hshows⟩ := horder.symm.lift (fun _ _ hm => hm.name?_eq)
            (showsMembers_iff.mp hms')
          exact ⟨_, _, ns, _, _, rfl, rfl,
            forall₂_member_same (showsMembers_iff.mp hms) (sameMembers_iff.mp hks) hshows,
            hns.symm⟩

end Webhook.Json
