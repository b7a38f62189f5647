import Webhook.Proofs.Json.Fields
import Webhook.Proofs.Json.Widening

/-!
# Records that name a field twice

A record is refused when one of its fields is there twice.  This module says so of raw JSON.
`Raw.Repeats` is raw JSON in which more than one member has one of some names, and `Raw.ReadsAs` raw
JSON that is read as data of a shape.  What is read as a record repeats the name of no field
(`Raw.ReadsAs.not_repeats`), and what stands for a field in it is read as data of that field
(`Raw.ReadsAs.standIn`), so the same can be said of the records inside.
-/

namespace Webhook.Json

/-- Raw JSON in which more than one member has one of the names. -/
def Raw.Repeats (names : List String) (k : Raw) : Prop :=
  ∃ name ∈ names, 1 < (k.valuesOf name).length

/-- What stands for a field in a record with fields of these names: the values under its name in an
object, and the item in its place in a list. -/
def Raw.standIns (names : List String) (name : String) : Raw → List Raw
  | .list items => items[names.idxOf name]?.toList
  | k => k.valuesOf name

/-- Raw JSON that is read as data of a shape. -/
def Raw.ReadsAs (k : Raw) (s : Shape) : Prop := ∃ d t v, Shows t k ∧ s.read d t = .ok v

theorem Raw.Repeats.exists_members {names : List String} {k : Raw} (h : k.Repeats names) :
    ∃ ms, k = .object ms := by
  obtain ⟨name, -, h⟩ := h
  cases k with
  | object ms => exact ⟨ms, rfl⟩
  | _ => cases h

theorem Raw.not_repeats_null {names : List String} : ¬ (Raw.word .null).Repeats names := fun h => by
  obtain ⟨ms, hms⟩ := h.exists_members
  cases hms

/-- A member whose name is that of a field stands for it. -/
theorem Raw.mem_standIns {ms : List (Bytes × Raw)} {names : List String} {name : String}
    {raw : Bytes} {w : Raw} (hmem : (raw, w) ∈ ms) (hname : stringText? raw = some name) :
    w ∈ (Raw.object ms).standIns names name :=
  List.mem_filterMap.mpr ⟨(raw, w), hmem, if_pos hname⟩

/-! ## Fields -/

namespace Fields

/-- At most one member has the name of a field. -/
theorem ReadFrom.length_le {d : Nat} {ms : List Member} {name : String} :
    ∀ {fields : Fields} {v : fields.Val}, fields.ReadFrom d ms v → name ∈ fields.names →
      (valuesNamed name ms).length ≤ 1
  | .cons field _ s rest, (v, vs), ⟨hfield, hrest⟩, hname => by
      rw [names, List.mem_cons] at hname
      rcases hname with rfl | hname
      · rcases hfield with ⟨t, ht, -⟩ | ⟨hnone, -⟩
        · rw [ht, List.length_singleton]
        · rw [hnone]
          exact Nat.zero_le 1
      · exact hrest.length_le hname

/-- A member that has the name of a field is read as its data. -/
theorem ReadFrom.read {d : Nat} {ms : List Member} {name : String} {s : Shape} {t : Tree}
    (ht : t ∈ valuesNamed name ms) : ∀ {fields : Fields} {v : fields.Val},
      fields.ReadFrom d ms v → fields.shapeOf? name = some s → ∃ w, s.read d t = .ok w
  | .cons field _ s' rest, (v, vs), ⟨hfield, hrest⟩, hshape => by
      rw [shapeOf?] at hshape
      split at hshape
      next heq =>
        obtain rfl := Option.some.inj hshape
        subst heq
        rcases hfield with ⟨t', ht', hread⟩ | ⟨hnone, -⟩
        · rw [ht', List.mem_singleton] at ht
          exact ⟨v, ht ▸ hread⟩
        · rw [hnone] at ht
          cases ht
      next => exact hrest.read ht hshape

/-- The item in the place of a field is read as its data. -/
theorem read_of_readItems {d : Nat} {expected : String} {ending : Ending} {name : String}
    {s : Shape} {t : Tree} : ∀ {fields : Fields} {done : Nat} {ts : List Tree} {v : fields.Val},
      fields.readItems d expected ending done ts = .ok v → fields.shapeOf? name = some s →
      ts[fields.names.idxOf name]? = some t → ∃ w, s.read d t = .ok w
  | .cons field required s' rest, done, [], v, _, _, ht => by cases ht
  | .cons field required s' rest, done, t' :: ts, v, h, hshape, ht => by
      have h := (readItems_cons field required s' rest d expected ending done t' ts).symm.trans h
      split at h
      next => cases h
      next w hw =>
        obtain ⟨vs, hvs, -⟩ := map_eq_ok h
        rw [shapeOf?] at hshape
        split at hshape
        next heq =>
          obtain rfl := Option.some.inj hshape
          subst heq
          rw [names, List.idxOf_cons_self] at ht
          obtain rfl := Option.some.inj ht
          exact ⟨w, hw⟩
        next hne =>
          rw [names, List.idxOf_cons_ne _ (Ne.symm hne)] at ht
          exact read_of_readItems hvs hshape ht

end Fields

/-! ## Records -/

theorem ShowsItems.getElem? : ∀ {ts : List Tree} {ks : List Raw}, ShowsItems ts ks →
    ∀ {i : Nat} {w : Raw}, ks[i]? = some w → ∃ t, ts[i]? = some t ∧ Shows t w
  | _, _, .cons ht _, 0, _, h => by
      obtain rfl := Option.some.inj h
      exact ⟨_, rfl, ht⟩
  | _, _, .cons _ hs, i + 1, _, h => hs.getElem? (i := i) h

namespace Raw.ReadsAs

variable {k : Raw} {title : String} {fields : Fields}

/-- What is read as a record repeats the name of no field. -/
theorem not_repeats (hs : fields.sound = true) (h : k.ReadsAs (.record title fields)) :
    ¬ k.Repeats fields.names := by
  obtain ⟨d, t, v, ht, hread⟩ := h
  intro hrepeats
  obtain ⟨ks, rfl⟩ := hrepeats.exists_members
  obtain ⟨name, hname, hmany⟩ := hrepeats
  cases ht with
  | object hms =>
      obtain ⟨e, start, -, ⟨ms, ending, heq, hmembers⟩ | ⟨items, ending, expected, heq, -⟩⟩ :=
        Shape.read_record_inv hread
      · cases heq
        have hfew := (Fields.readFrom_of_readMembers hs hmembers).length_le hname
        rw [(forall₂_valuesNamed name hms).length_eq] at hfew
        exact Nat.not_lt.mpr hfew hmany
      · cases heq

/-- What stands for a field of a record that is read is read as data of the field. -/
theorem standIn (hs : fields.sound = true) (h : k.ReadsAs (.record title fields)) {name : String}
    {s : Shape} (hshape : fields.shapeOf? name = some s) {w : Raw}
    (hw : w ∈ k.standIns fields.names name) : w.ReadsAs s := by
  obtain ⟨d, t, v, ht, hread⟩ := h
  obtain ⟨e, start, -, ⟨ms, ending, rfl, hmembers⟩ | ⟨items, ending, expected, rfl, hitems⟩⟩ :=
    Shape.read_record_inv hread
  · cases ht with
    | object hms =>
        obtain ⟨t, hmem, ht⟩ := exists_of_mem_forall₂ (forall₂_valuesNamed name hms).flip hw
        obtain ⟨v, hv⟩ := (Fields.readFrom_of_readMembers hs hmembers).read hmem hshape
        exact ⟨e, t, v, ht, hv⟩
  · cases ht with
    | list hts =>
        obtain ⟨t, hitem, ht⟩ := hts.getElem? (Option.mem_toList.mp hw)
        obtain ⟨v, hv⟩ := Fields.read_of_readItems hitems hshape hitem
        exact ⟨e, t, v, ht, hv⟩

/-- What is read as an optional value is null, or is read as the value. -/
theorem of_optional {s : Shape} (h : k.ReadsAs (.optional s)) : k = .word .null ∨ k.ReadsAs s := by
  obtain ⟨d, t, v?, ht, hread⟩ := h
  rcases Shape.read_optional_inv hread with ⟨hnull, -⟩ | ⟨-, v, -, hread⟩
  · exact .inl (ht.isNull_iff.mp hnull)
  · exact .inr ⟨d, t, v, ht, hread⟩

theorem optional_not_repeats (hs : fields.sound = true)
    (h : k.ReadsAs (.optional (.record title fields))) : ¬ k.Repeats fields.names := by
  rcases h.of_optional with rfl | h
  · exact Raw.not_repeats_null
  · exact h.not_repeats hs

/-- What stands for a field of an optional record that is read is read as data of the field. -/
theorem optional_standIn (hs : fields.sound = true)
    (h : k.ReadsAs (.optional (.record title fields))) {name : String} {s : Shape}
    (hshape : fields.shapeOf? name = some s) {w : Raw} (hw : w ∈ k.standIns fields.names name) :
    w.ReadsAs s := by
  rcases h.of_optional with rfl | h
  · cases hw
  · exact h.standIn hs hshape hw

end Raw.ReadsAs

end Webhook.Json
