import Mathlib.Data.List.Nodup
import Webhook.Http.Router

/-!
# Route tables of literal paths

A path without braces stands for itself.  Its pieces are its letters, so it fits no other path, and
it goes together with every route but one of the same text.  In a table of such paths, each used
once, there is at most one mount for a request, the one on the very path that is asked for.

`Router.add_literal` says that a new path can always be added to such a table, and
`Router.mount?_literal` what is found in it.
-/

namespace Webhook.Http

namespace RoutePath

/-- A path without braces. -/
def IsLiteral (path : String) : Prop := ∀ c ∈ path.toList, c ≠ '\x7b' ∧ c ≠ '\x7d'

instance (path : String) : Decidable (IsLiteral path) :=
  decidable_of_iff (path.toList.all (fun c => c != '\x7b' && c != '\x7d') = true) (by
    simp [IsLiteral])

/-- The pieces of a literal path. -/
def letters (path : String) : List Piece := path.toList.map .letter

theorem marks_literal : ∀ {cs : List Char}, (∀ c ∈ cs, c ≠ '\x7b' ∧ c ≠ '\x7d') →
    marks cs = cs.map fun c => (c, false)
  | [], _ => rfl
  | c :: cs, h => by
      obtain ⟨hopen, hclose⟩ := h c (.head _)
      have hrest : marks cs = cs.map fun c => (c, false) :=
        marks_literal fun d hd => h d (.tail _ hd)
      rw [marks.eq_3, hrest]
      · rfl
      · rintro rest rfl
        exact absurd rfl hopen
      · rintro rest rfl
        exact absurd rfl hclose

theorem piecesFrom_literal : ∀ {cs : List Char}, (∀ c ∈ cs, c ≠ '\x7b' ∧ c ≠ '\x7d') →
    piecesFrom .literal (cs.map fun c => (c, false)) = .ok (cs.map .letter)
  | [], _ => rfl
  | c :: cs, h => by
      obtain ⟨hopen, hclose⟩ := h c (.head _)
      have hrest : piecesFrom .literal (cs.map fun c => (c, false)) = .ok (cs.map .letter) :=
        piecesFrom_literal fun d hd => h d (.tail _ hd)
      rw [List.map_cons, piecesFrom, hrest]
      · rfl
      · exact fun heq _ => hopen heq
      · exact fun heq _ => hclose heq

theorem pieces_literal {path : String} (h : IsLiteral path) : pieces path = .ok (letters path) := by
  rw [pieces, marks_literal h, piecesFrom_literal h, letters]

theorem letters_injective {path path' : String} (h : letters path = letters path') :
    path = path' := by
  have hinj : Function.Injective Piece.letter := fun _ _ heq => Piece.letter.inj heq
  exact String.toList_injective (List.map_injective_iff.mpr hinj h)

/-! ## Fitting -/

theorem fits_letter : ∀ {cs path : List Char}, fits (cs.map .letter) path = true ↔ path = cs
  | [], path => by simp [fits]
  | c :: cs, [] => by simp [fits]
  | c :: cs, d :: path => by
      rw [List.map_cons, fits, Bool.and_eq_true, beq_iff_eq, fits_letter]
      constructor
      · rintro ⟨rfl, rfl⟩
        rfl
      · intro h
        injection h with hd hpath
        exact ⟨hd.symm, hpath⟩

theorem fits_letters {path asked : String} :
    fits (letters path) asked.toList = true ↔ asked = path := by
  rw [letters, fits_letter]
  exact ⟨fun h => String.toList_injective h, fun h => h ▸ rfl⟩

/-! ## Going together -/

theorem mem_after {piece : Piece} {routes : List Known} {k : Known} :
    k ∈ after piece routes ↔ (piece :: k.1, k.2) ∈ routes := by
  rw [after, List.mem_filterMap]
  constructor
  · rintro ⟨⟨pieces, text⟩, hmem, hk⟩
    cases pieces with
    | nil => cases hk
    | cons p more =>
        simp only at hk
        split at hk
        next heq =>
          cases hk
          rw [← heq]
          exact hmem
        next => cases hk
  · intro hmem
    exact ⟨_, hmem, if_pos rfl⟩

/-- A literal path goes together with every route that has other pieces. -/
theorem conflict?_letter : ∀ {cs : List Char} {known : List Known},
    (∀ k ∈ known, k.1 ≠ cs.map .letter) → conflict? (cs.map .letter) known = none
  | [], known, h => by
      have hnone : known.find? (·.1.isEmpty) = none := by
        rw [List.find?_eq_none]
        intro k hk hempty
        exact h k hk (List.isEmpty_iff.mp hempty)
      rw [List.map_nil, conflict?, hnone]
      rfl
  | c :: cs, known, h => by
      rw [List.map_cons, conflict?]
      apply conflict?_letter
      intro k hk heq
      refine h _ (mem_after.mp hk) ?_
      rw [heq]
      rfl

theorem restIsLast_letter : ∀ cs : List Char, restIsLast (cs.map .letter) = true
  | [] => rfl
  | _ :: cs => restIsLast_letter cs

theorem register_literal {path : String} {known : List Known} (h : IsLiteral path)
    (hnew : ∀ k ∈ known, k.1 ≠ letters path) : register path known = .ok (letters path) := by
  have hconflict : conflict? (letters path) known = none := conflict?_letter hnew
  have hlast : restIsLast (letters path) = true := restIsLast_letter _
  rw [register, pieces_literal h]
  simp only [bind, Except.bind, hconflict, hlast]
  rfl

end RoutePath

open RoutePath (IsLiteral letters)

/-! ## Tables -/

namespace Router

variable {α : Type}

/-- A table of literal paths, each with one mount. -/
structure Literal (router : Router α) : Prop where
  /-- The pieces of a mount are the letters of its path. -/
  pieces : ∀ m ∈ router.mounts, m.pieces = letters m.path
  /-- No path has two mounts. -/
  distinct : (router.mounts.map (·.path)).Nodup

theorem literal_empty : (empty : Router α).Literal :=
  ⟨fun _ h => absurd h List.not_mem_nil, List.nodup_nil⟩

/-- The table with one more mount. -/
def withMount (router : Router α) (verb : Verb) (path : String) (route : α) : Router α :=
  ⟨router.mounts ++ [⟨path, letters path, [(verb, route)]⟩]⟩

theorem Literal.withMount {router : Router α} {path : String} (h : router.Literal) (verb : Verb)
    (route : α) (hnew : ∀ m ∈ router.mounts, m.path ≠ path) :
    (router.withMount verb path route).Literal where
  pieces m hm := by
    rcases List.mem_append.mp hm with hm | hm
    · exact h.pieces m hm
    · rw [List.mem_singleton.mp hm]
  distinct := by
    rw [Router.withMount, List.map_append, List.map_singleton, List.nodup_append]
    refine ⟨h.distinct, List.nodup_singleton _, ?_⟩
    intro p hp p' hp'
    obtain ⟨m, hm, rfl⟩ := List.mem_map.mp hp
    rw [List.mem_singleton.mp hp']
    exact hnew m hm

theorem newPieces_literal {router : Router α} {path : String} (h : router.Literal)
    (hpath : IsLiteral path) (hnew : ∀ m ∈ router.mounts, m.path ≠ path) :
    router.newPieces path = .ok (letters path) := by
  have hregister : RoutePath.register path
      (router.mounts.map fun m => (m.pieces, RoutePath.plainText m.path)) = .ok (letters path) := by
    apply RoutePath.register_literal hpath
    intro k hk heq
    obtain ⟨m, hm, rfl⟩ := List.mem_map.mp hk
    exact hnew m hm (RoutePath.letters_injective ((h.pieces m hm).symm.trans heq))
  have hsegments : (letters path).count .segment = 0 := by
    rw [List.count_eq_zero, letters, List.mem_map]
    rintro ⟨c, -, hc⟩
    cases hc
  rw [newPieces, hregister]
  simp only [hsegments]
  rfl

/-- A literal path that is new, and well-formed as a text, can always be added. -/
theorem add_literal {router : Router α} {path : String} (h : router.Literal) (verb : Verb)
    (route : α) (htext : textFault? path.toList = none) (hpath : IsLiteral path)
    (hnew : ∀ m ∈ router.mounts, m.path ≠ path) :
    router.add verb path route = .ok (router.withMount verb path route) := by
  have hfind : router.mounts.find? (·.path == path) = none := by
    rw [List.find?_eq_none]
    intro m hm heq
    exact hnew m hm (beq_iff_eq.mp heq)
  rw [add, htext, hfind, newPieces_literal h hpath hnew]
  rfl

/-! ## Looking up -/

/-- Among items with different keys, only one has the key of a given one. -/
theorem filter_key {β γ : Type} [BEq γ] [LawfulBEq γ] {key : β → γ} {x : β} :
    ∀ {xs : List β}, (xs.map key).Nodup → x ∈ xs → xs.filter (key · == key x) = [x]
  | y :: xs, hnodup, hx => by
      rw [List.map_cons, List.nodup_cons] at hnodup
      obtain ⟨hfirst, hrest⟩ := hnodup
      rcases List.mem_cons.mp hx with rfl | hx
      · have hnone : xs.filter (key · == key x) = [] := by
          rw [List.filter_eq_nil_iff]
          intro y hy heq
          exact hfirst (beq_iff_eq.mp heq ▸ List.mem_map_of_mem hy)
        rw [List.filter_cons, if_pos (beq_self_eq_true _), hnone]
      · have hne : (key y == key x) = false := by
          rw [beq_eq_false_iff_ne]
          intro heq
          exact hfirst (heq ▸ List.mem_map_of_mem hx)
        rw [List.filter_cons, if_neg (by rw [hne]; exact Bool.false_ne_true)]
        exact filter_key hrest hx

/-- Only the mount on the path itself fits the path. -/
theorem Literal.filter_fits {router : Router α} (h : router.Literal) (path : String) :
    (router.mounts.filter fun m => RoutePath.fits m.pieces path.toList)
      = router.mounts.filter (·.path == path) := by
  apply List.filter_congr
  intro m hm
  rw [h.pieces m hm, Bool.eq_iff_iff, RoutePath.fits_letters, beq_iff_eq]
  exact eq_comm

theorem mount?_literal {router : Router α} (h : router.Literal) {m : Mount α}
    (hm : m ∈ router.mounts) : router.mount? m.path = some m := by
  rw [mount?, h.filter_fits, filter_key h.distinct hm]
  rfl

theorem lookup_literal {router : Router α} (h : router.Literal) {m : Mount α} {route : α}
    {method : String} (hm : m ∈ router.mounts) (hroute : m.route? method = some route) :
    router.lookup method m.path = .found route := by
  rw [lookup, mount?_literal h hm]
  simp only [hroute]

end Router
end Webhook.Http
