import Mathlib.Data.List.Pairwise
import Webhook.Proofs.Http.LiteralRoutes

/-!
# What a table of closed paths finds

A path is *closed* when it leaves no segment open.  It may hold braces that are written twice, and
stands for one text, in which they count once (`RoutePath.pieces_closed`).

`Router.Lists` says that a table holds certain entries and nothing else: each path of an entry has a
mount, the routes of a mount are the entries of its path, and no two mounts stand for one text.
Adding a route adds its entry (`Router.Lists.add`).  So a look-up comes to one of three things, and
the entries for the text that is asked for say to which (`Router.Lists.lookup_missing`,
`Router.Lists.lookup_wrongMethod`, `Router.Lists.lookup_found`).
-/

namespace Webhook.Http

/-- Whether a piece stands for one letter. -/
def Piece.isLetter : Piece → Bool
  | .letter _ => true
  | .segment | .rest => false

namespace RoutePath

/-! ## Closed paths -/

/-- A path that leaves no segment open. -/
def IsClosed (path : String) : Prop :=
  ∀ ps, pieces path = .ok ps → ∀ p ∈ ps, p.isLetter = true

instance (path : String) : Decidable (IsClosed path) :=
  decidable_of_iff ((pieces path).toOption.all (·.all Piece.isLetter) = true) (by
    rw [IsClosed]
    cases pieces path with
    | error fault => simp [Except.toOption]
    | ok ps => simp [Except.toOption])

/-- Whether a place is outside of braces. -/
def Place.isOutside : Place → Bool
  | .literal | .closed => true
  | .opened | .starred | .name _ => false

theorem map_letter_inv {c : Char} {x : Except PathFault (List Piece)} {ps : List Piece}
    (h : x.map (.letter c :: ·) = .ok ps) (hps : ∀ p ∈ ps, p.isLetter = true) :
    ∃ more, x = .ok more ∧ ps = .letter c :: more ∧ ∀ p ∈ more, p.isLetter = true := by
  cases x with
  | error fault => cases h
  | ok more =>
      obtain rfl := Except.ok.inj h
      exact ⟨more, rfl, rfl, fun p hp => hps p (.tail _ hp)⟩

theorem map_openPiece_inv {all : Bool} {x : Except PathFault (List Piece)} {ps : List Piece}
    (h : x.map (openPiece all :: ·) = .ok ps) : ∃ p ∈ ps, p.isLetter = false := by
  cases x with
  | error fault => cases h
  | ok more =>
      obtain rfl := Except.ok.inj h
      refine ⟨openPiece all, .head _, ?_⟩
      cases all <;> rfl

/-- Pieces that are all letters are those of the marks, and are read outside of braces. -/
theorem piecesFrom_inv {place : Place} {ms : List Mark} {ps : List Piece}
    (h : piecesFrom place ms = .ok ps) (hps : ∀ p ∈ ps, p.isLetter = true) :
    place.isOutside = true ∧ ps = ms.map fun m => .letter m.1 := by
  fun_induction piecesFrom place ms generalizing ps with
  | case1 | case2 =>
      cases h
      exact ⟨rfl, rfl⟩
  | case3 | case4 | case5 | case7 | case9 | case12 | case14 | case17 | case19 => cases h
  | case6 rest ih | case10 _ rest ih | case11 _ rest _ _ ih =>
      -- an opening brace leads into braces
      cases (ih h hps).1
  | case13 c _ rest _ _ ih | case16 _ c _ rest _ _ ih => cases (ih h hps).1
  | case15 all rest ih =>
      obtain ⟨p, hp, hopen⟩ := map_openPiece_inv h
      exact absurd (hopen.symm.trans (hps p hp)) Bool.false_ne_true
  | case8 c _ rest _ _ ih | case18 _ rest ih =>
      obtain ⟨more, hmore, rfl, hletters⟩ := map_letter_inv h hps
      exact ⟨rfl, congrArg _ (ih hmore hletters).2⟩

/-- The pieces of a closed path are the letters of its text. -/
theorem pieces_closed {path : String} {ps : List Piece} (hclosed : IsClosed path)
    (h : pieces path = .ok ps) : ps = letters (plainText path) := by
  obtain ⟨-, rfl⟩ := piecesFrom_inv h (hclosed ps h)
  rw [letters, plainText, String.toList_ofList, List.map_map]
  rfl

theorem plainText_literal {path : String} (h : IsLiteral path) : plainText path = path := by
  rw [plainText, marks_literal h, List.map_map]
  exact (congrArg String.ofList (List.map_id _)).trans (String.ofList_toList)

theorem isClosed_literal {path : String} (h : IsLiteral path) : IsClosed path := by
  intro ps hps p hp
  obtain rfl := Except.ok.inj ((pieces_literal h).symm.trans hps)
  obtain ⟨c, -, rfl⟩ := List.mem_map.mp hp
  rfl

/-- A path that goes together with known routes has other pieces than each of them, when its own
are letters. -/
theorem ne_of_conflict?_letter {cs : List Char} {known : List Known}
    (h : conflict? (cs.map .letter) known = none) : ∀ k ∈ known, k.1 ≠ cs.map .letter := by
  induction cs generalizing known with
  | nil =>
      intro k hk heq
      rw [List.map_nil, conflict?, Option.map_eq_none_iff, List.find?_eq_none] at h
      exact h k hk (List.isEmpty_iff.mpr heq)
  | cons c cs ih =>
      intro k hk heq
      rw [List.map_cons, conflict?] at h
      -- without its first letter the known route goes on to the next step
      have hafter : (cs.map Piece.letter, k.2) ∈ after (.letter c) known := by
        rw [mem_after, ← List.map_cons, ← heq]
        exact hk
      exact ih h _ hafter rfl

theorem register_inv {path : String} {known : List Known} {ps : List Piece}
    (h : register path known = .ok ps) : pieces path = .ok ps ∧ conflict? ps known = none := by
  rw [register] at h
  cases hpieces : pieces path with
  | error fault =>
      rw [hpieces] at h
      cases h
  | ok new =>
      rw [hpieces] at h
      cases hconflict : conflict? new known with
      | some other =>
          simp only [bind, Except.bind, hconflict] at h
          cases h
      | none =>
          simp only [bind, Except.bind, hconflict] at h
          split at h
          next =>
            cases h
            exact ⟨rfl, hconflict⟩
          next => cases h

end RoutePath

open RoutePath (IsClosed letters plainText)

/-! ## Entries -/

/-- A route in a table. -/
structure Entry (α : Type) where
  /-- What it serves. -/
  verb : Verb
  /-- Its path. -/
  path : String
  /-- The route. -/
  route : α

namespace Entry

variable {α : Type}

/-- The text that an entry is for. -/
def text (e : Entry α) : String := plainText e.path

/-- The routes of a path among some entries. -/
def routesAt (path : String) (entries : List (Entry α)) : List (Verb × α) :=
  (entries.filter (·.path == path)).map fun e => (e.verb, e.route)

theorem mem_routesAt {path : String} {entries : List (Entry α)} {r : Verb × α} :
    r ∈ routesAt path entries ↔ ⟨r.1, path, r.2⟩ ∈ entries := by
  rw [routesAt, List.mem_map]
  constructor
  · rintro ⟨e, he, rfl⟩
    obtain ⟨he, hpath⟩ := List.mem_filter.mp he
    rwa [← beq_iff_eq.mp hpath]
  · intro h
    exact ⟨_, List.mem_filter.mpr ⟨h, beq_self_eq_true path⟩, rfl⟩

theorem routesAt_concat_same (entries : List (Entry α)) (verb : Verb) (path : String) (route : α) :
    routesAt path (entries ++ [⟨verb, path, route⟩])
      = routesAt path entries ++ [(verb, route)] := by
  simp [routesAt, List.filter_append]

theorem routesAt_concat_other (entries : List (Entry α)) {e : Entry α} {path : String}
    (h : e.path ≠ path) : routesAt path (entries ++ [e]) = routesAt path entries := by
  simp [routesAt, List.filter_append, h]

end Entry

/-! ## Adding a route -/

/-- A method is served by one verb only. -/
theorem Verb.eq_of_mem_methods {verb verb' : Verb} {method : String} (h : method ∈ verb.methods)
    (h' : method ∈ verb'.methods) : verb = verb' := by
  cases verb <;> cases verb' <;> simp_all [methods]

namespace Mount

variable {α : Type}

/-- A mount with one more route, if it is that of the path. -/
def withRoute (verb : Verb) (path : String) (route : α) (m : Mount α) : Mount α :=
  if m.path == path then { m with routes := m.routes ++ [(verb, route)] } else m

@[simp] theorem path_withRoute (verb : Verb) (path : String) (route : α) (m : Mount α) :
    (m.withRoute verb path route).path = m.path := by
  rw [withRoute]
  split <;> rfl

@[simp] theorem pieces_withRoute (verb : Verb) (path : String) (route : α) (m : Mount α) :
    (m.withRoute verb path route).pieces = m.pieces := by
  rw [withRoute]
  split <;> rfl

theorem routes_withRoute_same (verb : Verb) (route : α) (m : Mount α) :
    (m.withRoute verb m.path route).routes = m.routes ++ [(verb, route)] := by
  rw [withRoute, if_pos (beq_self_eq_true _)]

theorem routes_withRoute_other (verb : Verb) {path : String} (route : α) {m : Mount α}
    (h : m.path ≠ path) : (m.withRoute verb path route).routes = m.routes := by
  rw [withRoute, if_neg fun heq => h (beq_iff_eq.mp heq)]

end Mount

namespace Router

variable {α : Type}

theorem newPieces_inv {router : Router α} {path : String} {ps : List Piece}
    (h : router.newPieces path = .ok ps) : RoutePath.pieces path = .ok ps ∧
      RoutePath.conflict? ps (router.mounts.map fun m => (m.pieces, plainText m.path)) = none := by
  rw [newPieces] at h
  split at h
  next => cases h
  next new hregister =>
    split at h
    next => cases h
    next =>
      cases h
      exact RoutePath.register_inv hregister

/-- A route goes to the mount of its path, which does not serve its verb yet, or to a new one. -/
theorem add_inv {router router' : Router α} {verb : Verb} {path : String} {route : α}
    (h : router.add verb path route = .ok router') :
    (∃ m ∈ router.mounts, m.path = path ∧ m.serves verb = false ∧
      router' = ⟨router.mounts.map (Mount.withRoute verb path route)⟩) ∨
    ((∀ m ∈ router.mounts, m.path ≠ path) ∧ ∃ ps, router.newPieces path = .ok ps ∧
      router' = ⟨router.mounts ++ [⟨path, ps, [(verb, route)]⟩]⟩) := by
  rw [add] at h
  cases htext : textFault? path.toList with
  | some fault =>
      rw [htext] at h
      cases h
  | none =>
      rw [htext] at h
      cases hfind : router.mounts.find? (·.path == path) with
      | some m =>
          simp only [hfind] at h
          have hpath : m.path = path := by simpa using List.find?_some hfind
          refine .inl ⟨m, List.mem_of_find?_eq_some hfind, hpath, ?_⟩
          cases hserves : m.serves verb with
          | true =>
              rw [hserves] at h
              cases h
          | false =>
              rw [hserves] at h
              exact ⟨rfl, (Except.ok.inj h).symm⟩
      | none =>
          simp only [hfind] at h
          refine .inr ⟨fun m hm heq => ?_, ?_⟩
          · exact List.find?_eq_none.mp hfind m hm (beq_iff_eq.mpr heq)
          · cases hnew : router.newPieces path with
            | error fault =>
                rw [hnew] at h
                cases h
            | ok ps =>
                rw [hnew] at h
                exact ⟨ps, rfl, (Except.ok.inj h).symm⟩

/-! ## Tables and their entries -/

/-- A table that holds certain entries, whose paths are closed. -/
structure Lists (router : Router α) (entries : List (Entry α)) : Prop where
  /-- The pieces of a mount are the letters of the text of its path. -/
  pieces : ∀ m ∈ router.mounts, m.pieces = letters (plainText m.path)
  /-- No two mounts stand for one text. -/
  distinct : (router.mounts.map fun m => plainText m.path).Nodup
  /-- A mount has the routes of its path. -/
  routes : ∀ m ∈ router.mounts, m.routes = Entry.routesAt m.path entries
  /-- The paths of the mounts are those of the entries. -/
  paths : ∀ path, path ∈ router.mounts.map (·.path) ↔ path ∈ entries.map (·.path)
  /-- No path has two routes for one verb. -/
  single : entries.Pairwise fun e e' => e.path = e'.path → e.verb ≠ e'.verb

namespace Lists

theorem nil : (empty : Router α).Lists [] where
  pieces _ h := absurd h List.not_mem_nil
  distinct := List.nodup_nil
  routes _ h := absurd h List.not_mem_nil
  paths _ := Iff.rfl
  single := .nil

/-- A route for a verb that the mount of its path does not serve yet. -/
theorem withRoute {router : Router α} {entries : List (Entry α)} (h : router.Lists entries)
    {m : Mount α} (hm : m ∈ router.mounts) {verb : Verb} (hserves : m.serves verb = false)
    (route : α) : Lists ⟨router.mounts.map (Mount.withRoute verb m.path route)⟩
      (entries ++ [⟨verb, m.path, route⟩]) where
  pieces _ hmem := by
    obtain ⟨m', hm', rfl⟩ := List.mem_map.mp hmem
    rw [Mount.pieces_withRoute, Mount.path_withRoute]
    exact h.pieces m' hm'
  distinct := by
    rw [List.map_map]
    simpa [Function.comp_def] using h.distinct
  routes _ hmem := by
    obtain ⟨m', hm', rfl⟩ := List.mem_map.mp hmem
    rw [Mount.path_withRoute]
    by_cases hpath : m'.path = m.path
    · rw [← hpath, Mount.routes_withRoute_same, Entry.routesAt_concat_same, h.routes m' hm']
    · rw [Mount.routes_withRoute_other verb route hpath,
        Entry.routesAt_concat_other entries (Ne.symm hpath), h.routes m' hm']
  paths path := by
    have hmount : m.path ∈ entries.map (·.path) :=
      (h.paths m.path).mp (List.mem_map_of_mem hm)
    have hsame : (router.mounts.map (Mount.withRoute verb m.path route)).map (·.path)
        = router.mounts.map (·.path) := by
      simp [Function.comp_def]
    rw [hsame, h.paths, List.map_append, List.mem_append, List.map_singleton, List.mem_singleton]
    constructor
    · exact .inl
    · rintro (hpath | rfl)
      · exact hpath
      · exact hmount
  single := by
    refine List.pairwise_append.mpr ⟨h.single, List.pairwise_singleton _ _, ?_⟩
    intro e he e' he' hpath hverb
    obtain rfl := List.mem_singleton.mp he'
    have hpath : e.path = m.path := hpath
    have hverb : e.verb = verb := hverb
    have hroute : (verb, e.route) ∈ m.routes := by
      rw [h.routes m hm, ← hpath, ← hverb, Entry.mem_routesAt]
      exact he
    have hserved : m.serves verb = true := List.any_eq_true.mpr ⟨_, hroute, beq_self_eq_true verb⟩
    exact Bool.false_ne_true (hserves.symm.trans hserved)

/-- A route on a path of a new text. -/
theorem withMount {router : Router α} {entries : List (Entry α)} (h : router.Lists entries)
    {path : String} (hnew : ∀ m ∈ router.mounts, plainText m.path ≠ plainText path) (verb : Verb)
    (route : α) : Lists ⟨router.mounts ++ [⟨path, letters (plainText path), [(verb, route)]⟩]⟩
      (entries ++ [⟨verb, path, route⟩]) := by
  have hpath : path ∉ entries.map (·.path) := by
    rw [← h.paths, List.mem_map]
    rintro ⟨m, hm, rfl⟩
    exact hnew m hm rfl
  have hothers : ∀ e ∈ entries, e.path ≠ path := fun e he heq =>
    hpath (heq ▸ List.mem_map_of_mem he)
  constructor
  case pieces =>
    intro m hm
    rcases List.mem_append.mp hm with hm | hm
    · exact h.pieces m hm
    · rw [List.mem_singleton.mp hm]
  case distinct =>
    rw [List.map_append, List.map_singleton, List.nodup_append]
    refine ⟨h.distinct, List.nodup_singleton _, ?_⟩
    intro text htext text' htext'
    obtain ⟨m, hm, rfl⟩ := List.mem_map.mp htext
    rw [List.mem_singleton.mp htext']
    exact hnew m hm
  case routes =>
    intro m hm
    rcases List.mem_append.mp hm with hm | hm
    · have hne : path ≠ m.path := fun heq => hnew m hm (congrArg plainText heq.symm)
      rw [h.routes m hm, Entry.routesAt_concat_other entries hne]
    · have hnone : entries.filter (·.path == path) = [] := by
        rw [List.filter_eq_nil_iff]
        exact fun e he heq => hothers e he (beq_iff_eq.mp heq)
      rw [List.mem_singleton.mp hm, Entry.routesAt_concat_same, Entry.routesAt, hnone]
      rfl
  case paths =>
    intro p
    rw [List.map_append, List.mem_append, h.paths, List.map_append, List.mem_append]
    rfl
  case single =>
    refine List.pairwise_append.mpr ⟨h.single, List.pairwise_singleton _ _, ?_⟩
    intro e he e' he' heq
    rw [List.mem_singleton.mp he'] at heq
    exact absurd heq (hothers e he)

/-- A table has one more entry after a route is added. -/
theorem add {router router' : Router α} {entries : List (Entry α)} (h : router.Lists entries)
    {verb : Verb} {path : String} {route : α} (hclosed : IsClosed path)
    (hadd : router.add verb path route = .ok router') :
    router'.Lists (entries ++ [⟨verb, path, route⟩]) := by
  rcases add_inv hadd with ⟨m, hm, rfl, hserves, rfl⟩ | ⟨-, ps, hnew, rfl⟩
  · exact h.withRoute hm hserves route
  · obtain ⟨hpieces, hconflict⟩ := newPieces_inv hnew
    obtain rfl := RoutePath.pieces_closed hclosed hpieces
    refine h.withMount (fun m hm heq => ?_) verb route
    -- a mount of the same text would have the same pieces
    refine RoutePath.ne_of_conflict?_letter hconflict _ (List.mem_map_of_mem hm) ?_
    exact (h.pieces m hm).trans (congrArg letters heq)

/-! ## Looking up -/

/-- Only the mount for a text fits it. -/
theorem filter_fits {router : Router α} {entries : List (Entry α)} (h : router.Lists entries)
    (asked : String) : (router.mounts.filter fun m => RoutePath.fits m.pieces asked.toList)
      = router.mounts.filter fun m => plainText m.path == asked := by
  apply List.filter_congr
  intro m hm
  rw [h.pieces m hm, Bool.eq_iff_iff, RoutePath.fits_letters, beq_iff_eq]
  exact eq_comm

/-- Two entries for one path serve different verbs. -/
theorem unique {router : Router α} {entries : List (Entry α)} (h : router.Lists entries)
    {e e' : Entry α} (he : e ∈ entries) (he' : e' ∈ entries) (hne : e ≠ e')
    (hpath : e.path = e'.path) : e.verb ≠ e'.verb := by
  have hsymm : Std.Symm fun e e' : Entry α => e.path = e'.path → e.verb ≠ e'.verb :=
    ⟨fun _ _ hdiffer heq hverb => hdiffer heq.symm hverb.symm⟩
  exact h.single.forall he he' hne hpath

/-- Nothing is found for a text that no entry is for. -/
theorem lookup_missing {router : Router α} {entries : List (Entry α)} (h : router.Lists entries)
    {asked : String} (hnone : ∀ e ∈ entries, e.text ≠ asked) (method : String) :
    router.lookup method asked = .missing := by
  have hfilter : router.mounts.filter (fun m => plainText m.path == asked) = [] := by
    rw [List.filter_eq_nil_iff]
    intro m hm htext
    obtain ⟨e, he, heq⟩ := List.mem_map.mp ((h.paths m.path).mp (List.mem_map_of_mem hm))
    refine hnone e he ?_
    rw [Entry.text, heq]
    exact beq_iff_eq.mp htext
  rw [lookup, mount?, h.filter_fits, hfilter]
  rfl

/-- The mount for a text has the routes of the entries for it. -/
theorem exists_mount {router : Router α} {entries : List (Entry α)} (h : router.Lists entries)
    {e : Entry α} (he : e ∈ entries) : ∃ m, m.path = e.path ∧ router.mount? e.text = some m ∧
      m.routes = Entry.routesAt e.path entries := by
  obtain ⟨m, hm, heq⟩ := List.mem_map.mp ((h.paths e.path).mpr (List.mem_map_of_mem he))
  -- the texts of the mounts are distinct, so this mount is the only one that fits
  have hfilter : router.mounts.filter (fun m' => plainText m'.path == plainText m.path) = [m] :=
    filter_key h.distinct hm
  refine ⟨m, heq, ?_, heq ▸ h.routes m hm⟩
  rw [mount?, h.filter_fits, Entry.text, ← heq, hfilter]
  rfl

/-- A text that has entries, but none that serves the method. -/
theorem lookup_wrongMethod {router : Router α} {entries : List (Entry α)} (h : router.Lists entries)
    {e : Entry α} (he : e ∈ entries) {method : String}
    (hnone : ∀ e' ∈ entries, e'.text = e.text → method ∉ e'.verb.methods) :
    ∃ served, router.lookup method e.text = .wrongMethod served := by
  obtain ⟨m, hpath, hmount, hroutes⟩ := h.exists_mount he
  have hroute : m.route? method = none := by
    rw [Mount.route?, Option.map_eq_none_iff, List.find?_eq_none]
    intro r hr hserved
    rw [hroutes, Entry.mem_routesAt] at hr
    exact hnone _ hr rfl (List.contains_iff_mem.mp hserved)
  refine ⟨m.methods, ?_⟩
  rw [lookup, hmount]
  simp only [hroute]

/-- The route of an entry is found for its text and the methods that it serves. -/
theorem lookup_found {router : Router α} {entries : List (Entry α)} (h : router.Lists entries)
    {e : Entry α} (he : e ∈ entries) {method : String} (hmethod : method ∈ e.verb.methods) :
    router.lookup method e.text = .found e.route := by
  obtain ⟨m, hpath, hmount, hroutes⟩ := h.exists_mount he
  have hroute : m.route? method = some e.route := by
    have hfind : m.routes.find? (fun r => r.1.methods.contains method)
        = some (e.verb, e.route) := by
      cases hfirst : m.routes.find? (fun r => r.1.methods.contains method) with
      | none =>
          have hmem : (e.verb, e.route) ∈ m.routes := by
            rw [hroutes, Entry.mem_routesAt]
            exact he
          exact absurd (List.contains_iff_mem.mpr hmethod) (List.find?_eq_none.mp hfirst _ hmem)
      | some r =>
          have hserved : method ∈ r.1.methods := by simpa using List.find?_some hfirst
          have hr : ⟨r.1, e.path, r.2⟩ ∈ entries := by
            rw [← Entry.mem_routesAt, ← hroutes]
            exact List.mem_of_find?_eq_some hfirst
          -- a second entry of the path would serve another verb
          have heq : ⟨r.1, e.path, r.2⟩ = e := by
            by_contra hne
            exact h.unique hr he hne rfl (Verb.eq_of_mem_methods hserved hmethod)
          rw [← heq]
    rw [Mount.route?, hfind]
    rfl
  rw [lookup, hmount]
  simp only [hroute]

end Lists
end Router
end Webhook.Http
