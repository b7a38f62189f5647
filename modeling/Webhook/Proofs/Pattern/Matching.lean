import Mathlib.Data.List.Basic
import Webhook.Pattern.Compile

/-!
# Searching is matching

`Regex.search` reads a text once and keeps what may still follow, and `Regex.Matches` says which
stretches of a text an expression matches.  A search finds something exactly when some stretch is
matched (`Regex.search_iff`), provided that no repetition has to be made more often than it may
(`Regex.Counted`).  An expression between the start and the end of the text is found exactly when
it matches the whole text (`Regex.search_anchored`).

A repetition may begin with rounds that match the empty stretch.  `after` does not count those, so
the proofs go by the number of rounds (`Regex.Rounds`).
-/

namespace Webhook.Pattern.Regex

/-- So many rounds of an expression, one after the other. -/
inductive Rounds (a : Regex) : Nat → Option Char → List Char → Option Char → Prop where
  /-- No round at all. -/
  | zero {p q} : Rounds a 0 p [] q
  /-- One more round in front. -/
  | more {n p u v q} : Matches a p u (v.head?.or q) → Rounds a n (u.getLast?.or p) v q →
      Rounds a (n + 1) p (u ++ v) q

variable {a b r d : Regex} {p q before : Option Char} {c : Char} {u v w text : List Char}

/-! ## Stretches -/

theorem matches_empty : Matches .empty p w q ↔ w = [] := by
  constructor
  · rintro ⟨⟩
    rfl
  · rintro rfl
    exact .empty

theorem matches_chars {set : Text.Ranges} :
    Matches (.chars set) p w q ↔ ∃ c, w = [c] ∧ set.has c.toNat = true := by
  constructor
  · rintro ⟨⟩
    exact ⟨_, rfl, ‹_›⟩
  · rintro ⟨c, rfl, h⟩
    exact .chars h

theorem matches_look {l : Look} : Matches (.look l) p w q ↔ w = [] ∧ l.holds p q = true := by
  constructor
  · rintro ⟨⟩
    exact ⟨rfl, ‹_›⟩
  · rintro ⟨rfl, h⟩
    exact .look h

theorem matches_seq : Matches (.seq a b) p w q ↔
    ∃ u v, w = u ++ v ∧ Matches a p u (v.head?.or q) ∧ Matches b (u.getLast?.or p) v q := by
  constructor
  · rintro ⟨⟩
    exact ⟨_, _, rfl, ‹_›, ‹_›⟩
  · rintro ⟨u, v, rfl, ha, hb⟩
    exact .seq ha hb

theorem matches_seq_nil :
    Matches (.seq a b) p [] q ↔ Matches a p [] q ∧ Matches b p [] q := by
  rw [matches_seq]
  constructor
  · rintro ⟨u, v, huv, ha, hb⟩
    obtain ⟨rfl, rfl⟩ := List.append_eq_nil_iff.mp huv.symm
    exact ⟨ha, hb⟩
  · rintro ⟨ha, hb⟩
    exact ⟨[], [], rfl, ha, hb⟩

theorem matches_alt : Matches (.alt a b) p w q ↔ Matches a p w q ∨ Matches b p w q := by
  constructor
  · intro h
    cases h with
    | left h => exact .inl h
    | right h => exact .inr h
  · rintro (h | h)
    · exact .left h
    · exact .right h

theorem matches_follow : Matches (a.follow b) p w q ↔ Matches (.seq a b) p w q := by
  cases a with
  | empty =>
      simp only [follow, matches_seq, matches_empty]
      constructor
      · intro h
        exact ⟨[], w, rfl, rfl, h⟩
      · rintro ⟨u, v, rfl, rfl, h⟩
        exact h
  | _ => exact Iff.rfl

/-! ## Rounds -/

theorem rounds_of_matches {least : Nat} {greatest : Option Nat}
    (h : Matches (.rep a least greatest) p w q) :
    ∃ n, least ≤ n ∧ (∀ m ∈ greatest, n ≤ m) ∧ Rounds a n p w q := by
  generalize hr : Regex.rep a least greatest = r at h
  induction h generalizing least greatest with
  | done =>
      obtain ⟨rfl, rfl, rfl⟩ := Regex.rep.inj hr
      exact ⟨0, Nat.le_refl 0, fun m _ => Nat.zero_le m, .zero⟩
  | round hless ha _ _ ih =>
      obtain ⟨rfl, rfl, rfl⟩ := Regex.rep.inj hr
      match greatest, hless with
      | none, hless =>
          obtain ⟨n, hn, -, hrounds⟩ := ih (Option.some.inj hless)
          exact ⟨n + 1, by omega, nofun, .more ha hrounds⟩
      | some (g + 1), hless =>
          obtain ⟨n, hn, hg, hrounds⟩ := ih (Option.some.inj hless)
          refine ⟨n + 1, by omega, ?_, .more ha hrounds⟩
          rintro m ⟨⟩
          exact Nat.succ_le_succ (hg g rfl)
  | _ => cases hr

theorem matches_of_rounds {n : Nat} (h : Rounds a n p w q) :
    ∀ {least : Nat} {greatest : Option Nat}, least ≤ n → (∀ m ∈ greatest, n ≤ m) →
      Matches (.rep a least greatest) p w q := by
  induction h with
  | zero =>
      intro least greatest hleast _
      obtain rfl : least = 0 := Nat.le_zero.mp hleast
      exact .done
  | @more n p u v q ha _ ih =>
      intro least greatest hleast hgreatest
      match greatest, hgreatest with
      | none, _ => exact .round rfl ha (ih (by omega) nofun)
      | some 0, hgreatest => exact absurd (hgreatest 0 rfl) (Nat.not_succ_le_zero n)
      | some (g + 1), hgreatest =>
          refine .round rfl ha (ih (by omega) ?_)
          rintro m ⟨⟩
          exact Nat.le_of_succ_le_succ (hgreatest (g + 1) rfl)

/-- A repetition matches by any number of rounds from its least to its greatest. -/
theorem matches_rep {least : Nat} {greatest : Option Nat} :
    Matches (.rep a least greatest) p w q ↔
      ∃ n, least ≤ n ∧ (∀ m ∈ greatest, n ≤ m) ∧ Rounds a n p w q := by
  constructor
  · exact rounds_of_matches
  · rintro ⟨n, hleast, hgreatest, h⟩
    exact matches_of_rounds h hleast hgreatest

/-- Rounds that match nothing may be put in front. -/
theorem Rounds.pad {n : Nat} (h : Rounds a n p w q) (ha : Matches a p [] (w.head?.or q)) :
    ∀ k, Rounds a (n + k) p w q
  | 0 => h
  | k + 1 => .more ha (h.pad ha k)

/-- Rounds on the empty stretch: there are none, or each of them matches nothing. -/
theorem Rounds.of_nil {n : Nat} (h : Rounds a n p [] q) : n = 0 ∨ Matches a p [] q := by
  generalize hw : ([] : List Char) = w at h
  cases h with
  | zero => exact .inl rfl
  | more ha _ =>
      obtain ⟨rfl, rfl⟩ := List.append_eq_nil_iff.mp hw.symm
      exact .inr ha

/-- The first round that takes a character. -/
theorem Rounds.of_cons {n : Nat} (h : Rounds a n p (c :: w) q) :
    ∃ k m u v, n = k + m + 1 ∧ (k = 0 ∨ Matches a p [] (some c)) ∧ w = u ++ v ∧
      Matches a p (c :: u) (v.head?.or q) ∧ Rounds a m ((c :: u).getLast?.or p) v q := by
  generalize hw : c :: w = text at h
  induction h with
  | zero => cases hw
  | @more n p u v q ha hrest ih =>
      cases u with
      | nil =>
          obtain rfl : c :: w = v := hw
          obtain ⟨k, m, u, v, rfl, -, hcut, hfirst, hafter⟩ := ih rfl
          exact ⟨k + 1, m, u, v, by omega, .inr ha, hcut, hfirst, hafter⟩
      | cons e u =>
          obtain ⟨rfl, rfl⟩ := List.cons.inj hw
          exact ⟨0, n, u, v, by omega, .inl rfl, rfl, ha, hrest⟩

/-! ## Counts -/

/-- No repetition has to be made more often than it may. -/
def Counted : Regex → Prop
  | empty | chars _ | look _ => True
  | seq a b | alt a b => a.Counted ∧ b.Counted
  | rep a least greatest => a.Counted ∧ ∀ m ∈ greatest, least ≤ m

theorem Counted.follow (ha : a.Counted) (hb : b.Counted) : (a.follow b).Counted := by
  cases a with
  | empty => exact hb
  | _ => exact ⟨ha, hb⟩

/-- After a round a repetition may still be made as often as it has to be. -/
theorem Counted.oneLess {least left : Nat} {greatest : Option Nat} {rest : Regex}
    (h : (rep a least greatest).Counted) (hleft : left ≤ least - 1)
    (hrest : oneLess a left greatest = some rest) :
    ∃ g, rest = rep a left g ∧ rest.Counted ∧
      ∀ n, (∀ m ∈ greatest, n + 1 ≤ m) ↔ ∀ m ∈ g, n ≤ m := by
  match greatest, hrest with
  | none, hrest =>
      obtain rfl := Option.some.inj hrest
      exact ⟨none, rfl, ⟨h.1, nofun⟩, fun n => ⟨fun _ => nofun, fun _ => nofun⟩⟩
  | some (g + 1), hrest =>
      obtain rfl := Option.some.inj hrest
      have hcount : least ≤ g + 1 := h.2 (g + 1) rfl
      refine ⟨some g, rfl, ⟨h.1, ?_⟩, fun n => ?_⟩
      · rintro m ⟨⟩
        omega
      · simp

theorem Counted.after (h : r.Counted) (hd : d ∈ r.after before c) : d.Counted := by
  induction r generalizing d with
  | empty | look => cases hd
  | chars set =>
      simp only [Regex.after] at hd
      split at hd
      · obtain rfl := List.mem_singleton.mp hd
        trivial
      · cases hd
  | seq a b iha ihb =>
      simp only [Regex.after, List.mem_append, List.mem_map] at hd
      rcases hd with ⟨e, he, rfl⟩ | hb
      · exact (iha h.1 he).follow h.2
      · split at hb
        · exact ihb h.2 hb
        · cases hb
  | alt a b iha ihb =>
      rcases List.mem_append.mp hd with hd | hd
      · exact iha h.1 hd
      · exact ihb h.2 hd
  | rep a least greatest iha =>
      simp only [Regex.after] at hd
      split at hd
      · cases hd
      next rest hrest =>
        obtain ⟨e, he, rfl⟩ := List.mem_map.mp hd
        obtain ⟨g, -, hcounted, -⟩ := h.oneLess (by split <;> omega) hrest
        exact (iha h.1 he).follow hcounted

/-! ## One character -/

theorem nullable_iff (h : r.Counted) : r.nullable p q = true ↔ Matches r p [] q := by
  induction r with
  | empty => simp [nullable, matches_empty]
  | chars set => simp [nullable, matches_chars]
  | look l => simp [nullable, matches_look]
  | seq a b iha ihb => simp [nullable, matches_seq_nil, iha h.1, ihb h.2]
  | alt a b iha ihb => simp [nullable, matches_alt, iha h.1, ihb h.2]
  | rep a least greatest iha =>
      simp only [nullable, Bool.or_eq_true, beq_iff_eq, iha h.1, matches_rep]
      constructor
      · rintro (rfl | ha)
        · exact ⟨0, Nat.le_refl 0, fun m _ => Nat.zero_le m, .zero⟩
        · refine ⟨least, Nat.le_refl least, h.2, ?_⟩
          simpa using Rounds.zero.pad ha least
      · rintro ⟨n, hleast, -, hrounds⟩
        rcases hrounds.of_nil with rfl | ha
        · exact .inl (Nat.le_zero.mp hleast)
        · exact .inr ha

theorem getLast?_cons_or (c : Char) (u : List Char) (p : Option Char) :
    (c :: u).getLast?.or p = u.getLast?.or (some c) := by
  cases u with
  | nil => rfl
  | cons e u =>
      rw [List.getLast?_cons_cons, List.getLast?_cons]
      rfl

/-- A stretch that starts with a character is matched by two expressions one after the other: the
first one takes the character, or it matches nothing and the second one does. -/
theorem matches_seq_cons : Matches (.seq a b) p (c :: w) q ↔
    (∃ u v, w = u ++ v ∧ Matches a p (c :: u) (v.head?.or q) ∧
      Matches b (u.getLast?.or (some c)) v q) ∨
    (Matches a p [] (some c) ∧ Matches b p (c :: w) q) := by
  rw [matches_seq]
  constructor
  · rintro ⟨u, v, hw, ha, hb⟩
    cases u with
    | nil =>
        obtain rfl : c :: w = v := hw
        exact .inr ⟨ha, hb⟩
    | cons e u =>
        obtain ⟨rfl, rfl⟩ := List.cons.inj hw
        rw [getLast?_cons_or] at hb
        exact .inl ⟨u, v, rfl, ha, hb⟩
  · rintro (⟨u, v, rfl, ha, hb⟩ | ⟨ha, hb⟩)
    · rw [← getLast?_cons_or c u p] at hb
      exact ⟨c :: u, v, rfl, ha, hb⟩
    · exact ⟨[], c :: w, rfl, ha, hb⟩

/-- An expression matches a character and more exactly when something that may follow after the
character matches the rest. -/
def FollowedBy (r : Regex) (p : Option Char) (c : Char) : Prop :=
  ∀ {w q}, Matches r p (c :: w) q ↔ ∃ d ∈ r.after p c, Matches d (some c) w q

/-- What may follow after a character, where the expression for it is followed by another. -/
theorem exists_after_follow (ha : FollowedBy a p c) :
    (∃ d ∈ (a.after p c).map (·.follow b), Matches d (some c) w q) ↔
      ∃ u v, w = u ++ v ∧ Matches a p (c :: u) (v.head?.or q) ∧
        Matches b (u.getLast?.or (some c)) v q := by
  have hround : ∀ {w q}, Matches a p (c :: w) q ↔ ∃ d ∈ a.after p c, Matches d (some c) w q := ha
  simp only [List.mem_map, hround]
  constructor
  · rintro ⟨-, ⟨e, he, rfl⟩, hm⟩
    obtain ⟨u, v, rfl, hu, hv⟩ := matches_seq.mp (matches_follow.mp hm)
    exact ⟨u, v, rfl, ⟨e, he, hu⟩, hv⟩
  · rintro ⟨u, v, rfl, ⟨e, he, hu⟩, hv⟩
    exact ⟨_, ⟨e, he, rfl⟩, matches_follow.mpr (.seq hu hv)⟩

theorem followedBy_chars (set : Text.Ranges) : FollowedBy (.chars set) p c := by
  intro w q
  rw [matches_chars, Regex.after]
  by_cases hset : set.has c.toNat = true
  · rw [if_pos hset]
    constructor
    · rintro ⟨e, hw, -⟩
      obtain ⟨rfl, rfl⟩ := List.cons.inj hw
      exact ⟨.empty, List.mem_singleton_self _, .empty⟩
    · rintro ⟨d, hd, hm⟩
      obtain rfl := List.mem_singleton.mp hd
      obtain rfl := matches_empty.mp hm
      exact ⟨c, rfl, hset⟩
  · rw [if_neg hset]
    constructor
    · rintro ⟨e, hw, he⟩
      obtain ⟨rfl, rfl⟩ := List.cons.inj hw
      exact absurd he hset
    · rintro ⟨d, hd, -⟩
      cases hd

theorem FollowedBy.seq (ha : FollowedBy a p c) (hb : FollowedBy b p c) (h : a.Counted) :
    FollowedBy (.seq a b) p c := by
  intro w q
  simp only [matches_seq_cons, Regex.after, List.mem_append, or_and_right, exists_or,
    exists_after_follow ha]
  refine or_congr Iff.rfl ?_
  have hlast : Matches b p (c :: w) q ↔ ∃ d ∈ b.after p c, Matches d (some c) w q := hb
  rw [← nullable_iff h, hlast]
  split <;> simp [*]

/-- A repetition goes on after a character with the rest of the round that takes the character. -/
theorem FollowedBy.rep {least : Nat} {greatest : Option Nat} (ha : FollowedBy a p c)
    (h : (Regex.rep a least greatest).Counted) : FollowedBy (.rep a least greatest) p c := by
  intro w q
  rw [matches_rep, Regex.after]
  constructor
  · rintro ⟨n, hleast, hgreatest, hrounds⟩
    obtain ⟨k, m, u, v, rfl, hk, rfl, hu, hv⟩ := hrounds.of_cons
    rw [getLast?_cons_or] at hv
    split
    next hnone =>
      match greatest, hnone with
      | some 0, _ => exact absurd (hgreatest 0 rfl) (Nat.not_succ_le_zero _)
    next rest hrest =>
      obtain ⟨g, rfl, -, hg⟩ := h.oneLess (by split <;> omega) hrest
      rw [exists_after_follow ha]
      refine ⟨u, v, rfl, hu, matches_of_rounds hv ?_ ?_⟩
      · split
        · exact Nat.zero_le m
        next hnull =>
          rcases hk with rfl | hk
          · omega
          · exact absurd ((nullable_iff h.1).mpr hk) hnull
      · exact (hg m).mp fun g hg => Nat.le_trans (by omega) (hgreatest g hg)
  · intro hafter
    split at hafter
    · simp at hafter
    next rest hrest =>
      obtain ⟨g, rfl, -, hg⟩ := h.oneLess (by split <;> omega) hrest
      rw [exists_after_follow ha] at hafter
      obtain ⟨u, v, rfl, hu, hv⟩ := hafter
      obtain ⟨m, hleft, hm, hrounds⟩ := rounds_of_matches hv
      rw [← getLast?_cons_or c u p] at hrounds
      have hall : Rounds a (m + 1) p (c :: (u ++ v)) q := .more hu hrounds
      split at hleft
      next hnull =>
        -- rounds that match nothing make up for those that are missing
        have hempty : Matches a p [] (some c) := (nullable_iff h.1).mp hnull
        refine ⟨m + 1 + (least - (m + 1)), by omega, fun k hk => ?_, hall.pad hempty _⟩
        have := h.2 k hk
        have := (hg m).mpr hm k hk
        omega
      · exact ⟨m + 1, by omega, (hg m).mpr hm, hall⟩

theorem after_iff (h : r.Counted) : FollowedBy r p c := by
  induction r with
  | empty => simp [FollowedBy, Regex.after, matches_empty]
  | look l => simp [FollowedBy, Regex.after, matches_look]
  | chars set => exact followedBy_chars set
  | seq a b iha ihb => exact FollowedBy.seq (iha h.1) (ihb h.2) h.1
  | alt a b iha ihb =>
      intro w q
      simp only [matches_alt, iha h.1, ihb h.2, Regex.after, List.mem_append, or_and_right,
        exists_or]
  | rep a least greatest iha => exact FollowedBy.rep (iha h.1) h

/-! ## Searching -/

/-- An expression matches some stretch at the start of the rest of a text. -/
def MatchesPrefix (r : Regex) (before : Option Char) (text : List Char) : Prop :=
  ∃ v w, text = v ++ w ∧ Matches r before v w.head?

/-- An expression matches some stretch of the rest of a text. -/
def Occurs (r : Regex) (before : Option Char) (text : List Char) : Prop :=
  ∃ u v w, text = u ++ (v ++ w) ∧ Matches r (u.getLast?.or before) v w.head?

theorem matchesPrefix_nil (h : r.Counted) :
    MatchesPrefix r before [] ↔ r.nullable before none = true := by
  rw [nullable_iff h]
  constructor
  · rintro ⟨v, w, hvw, hm⟩
    obtain ⟨rfl, rfl⟩ := List.append_eq_nil_iff.mp hvw.symm
    exact hm
  · intro hm
    exact ⟨[], [], rfl, hm⟩

theorem matchesPrefix_cons (h : r.Counted) : MatchesPrefix r before (c :: text) ↔
    r.nullable before (some c) = true ∨ ∃ d ∈ r.after before c, MatchesPrefix d (some c) text := by
  rw [nullable_iff h]
  constructor
  · rintro ⟨v, w, hvw, hm⟩
    cases v with
    | nil =>
        obtain rfl : c :: text = w := hvw
        exact .inl hm
    | cons e v =>
        obtain ⟨rfl, rfl⟩ := List.cons.inj hvw
        obtain ⟨d, hd, hmd⟩ := (after_iff h).mp hm
        exact .inr ⟨d, hd, v, w, rfl, hmd⟩
  · rintro (hm | ⟨d, hd, v, w, rfl, hm⟩)
    · exact ⟨[], c :: text, rfl, hm⟩
    · exact ⟨c :: v, w, rfl, (after_iff h).mpr ⟨d, hd, hm⟩⟩

theorem occurs_nil : Occurs r before [] ↔ MatchesPrefix r before [] := by
  constructor
  · rintro ⟨u, v, w, huvw, hm⟩
    obtain ⟨rfl, hvw⟩ := List.append_eq_nil_iff.mp huvw.symm
    exact ⟨v, w, hvw.symm, hm⟩
  · rintro ⟨v, w, hvw, hm⟩
    exact ⟨[], v, w, hvw, hm⟩

theorem occurs_cons : Occurs r before (c :: text) ↔
    MatchesPrefix r before (c :: text) ∨ Occurs r (some c) text := by
  constructor
  · rintro ⟨u, v, w, huvw, hm⟩
    cases u with
    | nil => exact .inl ⟨v, w, huvw, hm⟩
    | cons e u =>
        obtain ⟨rfl, rfl⟩ := List.cons.inj huvw
        rw [getLast?_cons_or] at hm
        exact .inr ⟨u, v, w, rfl, hm⟩
  · rintro (⟨v, w, hvw, hm⟩ | ⟨u, v, w, rfl, hm⟩)
    · exact ⟨[], v, w, hvw, hm⟩
    · rw [← getLast?_cons_or c u before] at hm
      exact ⟨c :: u, v, w, rfl, hm⟩

/-- What is kept matches at the current place, or the expression matches from there on. -/
theorem searchFrom_iff (h : r.Counted) :
    ∀ {text : List Char} {before : Option Char} {pending : List Regex},
      (∀ d ∈ pending, d.Counted) → (searchFrom r before pending text = true ↔
        (∃ d ∈ pending, MatchesPrefix d before text) ∨ Occurs r before text)
  | [], before, pending, hpending => by
      have hnull : ∀ d ∈ pending, (MatchesPrefix d before [] ↔ d.nullable before none = true) :=
        fun d hd => matchesPrefix_nil (hpending d hd)
      rw [searchFrom, List.any_cons, Bool.or_eq_true, List.any_eq_true, occurs_nil,
        matchesPrefix_nil h, or_comm]
      exact or_congr (exists_congr fun d => and_congr_right fun hd => (hnull d hd).symm) Iff.rfl
  | c :: rest, before, pending, hpending => by
      have hall : ∀ d ∈ r :: pending, d.Counted := List.forall_mem_cons.mpr ⟨h, hpending⟩
      have hnext : ∀ d ∈ ((r :: pending).flatMap (Regex.after before c)).eraseDups,
          d.Counted := by
        intro d hd
        rw [List.mem_eraseDups] at hd
        obtain ⟨e, he, hd⟩ := List.mem_flatMap.mp hd
        exact (hall e he).after hd
      have hstep : (∃ d ∈ r :: pending, MatchesPrefix d before (c :: rest)) ↔
          (∃ d ∈ r :: pending, d.nullable before (some c) = true) ∨
            ∃ d ∈ ((r :: pending).flatMap (Regex.after before c)).eraseDups,
              MatchesPrefix d (some c) rest := by
        simp only [List.mem_eraseDups, List.mem_flatMap]
        constructor
        · rintro ⟨e, he, hm⟩
          rcases (matchesPrefix_cons (hall e he)).mp hm with hnull | ⟨d, hd, hm⟩
          · exact .inl ⟨e, he, hnull⟩
          · exact .inr ⟨d, ⟨e, he, hd⟩, hm⟩
        · rintro (⟨e, he, hnull⟩ | ⟨d, ⟨e, he, hd⟩, hm⟩)
          · exact ⟨e, he, (matchesPrefix_cons (hall e he)).mpr (.inl hnull)⟩
          · exact ⟨e, he, (matchesPrefix_cons (hall e he)).mpr (.inr ⟨d, hd, hm⟩)⟩
      rw [searchFrom, Bool.or_eq_true, searchFrom_iff h hnext, List.any_eq_true, occurs_cons,
        ← or_assoc, ← hstep, List.exists_mem_cons_iff]
      constructor
      · rintro ((hm | hm) | hm)
        · exact .inr (.inl hm)
        · exact .inl hm
        · exact .inr (.inr hm)
      · rintro (hm | hm | hm)
        · exact .inl (.inr hm)
        · exact .inl (.inl hm)
        · exact .inr hm

/-- A search finds something exactly when the expression matches some stretch of the text. -/
theorem search_iff (h : r.Counted) : r.search text = true ↔
    ∃ u v w, text = u ++ (v ++ w) ∧ Matches r u.getLast? v w.head? := by
  rw [search, searchFrom_iff h (List.forall_mem_nil _)]
  simp [Occurs]

/-! ## Between the start and the end of the text -/

/-- An expression after the start of the text and before its end. -/
def anchored (r : Regex) : Regex :=
  .seq (.look .textStart) (.seq r (.seq (.look .textEnd) .empty))

theorem Counted.anchored (h : r.Counted) : r.anchored.Counted := ⟨trivial, h, trivial, trivial⟩

theorem matches_anchored : Matches r.anchored p w q ↔ p = none ∧ q = none ∧ Matches r p w q := by
  simp only [anchored, matches_seq, matches_look, matches_empty, Look.holds]
  constructor
  · rintro ⟨u, v, rfl, ⟨rfl, hp⟩, u', v', rfl, hm, x, y, rfl, ⟨rfl, hq⟩, rfl⟩
    obtain rfl := Option.isNone_iff_eq_none.mp hp
    obtain rfl := Option.isNone_iff_eq_none.mp hq
    exact ⟨rfl, rfl, by simpa using hm⟩
  · rintro ⟨rfl, rfl, hm⟩
    exact ⟨[], w, rfl, ⟨rfl, rfl⟩, w, [], (List.append_nil w).symm, hm, [], [], rfl, ⟨rfl, rfl⟩, rfl⟩

/-- Between the start and the end of the text an expression is found exactly when it matches the
whole text. -/
theorem search_anchored (h : r.Counted) :
    r.anchored.search text = true ↔ Matches r none text none := by
  simp only [search_iff h.anchored, matches_anchored, List.getLast?_eq_none_iff,
    List.head?_eq_none_iff]
  constructor
  · rintro ⟨u, v, w, rfl, rfl, rfl, hm⟩
    simpa using hm
  · intro hm
    exact ⟨[], text, [], by simp, rfl, rfl, hm⟩

end Webhook.Pattern.Regex
