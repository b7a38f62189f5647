import Webhook.Proofs.Json.Tokens

/-!
# The document of a text is its raw JSON

The tree of a text is built by one pass over its tokens.  `Builder.Took` says which lexemes a pass
has taken so far: those of the values that are complete, and in front of them, for each list and
object that is still open, its opening mark and its items or members with a comma after each.  One
step takes one lexeme more (`Builder.Took.step`), so a pass that ends well has taken exactly the
lexemes of the tree it has built.

A pass that does not end well leaves a trace: the tree has a break where one who passes over it
notices it (`skipFault?`), or something follows the value.  So the documents without either are
those of the texts of the grammar, and of no others: `isText_of_document` and `IsText.document`.
-/

namespace Webhook.Json

/-! ## Lexemes of lists and objects -/

theorem itemLexemes_eq_map : ∀ ks : List Raw, itemLexemes ks = ks.map Raw.lexemes
  | [] => rfl
  | k :: ks => by rw [itemLexemes, itemLexemes_eq_map ks, List.map_cons]

theorem memberLexemes_eq_map :
    ∀ ks : List (Bytes × Raw), memberLexemes ks = ks.map lexemesOfMember
  | [] => rfl
  | k :: ks => by rw [memberLexemes, memberLexemes_eq_map ks, List.map_cons]

/-- The lexemes of some items or members of a list or object that goes on. -/
def continued (parts : List (List Lexeme)) : List Lexeme := parts.flatMap (· ++ [.comma])

@[simp] theorem continued_concat (parts : List (List Lexeme)) (ls : List Lexeme) :
    continued (parts ++ [ls]) = continued parts ++ ls ++ [.comma] := by
  simp [continued]

mutual

/-- No two scalars stand side by side in raw JSON, nor where something follows it that is none. -/
theorem Raw.apart_lexemes {ls : List Lexeme} (h : Apart true ls) :
    ∀ k : Raw, Apart false (k.lexemes ++ ls)
  | .word _ => ⟨by simp, h⟩
  | .number _ => ⟨by simp, h⟩
  | .string _ => ⟨by simp, h⟩
  | .list items => by
      rw [Raw.lexemes, List.cons_append, List.append_assoc]
      exact .mark rfl (apart_items (.mark rfl h.weaken) items)
  | .object members => by
      rw [Raw.lexemes, List.cons_append, List.append_assoc]
      exact .mark rfl (apart_members (.mark rfl h.weaken) members)

theorem apart_items {ls : List Lexeme} (h : Apart true ls) :
    ∀ ks : List Raw, Apart false (separated (itemLexemes ks) ++ ls)
  | [] => h.weaken
  | [k] => k.apart_lexemes h
  | k :: k' :: ks => by
      have htail := apart_items h (k' :: ks)
      rw [itemLexemes, itemLexemes, separated, List.append_assoc]
      · exact k.apart_lexemes (.mark rfl htail)
      · simp

theorem apart_members {ls : List Lexeme} (h : Apart true ls) :
    ∀ ks : List (Bytes × Raw), Apart false (separated (memberLexemes ks) ++ ls)
  | [] => h.weaken
  | [(_, k)] => ⟨by simp, .mark rfl (k.apart_lexemes h)⟩
  | (_, k) :: k' :: ks => by
      have htail := apart_members h (k' :: ks)
      rw [memberLexemes, memberLexemes, separated, List.append_assoc]
      · exact ⟨by simp, .mark rfl (k.apart_lexemes (.mark rfl htail))⟩
      · simp

end

/-! ## From a tree to its lexemes -/

/-- The lexemes that the lists and objects still open have taken, outermost first. -/
inductive Opened : List Frame → List Lexeme → Prop where
  /-- Nothing is open. -/
  | nil : Opened [] []
  /-- An open list, with a comma after each of its items. -/
  | list {start : Nat} {items : List Tree} {ks : List Raw} {stack : List Frame}
      {ls : List Lexeme} :
      ShowsItems items.reverse ks → Opened stack ls →
      Opened (.list start items :: stack) (ls ++ .openList :: continued (itemLexemes ks))
  /-- An open object, with a comma after each of its members, and a name and a colon. -/
  | object {start n e afterName : Nat} {raw : Bytes} {members : List Member}
      {ks : List (Bytes × Raw)} {stack : List Frame} {ls : List Lexeme} :
      ShowsMembers members.reverse ks → Opened stack ls →
      Opened (.object start members (.scalar n (.string raw (.closed e))) afterName :: stack)
        (ls ++ .openObject :: (continued (memberLexemes ks) ++ [.string raw, .colon]))

/-- The lexemes that a pass has taken. -/
inductive Builder.Took : Builder → List Lexeme → Prop where
  /-- A value is due. -/
  | atValue {due : Due} {stack : List Frame} {ls : List Lexeme} :
      Opened stack ls →
      (due = .firstItem → ∃ start stack', stack = .list start [] :: stack') →
      Took (.atValue due stack) ls
  /-- A name is due. -/
  | atName {due : Due} {start : Nat} {members : List Member} {ks : List (Bytes × Raw)}
      {stack : List Frame} {ls : List Lexeme} :
      ShowsMembers members.reverse ks → Opened stack ls → (due = .firstName → members = []) →
      Took (.atName due start members stack)
        (ls ++ .openObject :: continued (memberLexemes ks))
  /-- A colon is due. -/
  | atColon {start n e : Nat} {raw : Bytes} {members : List Member} {ks : List (Bytes × Raw)}
      {stack : List Frame} {ls : List Lexeme} :
      ShowsMembers members.reverse ks → Opened stack ls →
      Took (.atColon start members (.scalar n (.string raw (.closed e))) stack)
        (ls ++ .openObject :: (continued (memberLexemes ks) ++ [.string raw]))
  /-- A value is complete. -/
  | afterValue {value : Tree} {k : Raw} {stack : List Frame} {ls : List Lexeme} :
      Shows value k → Opened stack ls → Took (.afterValue value stack) (ls ++ k.lexemes)

/-- The lexemes of a list after its last item. -/
theorem lexemes_list_concat (ks : List Raw) (k : Raw) :
    (Raw.list (ks ++ [k])).lexemes
      = .openList :: (continued (itemLexemes ks) ++ k.lexemes ++ [.closeList]) := by
  rw [Raw.lexemes, itemLexemes_eq_map, List.map_append, List.map_singleton, separated_concat,
    ← itemLexemes_eq_map, continued]

/-- The lexemes of an object after the value of its last member. -/
theorem lexemes_object_concat (ks : List (Bytes × Raw)) (raw : Bytes) (k : Raw) :
    (Raw.object (ks ++ [(raw, k)])).lexemes
      = .openObject :: (continued (memberLexemes ks) ++ [.string raw, .colon] ++ k.lexemes
        ++ [.closeObject]) := by
  rw [Raw.lexemes, memberLexemes_eq_map, List.map_append, List.map_singleton, separated_concat,
    ← memberLexemes_eq_map, lexemesOfMember, continued]
  simp

/-- A step where a value is due. -/
theorem Opened.step_value {due : Due} {stack : List Frame} {ls : List Lexeme} {t : Token}
    {q : Builder} (h : Opened stack ls)
    (hfirst : due = .firstItem → ∃ start stack', stack = .list start [] :: stack')
    (hstep : (Builder.atValue due stack).step? t = some q) :
    ∃ l, t.lexeme? = some l ∧ q.Took (ls ++ [l]) := by
  cases t with
  | scalar start s =>
      rw [Builder.step?] at hstep
      split at hstep
      next hintact =>
        obtain rfl := Option.some.inj hstep
        match s, hintact with
        | .word w, _ => exact ⟨.word w, rfl, .afterValue .word h⟩
        | .number digits, _ => exact ⟨.number digits, rfl, .afterValue .number h⟩
        | .string raw (.closed stop), _ => exact ⟨.string raw, rfl, .afterValue .string h⟩
      next => cases hstep
  | openList start =>
      obtain rfl := Option.some.inj hstep
      have hnil : ShowsItems ([] : List Tree).reverse [] := .nil
      exact ⟨.openList, rfl, .atValue (.list hnil h) fun _ => ⟨_, _, rfl⟩⟩
  | openObject start =>
      obtain rfl := Option.some.inj hstep
      have hnil : ShowsMembers ([] : List Member).reverse [] := .nil
      exact ⟨.openObject, rfl, .atName hnil h fun _ => rfl⟩
  | closeList stop =>
      unfold Builder.step? at hstep
      simp only at hstep
      split at hstep
      next start items stack' =>
        obtain rfl := Option.some.inj hstep
        -- a list that ends where its first item is due has none
        obtain ⟨start', stack'', heq⟩ := hfirst rfl
        obtain ⟨hframe, rfl⟩ := List.cons.inj heq
        obtain ⟨rfl, rfl⟩ := Frame.list.inj hframe
        cases h with
        | list hitems hopened =>
            cases hitems
            refine ⟨.closeList, rfl, ?_⟩
            have hk := Builder.Took.afterValue (.list .nil : Shows
              (.list start [] (.closed (stop + 1))) (.list [])) hopened
            simpa [Raw.lexemes, itemLexemes, separated, continued] using hk
      next => cases hstep
  | closeObject stop => cases hstep
  | comma start => cases hstep
  | colon start => cases hstep
  | stray start => cases hstep
  | finish start => cases hstep

/-- A step where a name is due. -/
theorem Opened.step_name {due : Due} {start : Nat} {members : List Member}
    {ks : List (Bytes × Raw)} {stack : List Frame} {ls : List Lexeme} {t : Token} {q : Builder}
    (h : Opened stack ls) (hmembers : ShowsMembers members.reverse ks)
    (hfirst : due = .firstName → members = [])
    (hstep : (Builder.atName due start members stack).step? t = some q) :
    ∃ l, t.lexeme? = some l ∧
      q.Took (ls ++ .openObject :: continued (memberLexemes ks) ++ [l]) := by
  cases t with
  | scalar at' s =>
      match s with
      | .string raw (.closed stop) =>
          obtain rfl := Option.some.inj hstep
          refine ⟨.string raw, rfl, ?_⟩
          have hcolon : (Builder.atColon start members
              (.scalar at' (.string raw (.closed stop))) stack).Took _ :=
            .atColon hmembers h
          simpa using hcolon
      | .string raw (.cut _ _) => cases hstep
      | .word _ => cases hstep
      | .cutWord _ _ => cases hstep
      | .number _ => cases hstep
      | .cutNumber _ _ => cases hstep
  | closeObject stop =>
      rw [Builder.step?] at hstep
      split at hstep
      next hdue =>
        obtain rfl := Option.some.inj hstep
        obtain rfl := hfirst hdue
        cases hmembers
        refine ⟨.closeObject, rfl, ?_⟩
        have hk := Builder.Took.afterValue (.object .nil : Shows
          (.object start [] (.closed (stop + 1))) (.object [])) h
        simpa [Raw.lexemes, memberLexemes, separated, continued] using hk
      next => cases hstep
  | openList start => cases hstep
  | openObject start => cases hstep
  | closeList stop => cases hstep
  | comma start => cases hstep
  | colon start => cases hstep
  | stray start => cases hstep
  | finish start => cases hstep

/-- A step where a colon is due. -/
theorem Opened.step_colon {start n e : Nat} {raw : Bytes} {members : List Member}
    {ks : List (Bytes × Raw)} {stack : List Frame} {ls : List Lexeme} {t : Token} {q : Builder}
    (h : Opened stack ls) (hmembers : ShowsMembers members.reverse ks)
    (hstep : (Builder.atColon start members (.scalar n (.string raw (.closed e))) stack).step? t
      = some q) :
    ∃ l, t.lexeme? = some l ∧
      q.Took (ls ++ .openObject :: (continued (memberLexemes ks) ++ [.string raw]) ++ [l]) := by
  cases t with
  | colon at' =>
      obtain rfl := Option.some.inj hstep
      refine ⟨.colon, rfl, ?_⟩
      have hvalue : (Builder.atValue .value
          (.object start members (.scalar n (.string raw (.closed e))) at' :: stack)).Took _ :=
        .atValue (.object hmembers h) (by simp)
      simpa using hvalue
  | scalar at' s => cases hstep
  | openList start => cases hstep
  | openObject start => cases hstep
  | closeList stop => cases hstep
  | closeObject stop => cases hstep
  | comma start => cases hstep
  | stray start => cases hstep
  | finish start => cases hstep

/-- A step after an item of a list. -/
theorem Opened.step_item {start : Nat} {items : List Tree} {value : Tree} {ks : List Raw} {k : Raw}
    {stack : List Frame} {ls : List Lexeme} {t : Token} {q : Builder} (h : Opened stack ls)
    (hitems : ShowsItems items.reverse ks) (hvalue : Shows value k)
    (hstep : (Builder.afterValue value (.list start items :: stack)).step? t = some q) :
    ∃ l, t.lexeme? = some l ∧
      q.Took (ls ++ .openList :: continued (itemLexemes ks) ++ k.lexemes ++ [l]) := by
  have hconcat : ShowsItems (value :: items).reverse (ks ++ [k]) := by
    rw [List.reverse_cons]
    exact hitems.concat hvalue
  cases t with
  | comma at' =>
      obtain rfl := Option.some.inj hstep
      refine ⟨.comma, rfl, ?_⟩
      have hnext : (Builder.atValue .nextItem (.list start (value :: items) :: stack)).Took _ :=
        .atValue (.list hconcat h) (by simp)
      rw [itemLexemes_eq_map, List.map_append, List.map_singleton, continued_concat,
        ← itemLexemes_eq_map] at hnext
      simpa using hnext
  | closeList stop =>
      obtain rfl := Option.some.inj hstep
      refine ⟨.closeList, rfl, ?_⟩
      have hk := Builder.Took.afterValue (.list hconcat : Shows
        (.list start (value :: items).reverse (.closed (stop + 1))) _) h
      rw [lexemes_list_concat] at hk
      simpa using hk
  | scalar at' s => cases hstep
  | openList start => cases hstep
  | openObject start => cases hstep
  | closeObject stop => cases hstep
  | colon at' => cases hstep
  | stray start => cases hstep
  | finish start => cases hstep

/-- A step after the value of a member of an object. -/
theorem Opened.step_member {start n e afterName : Nat} {raw : Bytes} {members : List Member}
    {value : Tree} {ks : List (Bytes × Raw)} {k : Raw} {stack : List Frame} {ls : List Lexeme}
    {t : Token} {q : Builder} (h : Opened stack ls) (hmembers : ShowsMembers members.reverse ks)
    (hvalue : Shows value k)
    (hstep : (Builder.afterValue value
      (.object start members (.scalar n (.string raw (.closed e))) afterName :: stack)).step? t
        = some q) :
    ∃ l, t.lexeme? = some l ∧
      q.Took (ls ++ .openObject :: (continued (memberLexemes ks) ++ [.string raw, .colon])
        ++ k.lexemes ++ [l]) := by
  have hconcat : ∀ stop, ShowsMembers
      ((⟨.scalar n (.string raw (.closed e)), afterName, value, stop⟩ : Member)
        :: members).reverse (ks ++ [(raw, k)]) := by
    intro stop
    rw [List.reverse_cons]
    exact hmembers.concat hvalue
  cases t with
  | comma at' =>
      obtain rfl := Option.some.inj hstep
      refine ⟨.comma, rfl, ?_⟩
      have hnext : (Builder.atName .nextName start (_ :: members) stack).Took _ :=
        .atName (hconcat at') h (by simp)
      rw [memberLexemes_eq_map, List.map_append, List.map_singleton, continued_concat,
        ← memberLexemes_eq_map, lexemesOfMember] at hnext
      simpa using hnext
  | closeObject stop =>
      obtain rfl := Option.some.inj hstep
      refine ⟨.closeObject, rfl, ?_⟩
      have hk := Builder.Took.afterValue (.object (hconcat stop) : Shows
        (.object start _ (.closed (stop + 1))) _) h
      rw [lexemes_object_concat] at hk
      simpa using hk
  | scalar at' s => cases hstep
  | openList start => cases hstep
  | openObject start => cases hstep
  | closeList stop => cases hstep
  | colon at' => cases hstep
  | stray start => cases hstep
  | finish start => cases hstep

/-- One step takes one lexeme more. -/
theorem Builder.Took.step {p q : Builder} {t : Token} {ls : List Lexeme} (h : p.Took ls)
    (hstep : p.step? t = some q) : ∃ l, t.lexeme? = some l ∧ q.Took (ls ++ [l]) := by
  cases h with
  | atValue hopened hfirst => exact hopened.step_value hfirst hstep
  | atName hmembers hopened hfirst => exact hopened.step_name hmembers hfirst hstep
  | atColon hmembers hopened => exact hopened.step_colon hmembers hstep
  | afterValue hvalue hopened =>
      cases hopened with
      | nil => cases hstep
      | list hitems hopened => exact hopened.step_item hitems hvalue hstep
      | object hmembers hopened => exact hopened.step_member hmembers hvalue hstep

/-! ## Breaks leave a trace -/

/-- A list or object that is still open when the text breaks is noticed. -/
theorem skipFault?_unwind {b : Break} :
    ∀ {stack : List Frame} {t : Tree}, t.skipFault? ≠ none → (unwind b t stack).skipFault? ≠ none
  | [], _, h => h
  | .list _ _ :: _, _, _ => by
      rw [unwind]
      exact skipFault?_unwind (by simp [Tree.skipFault?])
  | .object _ _ _ _ :: _, _, _ => by
      rw [unwind]
      exact skipFault?_unwind (by simp [Tree.skipFault?])

/-- So is a token where something else is due, unless a whole value has been read. -/
theorem Builder.skipFault?_broken {p : Builder} (b : Break) (t : Token)
    (hp : ∀ value, p ≠ .afterValue value []) : (p.broken b t).skipFault? ≠ none := by
  cases p with
  | atValue due stack => exact skipFault?_unwind (by simp [Tree.skipFault?])
  | atName due start members stack => exact skipFault?_unwind (by simp [Tree.skipFault?])
  | atColon start members name stack => exact skipFault?_unwind (by simp [Tree.skipFault?])
  | afterValue value stack =>
      match stack with
      | [] => exact absurd rfl (hp value)
      | .list start items :: stack => exact skipFault?_unwind (by simp [Tree.skipFault?])
      | .object start members name afterName :: stack =>
          exact skipFault?_unwind (by simp [Tree.skipFault?])

theorem Builder.skipFault?_of_broken {p : Builder} {x : Document} {b : Break} {t : Token}
    (hp : ∀ value, p ≠ .afterValue value []) (h : x = ⟨p.broken b t, none⟩) :
    x.root.skipFault? ≠ none := by
  rw [h]
  exact skipFault?_broken b t hp

/-- A pass that cannot go on leaves a break that is noticed, unless a whole value has been read. -/
theorem Builder.skipFault?_breakAt {p : Builder} (t : Token) (following : List Token)
    (hp : ∀ value, p ≠ .afterValue value []) :
    (p.breakAt t following).root.skipFault? ≠ none := by
  cases p with
  | afterValue value stack =>
      cases stack with
      | nil => exact absurd rfl (hp value)
      | cons frame stack => exact skipFault?_of_broken hp rfl
  | atColon start members name stack => exact skipFault?_of_broken hp rfl
  | atValue due stack =>
      cases t with
      | scalar start s =>
          simp only [breakAt]
          split
          next fault hfault => exact skipFault?_unwind (by simp [Tree.skipFault?, hfault])
          next => exact skipFault?_of_broken hp rfl
      | openList _ => exact skipFault?_of_broken hp rfl
      | openObject _ => exact skipFault?_of_broken hp rfl
      | closeList _ => exact skipFault?_of_broken hp rfl
      | closeObject _ => exact skipFault?_of_broken hp rfl
      | comma _ => exact skipFault?_of_broken hp rfl
      | colon _ => exact skipFault?_of_broken hp rfl
      | stray _ => exact skipFault?_of_broken hp rfl
      | finish _ => exact skipFault?_of_broken hp rfl
  | atName due start members stack =>
      cases t with
      | scalar at' s =>
          match s with
          | .string raw (.cut slip offset) => exact skipFault?_unwind (by simp [Tree.skipFault?])
          | .string raw (.closed stop) => exact skipFault?_of_broken hp rfl
          | .word _ => exact skipFault?_of_broken hp rfl
          | .cutWord _ _ => exact skipFault?_of_broken hp rfl
          | .number _ => exact skipFault?_of_broken hp rfl
          | .cutNumber _ _ => exact skipFault?_of_broken hp rfl
      | openList _ => exact skipFault?_of_broken hp rfl
      | openObject _ => exact skipFault?_of_broken hp rfl
      | closeList _ => exact skipFault?_of_broken hp rfl
      | closeObject _ => exact skipFault?_of_broken hp rfl
      | comma _ => exact skipFault?_of_broken hp rfl
      | colon _ => exact skipFault?_of_broken hp rfl
      | stray _ => exact skipFault?_of_broken hp rfl
      | finish _ => exact skipFault?_of_broken hp rfl

/-- A pass that cannot go on has read a whole value up to the end of the text, or its document has
a break in it or something after it. -/
theorem Builder.breakAt_eq {p : Builder} {t : Token} {following : List Token} {root : Tree}
    (h : p.breakAt t following = ⟨root, none⟩) (hroot : root.skipFault? = none) :
    p = .afterValue root [] ∧ ∃ n, t = .finish n := by
  by_cases hp : ∃ value, p = .afterValue value []
  · obtain ⟨value, rfl⟩ := hp
    cases t with
    | finish n =>
        obtain ⟨rfl, -⟩ := Document.mk.inj h
        exact ⟨rfl, n, rfl⟩
    | openList _ => cases (Document.mk.inj h).2
    | openObject _ => cases (Document.mk.inj h).2
    | closeList _ => cases (Document.mk.inj h).2
    | closeObject _ => cases (Document.mk.inj h).2
    | comma _ => cases (Document.mk.inj h).2
    | colon _ => cases (Document.mk.inj h).2
    | scalar _ _ => cases (Document.mk.inj h).2
    | stray _ => cases (Document.mk.inj h).2
  · have hbreak := skipFault?_breakAt t following fun value heq => hp ⟨value, heq⟩
    rw [h] at hbreak
    exact absurd hroot hbreak

/-- A pass that ends well has taken the lexemes of the tree it has built. -/
theorem Builder.Took.run {root : Tree} (hroot : root.skipFault? = none) :
    ∀ {front : List Token} {last : Token} {p : Builder} {ls : List Lexeme}, p.Took ls →
      last.lexeme? = none → (∀ t ∈ front, ∀ n, t ≠ .finish n) →
      p.run (front ++ [last]) = ⟨root, none⟩ →
      ∃ n ls' k, last = .finish n ∧ Spells front ls' ∧ Shows root k ∧ k.lexemes = ls ++ ls'
  | [], last, p, ls, h, hlast, _, hrun => by
      rw [List.nil_append, Builder.run] at hrun
      cases hstep : p.step? last with
      | some q =>
          obtain ⟨l, hl, -⟩ := h.step hstep
          rw [hl] at hlast
          cases hlast
      | none =>
          simp only [hstep] at hrun
          obtain ⟨rfl, n, rfl⟩ := Builder.breakAt_eq hrun hroot
          cases h with
          | @afterValue _ k _ _ hvalue hopened =>
              cases hopened
              exact ⟨n, [], k, rfl, .nil, hvalue, by simp⟩
  | t :: front, last, p, ls, h, hlast, hfront, hrun => by
      rw [List.cons_append, Builder.run] at hrun
      cases hstep : p.step? t with
      | some q =>
          simp only [hstep] at hrun
          obtain ⟨l, hl, hq⟩ := h.step hstep
          obtain ⟨n, ls', k, rfl, hs, hk, hlexemes⟩ :=
            hq.run hroot hlast (fun t' ht' => hfront t' (.tail _ ht')) hrun
          exact ⟨n, l :: ls', k, rfl, .cons hl hs, hk, by simp [hlexemes]⟩
      | none =>
          simp only [hstep] at hrun
          obtain ⟨-, n, rfl⟩ := Builder.breakAt_eq hrun hroot
          exact absurd rfl (hfront _ (.head _) n)

/-- The document of a text without a break is the tree of its raw JSON. -/
theorem isText_of_document {text : Bytes} {t : Tree} (h : document text = ⟨t, none⟩)
    (ht : t.skipFault? = none) : ∃ k, Shows t k ∧ IsText k text := by
  obtain ⟨front, last, htokens, hlast, hfront⟩ := tokensAt_last text 0 .between
  have htext : tokens text = front ++ [last] := htokens
  have htook : (Builder.atValue .value []).Took [] := .atValue .nil (by simp)
  rw [document, htext] at h
  obtain ⟨n, ls, k, rfl, hs, hk, hlexemes⟩ := htook.run ht hlast hfront h
  refine ⟨k, hk, ?_⟩
  rw [IsText, hlexemes]
  exact spaced_of_tokens htext hs

/-! ## From lexemes to a tree -/

/-- A token and its lexeme, one case for each kind. -/
inductive Token.Carries : Token → Lexeme → Prop where
  | openList {n : Nat} : Carries (.openList n) .openList
  | closeList {n : Nat} : Carries (.closeList n) .closeList
  | openObject {n : Nat} : Carries (.openObject n) .openObject
  | closeObject {n : Nat} : Carries (.closeObject n) .closeObject
  | comma {n : Nat} : Carries (.comma n) .comma
  | colon {n : Nat} : Carries (.colon n) .colon
  | word {n : Nat} {w : Word} : Carries (.scalar n (.word w)) (.word w)
  | number {n : Nat} {ds : Bytes} : Carries (.scalar n (.number ds)) (.number ds)
  | string {n e : Nat} {raw : Bytes} :
      Carries (.scalar n (.string raw (.closed e))) (.string raw)

theorem Token.carries_of_lexeme? {t : Token} {l : Lexeme} (h : t.lexeme? = some l) :
    t.Carries l := by
  unfold lexeme? at h
  split at h
  · cases h; exact .openList
  · cases h; exact .closeList
  · cases h; exact .openObject
  · cases h; exact .closeObject
  · cases h; exact .comma
  · cases h; exact .colon
  · cases h; exact .word
  · cases h; exact .number
  · cases h; exact .string
  · cases h

theorem Builder.run_step {p q : Builder} {t : Token} {rest : List Token}
    (h : p.step? t = some q) : p.run (t :: rest) = q.run rest := by
  rw [run]
  simp only [h]

mutual

/-- A pass at which a value is due takes the lexemes of one and has its tree. -/
theorem run_value : ∀ (k : Raw) {ts : List Token}, Spells ts k.lexemes →
    ∀ (due : Due) (stack : List Frame) (rest : List Token), ∃ t, Shows t k ∧
      (Builder.atValue due stack).run (ts ++ rest) = (Builder.afterValue t stack).run rest
  | .word w, _, .cons ht .nil, due, stack, rest => by
      cases Token.carries_of_lexeme? ht
      exact ⟨_, .word, Builder.run_step rfl⟩
  | .number digits, _, .cons ht .nil, due, stack, rest => by
      cases Token.carries_of_lexeme? ht
      exact ⟨_, .number, Builder.run_step rfl⟩
  | .string raw, _, .cons ht .nil, due, stack, rest => by
      cases Token.carries_of_lexeme? ht
      exact ⟨_, .string, Builder.run_step rfl⟩
  | .list items, _, .cons ht hs, due, stack, rest => by
      cases Token.carries_of_lexeme? ht
      obtain ⟨trees, stop, htrees, hrun⟩ := run_items items hs .firstItem _ [] stack rest (by simp)
      exact ⟨_, .list htrees, (Builder.run_step rfl).trans hrun⟩
  | .object members, _, .cons ht hs, due, stack, rest => by
      cases Token.carries_of_lexeme? ht
      obtain ⟨ms, stop, hms, hrun⟩ := run_members members hs .firstName _ [] stack rest (by simp)
      exact ⟨_, .object hms, (Builder.run_step rfl).trans hrun⟩

/-- A pass in a list takes the items that are left, and the end of the list. -/
theorem run_items : ∀ (ks : List Raw) {ts : List Token},
    Spells ts (separated (itemLexemes ks) ++ [.closeList]) →
    ∀ (due : Due) (start : Nat) (done : List Tree) (stack : List Frame) (rest : List Token),
      (ks = [] → due = .firstItem) → ∃ trees stop, ShowsItems trees ks ∧
        (Builder.atValue due (.list start done :: stack)).run (ts ++ rest)
          = (Builder.afterValue (.list start (done.reverse ++ trees) (.closed stop)) stack).run rest
  | [], _, .cons ht .nil, due, start, done, stack, rest, hdue => by
      obtain rfl := hdue rfl
      cases Token.carries_of_lexeme? ht with
      | @closeList n =>
          refine ⟨[], n + 1, .nil, ?_⟩
          rw [List.append_nil]
          exact Builder.run_step rfl
  | [k], _, hs, due, start, done, stack, rest, _ => by
      obtain ⟨ts₁, ts₂, rfl, h₁, h₂⟩ := Spells.split_lexemes hs
      obtain ⟨t, ht, hrun⟩ := run_value k h₁ due (.list start done :: stack) (ts₂ ++ rest)
      cases h₂ with
      | cons hclose hnil =>
          cases hnil
          cases Token.carries_of_lexeme? hclose with
          | @closeList n =>
              refine ⟨[t], n + 1, .cons ht .nil, ?_⟩
              rw [List.append_assoc, hrun, ← List.reverse_cons]
              exact Builder.run_step rfl
  | k :: k' :: ks, _, hs, due, start, done, stack, rest, _ => by
      have hlexemes : separated (itemLexemes (k :: k' :: ks)) ++ [.closeList]
          = k.lexemes ++ .comma :: (separated (itemLexemes (k' :: ks)) ++ [.closeList]) := by
        simp [itemLexemes, separated]
      rw [hlexemes] at hs
      obtain ⟨ts₁, ts₂, rfl, h₁, h₂⟩ := Spells.split_lexemes hs
      cases h₂ with
      | @cons _ _ ts₂ _ hcomma h₂ =>
          cases Token.carries_of_lexeme? hcomma
          obtain ⟨t, ht, hrun⟩ := run_value k h₁ due (.list start done :: stack) (_ :: ts₂ ++ rest)
          obtain ⟨trees, stop, htrees, htail⟩ :=
            run_items (k' :: ks) h₂ .nextItem start (t :: done) stack rest (by simp)
          refine ⟨t :: trees, stop, .cons ht htrees, ?_⟩
          rw [List.append_assoc, hrun]
          refine (Builder.run_step rfl).trans (htail.trans ?_)
          simp

/-- A pass in an object takes the members that are left, and the end of the object. -/
theorem run_members : ∀ (ks : List (Bytes × Raw)) {ts : List Token},
    Spells ts (separated (memberLexemes ks) ++ [.closeObject]) →
    ∀ (due : Due) (start : Nat) (done : List Member) (stack : List Frame) (rest : List Token),
      (ks = [] → due = .firstName) → ∃ ms stop, ShowsMembers ms ks ∧
        (Builder.atName due start done stack).run (ts ++ rest)
          = (Builder.afterValue (.object start (done.reverse ++ ms) (.closed stop)) stack).run rest
  | [], _, .cons ht .nil, due, start, done, stack, rest, hdue => by
      obtain rfl := hdue rfl
      cases Token.carries_of_lexeme? ht with
      | @closeObject n =>
          refine ⟨[], n + 1, .nil, ?_⟩
          rw [List.append_nil]
          exact Builder.run_step rfl
  | [m], _, hs, due, start, done, stack, rest, _ => by
      obtain ⟨ts₁, ts₂, rfl, h₁, h₂⟩ := Spells.split_lexemes hs
      obtain ⟨n, e, afterName, t, ht, hrun⟩ := run_member m h₁ due start done stack (ts₂ ++ rest)
      cases h₂ with
      | cons hclose hnil =>
          cases hnil
          cases Token.carries_of_lexeme? hclose with
          | @closeObject stop =>
              refine ⟨[⟨.scalar n (.string m.1 (.closed e)), afterName, t, stop⟩], stop + 1,
                .cons ht .nil, ?_⟩
              rw [List.append_assoc, hrun, ← List.reverse_cons]
              exact Builder.run_step rfl
  | m :: m' :: ks, _, hs, due, start, done, stack, rest, _ => by
      have hlexemes : separated (memberLexemes (m :: m' :: ks)) ++ [.closeObject]
          = lexemesOfMember m
            ++ .comma :: (separated (memberLexemes (m' :: ks)) ++ [.closeObject]) := by
        simp [memberLexemes, separated]
      rw [hlexemes] at hs
      obtain ⟨ts₁, ts₂, rfl, h₁, h₂⟩ := Spells.split_lexemes hs
      cases h₂ with
      | @cons _ _ ts₂ _ hcomma h₂ =>
          cases Token.carries_of_lexeme? hcomma with
          | @comma at' =>
              obtain ⟨n, e, afterName, t, ht, hrun⟩ :=
                run_member m h₁ due start done stack (.comma at' :: ts₂ ++ rest)
              let member : Member := ⟨.scalar n (.string m.1 (.closed e)), afterName, t, at'⟩
              obtain ⟨ms, stop, hms, htail⟩ :=
                run_members (m' :: ks) h₂ .nextName start (member :: done) stack rest (by simp)
              refine ⟨member :: ms, stop, .cons ht hms, ?_⟩
              rw [List.append_assoc, hrun]
              refine (Builder.run_step rfl).trans (htail.trans ?_)
              simp

/-- A pass at which a name is due takes a member, up to its value. -/
theorem run_member : ∀ (m : Bytes × Raw) {ts : List Token}, Spells ts (lexemesOfMember m) →
    ∀ (due : Due) (start : Nat) (done : List Member) (stack : List Frame) (rest : List Token),
      ∃ n e afterName t, Shows t m.2 ∧
        (Builder.atName due start done stack).run (ts ++ rest)
          = (Builder.afterValue t
            (.object start done (.scalar n (.string m.1 (.closed e))) afterName :: stack)).run rest
  | (raw, k), _, .cons hname (.cons hcolon hs), due, start, done, stack, rest => by
      cases Token.carries_of_lexeme? hname with
      | @string n e =>
      cases Token.carries_of_lexeme? hcolon with
      | @colon afterName =>
          obtain ⟨t, ht, hrun⟩ := run_value k hs .value
            (.object start done (.scalar n (.string raw (.closed e))) afterName :: stack) rest
          exact ⟨n, e, afterName, t, ht,
            (Builder.run_step rfl).trans ((Builder.run_step rfl).trans hrun)⟩

end

/-- The document of a text of raw JSON is a tree of it, without a break and with nothing after
it. -/
theorem IsText.document {k : Raw} {text : Bytes} (h : IsText k text) :
    ∃ t, document text = ⟨t, none⟩ ∧ Shows t k := by
  have hnil : Apart true [] := trivial
  have hapart := k.apart_lexemes hnil
  rw [List.append_nil] at hapart
  obtain ⟨front, n, htokens, hs⟩ := tokens_of_spaced h hapart
  obtain ⟨t, ht, hrun⟩ := run_value k hs .value [] [.finish n]
  refine ⟨t, ?_, ht⟩
  rw [Json.document, htokens, hrun]
  rfl

/-- A text writes one piece of raw JSON only. -/
theorem IsText.unique {k k' : Raw} {text : Bytes} (h : IsText k text) (h' : IsText k' text) :
    k = k' := by
  obtain ⟨t, htext, ht⟩ := h.document
  obtain ⟨t', htext', ht'⟩ := h'.document
  obtain ⟨rfl, -⟩ := Document.mk.inj (htext.symm.trans htext')
  exact ht.unique ht'

end Webhook.Json
