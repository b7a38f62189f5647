/-!
# Places in a text

A place in a text is the number of bytes before it.  A text can be split only between two
characters: there is no part that starts or ends inside of one (`splitAt?_eq_some`).
-/

namespace Webhook.Text

/-- The number of bytes of a text. -/
def byteLength : List Char → Nat
  | [] => 0
  | c :: rest => c.utf8Size + byteLength rest

@[simp]
theorem byteLength_nil : byteLength [] = 0 := rfl

@[simp]
theorem byteLength_cons (c : Char) (cs : List Char) :
    byteLength (c :: cs) = c.utf8Size + byteLength cs := rfl

@[simp]
theorem byteLength_append (a b : List Char) :
    byteLength (a ++ b) = byteLength a + byteLength b := by
  induction a with
  | nil => exact (Nat.zero_add _).symm
  | cons c a ih => rw [List.cons_append, byteLength_cons, byteLength_cons, ih, Nat.add_assoc]

/-- The text before a place and the text after it, unless the place is inside of a character or
after the end. -/
def splitAt? : Nat → List Char → Option (List Char × List Char)
  | 0, text => some ([], text)
  | _ + 1, [] => none
  | n + 1, c :: rest =>
    if n + 1 < c.utf8Size then none
    else (splitAt? (n + 1 - c.utf8Size) rest).map fun parts => (c :: parts.1, parts.2)

theorem splitAt?_cons (c : Char) (n : Nat) (rest : List Char) :
    splitAt? (c.utf8Size + n) (c :: rest)
      = (splitAt? n rest).map fun parts => (c :: parts.1, parts.2) := by
  have hpos : 0 < c.utf8Size := c.utf8Size_pos
  obtain ⟨m, hm⟩ : ∃ m, c.utf8Size + n = m + 1 := ⟨c.utf8Size + n - 1, by omega⟩
  rw [hm, splitAt?, if_neg (by omega), ← hm, Nat.add_sub_cancel_left]

/-- After a first part a text can be split. -/
theorem splitAt?_append (a b : List Char) : splitAt? (byteLength a) (a ++ b) = some (a, b) := by
  induction a with
  | nil => cases b <;> rfl
  | cons c a ih =>
      rw [byteLength_cons, List.cons_append, splitAt?_cons, ih]
      rfl

/-- A text is split where a first part of it ends. -/
theorem splitAt?_eq_some {n : Nat} {text a b : List Char} :
    splitAt? n text = some (a, b) ↔ text = a ++ b ∧ byteLength a = n := by
  constructor
  · intro h
    fun_induction splitAt? n text generalizing a with
    | case1 text =>
        cases h
        exact ⟨rfl, rfl⟩
    | case2 => cases h
    | case3 => cases h
    | case4 n c rest hfits ih =>
        obtain ⟨⟨a', _⟩, hsplit, heq⟩ := Option.map_eq_some_iff.mp h
        obtain ⟨rfl, rfl⟩ := Prod.mk.inj heq
        obtain ⟨rfl, hlength⟩ := ih hsplit
        refine ⟨rfl, ?_⟩
        rw [byteLength_cons, hlength]
        omega
  · rintro ⟨rfl, rfl⟩
    exact splitAt?_append a b

/-- The part of a text between two places. -/
def slice? (text : List Char) (start stop : Nat) : Option (List Char) := do
  let (before, _) ← splitAt? stop text
  let (_, part) ← splitAt? start before
  return part

/-- A part of a text stands between two texts, and its places are where they meet it. -/
theorem slice?_eq_some {text part : List Char} {start stop : Nat} :
    slice? text start stop = some part ↔ ∃ before after, text = before ++ part ++ after ∧
      byteLength before = start ∧ byteLength (before ++ part) = stop := by
  rw [slice?]
  constructor
  · intro h
    obtain ⟨⟨upTo, after⟩, hstop, h⟩ := Option.bind_eq_some_iff.mp h
    obtain ⟨⟨before, part'⟩, hstart, h⟩ := Option.bind_eq_some_iff.mp h
    obtain rfl := Option.some.inj h
    obtain ⟨rfl, hbefore⟩ := splitAt?_eq_some.mp hstart
    obtain ⟨rfl, hupTo⟩ := splitAt?_eq_some.mp hstop
    exact ⟨before, after, rfl, hbefore, hupTo⟩
  · rintro ⟨before, after, rfl, hstart, hstop⟩
    rw [splitAt?_eq_some.mpr ⟨rfl, hstop⟩]
    show (splitAt? start (before ++ part)).bind _ = _
    rw [splitAt?_eq_some.mpr ⟨rfl, hstart⟩]
    rfl

/-- The part of a text after a place. -/
def from? (text : List Char) (start : Nat) : Option (List Char) :=
  (splitAt? start text).map (·.2)

theorem from?_eq_some {text part : List Char} {start : Nat} :
    from? text start = some part ↔
      ∃ before, text = before ++ part ∧ byteLength before = start := by
  rw [from?, Option.map_eq_some_iff]
  constructor
  · rintro ⟨⟨before, _⟩, hsplit, rfl⟩
    exact ⟨before, splitAt?_eq_some.mp hsplit⟩
  · rintro ⟨before, hsplit⟩
    exact ⟨(before, part), splitAt?_eq_some.mpr hsplit, rfl⟩

example : slice? "aéb".toList 1 3 = some ['é'] := by decide +kernel
example : slice? "aéb".toList 2 3 = none := by decide +kernel

end Webhook.Text
