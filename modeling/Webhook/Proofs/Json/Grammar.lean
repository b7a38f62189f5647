import Webhook.Json.Tree

/-!
# The grammar of JSON texts

What a JSON text is, said without the reader.  A text writes a piece of raw JSON, `Raw`: words,
numbers and strings as they are spelled, and lists and objects of those, with the members of an
object in the order of the text.  Raw JSON is a sequence of lexemes (`Raw.lexemes`), and a text of
it has these lexemes in a row with blanks between them (`Spaced`).  The blanks may stand before the
first lexeme and after the last one too.

`NumberText` and `RawText` are the grammars of a number and of what stands between the quotation
marks of a string.  Both are over bytes.  The bytes of a string need not be UTF-8, and an escaped
half of a character may stand alone: whether a string is text at all is a matter of its meaning.

`Shows` relates raw JSON to the trees of `Webhook.Json.Tree`, which have offsets besides.
-/

namespace Webhook.Json

/-! ## Numbers -/

/-- Decimal digits only, perhaps none. -/
def AllDigits (ds : Bytes) : Prop := ∀ b ∈ ds, isDigit b = true

/-- The whole part of a number: a zero, or digits that do not start with a zero. -/
inductive WholeText : Bytes → Prop where
  /-- A zero. -/
  | zero : WholeText [0x30]
  /-- A digit other than zero, and more digits. -/
  | digits {b : UInt8} {ds : Bytes} :
      isDigit b = true → b ≠ 0x30 → AllDigits ds → WholeText (b :: ds)

/-- The places after the point, with the point, or nothing. -/
inductive FractionText : Bytes → Prop where
  /-- No point. -/
  | absent : FractionText []
  /-- A point and at least one place. -/
  | places {ds : Bytes} : ds ≠ [] → AllDigits ds → FractionText (0x2E :: ds)

/-- The digits of an exponent, which may have a sign. -/
inductive PowerText : Bytes → Prop where
  /-- At least one digit. -/
  | plain {ds : Bytes} : ds ≠ [] → AllDigits ds → PowerText ds
  /-- A sign and at least one digit. -/
  | signed {s : UInt8} {ds : Bytes} :
      s = 0x2B ∨ s = 0x2D → ds ≠ [] → AllDigits ds → PowerText (s :: ds)

/-- An exponent, with its letter, or nothing. -/
inductive ExponentText : Bytes → Prop where
  /-- No exponent. -/
  | absent : ExponentText []
  /-- A letter and a power. -/
  | power {e : UInt8} {ds : Bytes} :
      isExponentLetter e = true → PowerText ds → ExponentText (e :: ds)

/-- A number without a sign. -/
def UnsignedText (text : Bytes) : Prop :=
  ∃ w f e, text = w ++ (f ++ e) ∧ WholeText w ∧ FractionText f ∧ ExponentText e

/-- A number. -/
def NumberText (text : Bytes) : Prop :=
  UnsignedText text ∨ ∃ rest, text = 0x2D :: rest ∧ UnsignedText rest

/-! ## Strings -/

/-- What may stand between the quotation marks of a string. -/
inductive RawText : Bytes → Prop where
  /-- Nothing. -/
  | nil : RawText []
  /-- A byte that stands for itself. -/
  | plain {b : UInt8} {rest : Bytes} :
      ¬ b < 0x20 → b ≠ 0x22 → b ≠ 0x5C → RawText rest → RawText (b :: rest)
  /-- A backslash and a letter. -/
  | short {b : UInt8} {rest : Bytes} :
      isEscapeLetter b = true → RawText rest → RawText (0x5C :: b :: rest)
  /-- A backslash, the letter for a code, and four hexadecimal digits. -/
  | code {a b c d : UInt8} {rest : Bytes} :
      isHexDigit a = true → isHexDigit b = true → isHexDigit c = true → isHexDigit d = true →
      RawText rest → RawText (0x5C :: 0x75 :: a :: b :: c :: d :: rest)

/-! ## Lexemes -/

/-- A token without its offset. -/
inductive Lexeme where
  /-- The start of a list. -/
  | openList
  /-- The end of a list. -/
  | closeList
  /-- The start of an object. -/
  | openObject
  /-- The end of an object. -/
  | closeObject
  /-- A comma. -/
  | comma
  /-- A colon. -/
  | colon
  /-- A word. -/
  | word (w : Word)
  /-- A number. -/
  | number (digits : Bytes)
  /-- A string, without its quotation marks. -/
  | string (raw : Bytes)
  deriving DecidableEq, Repr

/-- The bytes of a lexeme. -/
def Lexeme.text : Lexeme → Bytes
  | .openList => [0x5B]
  | .closeList => [0x5D]
  | .openObject => [0x7B]
  | .closeObject => [0x7D]
  | .comma => [0x2C]
  | .colon => [0x3A]
  | .word w => w.letters
  | .number digits => digits
  | .string raw => 0x22 :: (raw ++ [0x22])

/-- Whether a lexeme is a value by itself. -/
def Lexeme.isScalar : Lexeme → Bool
  | .word _ | .number _ | .string _ => true
  | _ => false

/-- A number and a string follow their grammars. -/
def Lexeme.WellFormed : Lexeme → Prop
  | .number digits => NumberText digits
  | .string raw => RawText raw
  | _ => True

/-- The lexeme of a token that does not break off. -/
def Token.lexeme? : Token → Option Lexeme
  | .openList _ => some .openList
  | .closeList _ => some .closeList
  | .openObject _ => some .openObject
  | .closeObject _ => some .closeObject
  | .comma _ => some .comma
  | .colon _ => some .colon
  | .scalar _ (.word w) => some (.word w)
  | .scalar _ (.number digits) => some (.number digits)
  | .scalar _ (.string raw (.closed _)) => some (.string raw)
  | _ => none

/-- Blanks only, perhaps none. -/
def AllSpace (blanks : Bytes) : Prop := ∀ b ∈ blanks, isSpace b = true

/-- A text that has the given lexemes in a row, with blanks between them and at both ends. -/
inductive Spaced : List Lexeme → Bytes → Prop where
  /-- No more lexemes. -/
  | done {blanks : Bytes} : AllSpace blanks → Spaced [] blanks
  /-- Blanks, a lexeme, and the others. -/
  | next {blanks rest : Bytes} {l : Lexeme} {ls : List Lexeme} :
      AllSpace blanks → l.WellFormed → Spaced ls rest →
      Spaced (l :: ls) (blanks ++ (l.text ++ rest))

/-! ## Raw JSON -/

/-- JSON as it is spelled. -/
inductive Raw where
  /-- A word. -/
  | word (w : Word)
  /-- A number. -/
  | number (digits : Bytes)
  /-- A string, without its quotation marks. -/
  | string (raw : Bytes)
  /-- A list. -/
  | list (items : List Raw)
  /-- An object, with the names of its members as they are spelled. -/
  | object (members : List (Bytes × Raw))

/-- Sequences of lexemes with commas between them. -/
def separated : List (List Lexeme) → List Lexeme
  | [] => []
  | [ls] => ls
  | ls :: rest => ls ++ .comma :: separated rest

mutual

/-- The lexemes of raw JSON. -/
def Raw.lexemes : Raw → List Lexeme
  | .word w => [.word w]
  | .number digits => [.number digits]
  | .string raw => [.string raw]
  | .list items => .openList :: (separated (itemLexemes items) ++ [.closeList])
  | .object members => .openObject :: (separated (memberLexemes members) ++ [.closeObject])
termination_by structural k => k

/-- The lexemes of each item of a list. -/
def itemLexemes : List Raw → List (List Lexeme)
  | [] => []
  | k :: ks => k.lexemes :: itemLexemes ks
termination_by structural ks => ks

/-- The lexemes of each member of an object. -/
def memberLexemes : List (Bytes × Raw) → List (List Lexeme)
  | [] => []
  | m :: ms => lexemesOfMember m :: memberLexemes ms
termination_by structural ms => ms

/-- The lexemes of a member: its name, a colon and its value. -/
def lexemesOfMember : Bytes × Raw → List Lexeme
  | (name, k) => .string name :: .colon :: k.lexemes
termination_by structural m => m

end

/-- A text is one piece of raw JSON with blanks around it. -/
def IsText (k : Raw) (text : Bytes) : Prop := Spaced k.lexemes text

/-! ## Trees of raw JSON -/

mutual

/-- A tree without any break is that of some raw JSON. -/
inductive Shows : Tree → Raw → Prop where
  | word {n : Nat} {w : Word} : Shows (.scalar n (.word w)) (.word w)
  | number {n : Nat} {ds : Bytes} : Shows (.scalar n (.number ds)) (.number ds)
  | string {n e : Nat} {raw : Bytes} : Shows (.scalar n (.string raw (.closed e))) (.string raw)
  | list {n e : Nat} {ts : List Tree} {ks : List Raw} :
      ShowsItems ts ks → Shows (.list n ts (.closed e)) (.list ks)
  | object {n e : Nat} {ms : List Member} {ks : List (Bytes × Raw)} :
      ShowsMembers ms ks → Shows (.object n ms (.closed e)) (.object ks)

/-- The items of a list are the trees of its raw items. -/
inductive ShowsItems : List Tree → List Raw → Prop where
  | nil : ShowsItems [] []
  | cons {t : Tree} {k : Raw} {ts : List Tree} {ks : List Raw} :
      Shows t k → ShowsItems ts ks → ShowsItems (t :: ts) (k :: ks)

/-- The members of an object are the trees of its raw members. -/
inductive ShowsMembers : List Member → List (Bytes × Raw) → Prop where
  | nil : ShowsMembers [] []
  | cons {n e a b : Nat} {raw : Bytes} {t : Tree} {k : Raw} {ms : List Member}
      {ks : List (Bytes × Raw)} :
      Shows t k → ShowsMembers ms ks →
      ShowsMembers (⟨.scalar n (.string raw (.closed e)), a, t, b⟩ :: ms) ((raw, k) :: ks)

end

/-! ## First lemmas -/

@[simp] theorem AllDigits.nil : AllDigits [] := by
  intro b hb
  cases hb

theorem AllDigits.cons {b : UInt8} {ds : Bytes} (hb : isDigit b = true) (h : AllDigits ds) :
    AllDigits (b :: ds) := List.forall_mem_cons.mpr ⟨hb, h⟩

theorem AllDigits.head {b : UInt8} {ds : Bytes} (h : AllDigits (b :: ds)) : isDigit b = true :=
  h b (.head _)

theorem AllDigits.tail {b : UInt8} {ds : Bytes} (h : AllDigits (b :: ds)) : AllDigits ds :=
  fun c hc => h c (.tail _ hc)

@[simp] theorem AllSpace.nil : AllSpace [] := by
  intro b hb
  cases hb

theorem AllSpace.cons {b : UInt8} {blanks : Bytes} (hb : isSpace b = true) (h : AllSpace blanks) :
    AllSpace (b :: blanks) := List.forall_mem_cons.mpr ⟨hb, h⟩

/-- A blank in front of a text changes nothing. -/
theorem Spaced.cons_space {b : UInt8} {ls : List Lexeme} {text : Bytes} (hb : isSpace b = true)
    (h : Spaced ls text) : Spaced ls (b :: text) := by
  cases h with
  | done hblanks => exact .done (hblanks.cons hb)
  | next hblanks hl hrest => exact .next (hblanks.cons hb) hl hrest

/-- A lexeme right in front of a text. -/
theorem Spaced.cons {l : Lexeme} {ls : List Lexeme} {text : Bytes} (hl : l.WellFormed)
    (h : Spaced ls text) : Spaced (l :: ls) (l.text ++ text) := by
  have hnext : Spaced (l :: ls) ([] ++ (l.text ++ text)) := .next .nil hl h
  rwa [List.nil_append] at hnext

/-- The last of several sequences comes after the others, each with its comma. -/
theorem separated_concat (ls : List Lexeme) :
    ∀ before : List (List Lexeme),
      separated (before ++ [ls]) = before.flatMap (· ++ [.comma]) ++ ls
  | [] => rfl
  | [first] => by simp [separated]
  | first :: second :: before => by
      have ih := separated_concat ls (second :: before)
      rw [List.cons_append] at ih
      rw [List.cons_append, List.cons_append, separated, ih]
      · simp
      · simp

theorem ShowsItems.concat {t : Tree} {k : Raw} (ht : Shows t k) :
    ∀ {ts : List Tree} {ks : List Raw}, ShowsItems ts ks → ShowsItems (ts ++ [t]) (ks ++ [k])
  | _, _, .nil => .cons ht .nil
  | _, _, .cons h hs => .cons h (hs.concat ht)

theorem ShowsMembers.concat {n e a b : Nat} {raw : Bytes} {t : Tree} {k : Raw} (ht : Shows t k) :
    ∀ {ms : List Member} {ks : List (Bytes × Raw)}, ShowsMembers ms ks →
      ShowsMembers (ms ++ [⟨.scalar n (.string raw (.closed e)), a, t, b⟩]) (ks ++ [(raw, k)])
  | _, _, .nil => .cons ht .nil
  | _, _, .cons h hs => .cons h (hs.concat ht)

mutual

/-- A tree shows one piece of raw JSON only. -/
theorem Shows.unique {t : Tree} : ∀ {k k' : Raw}, Shows t k → Shows t k' → k = k'
  | _, _, .word, h => by
      cases h
      rfl
  | _, _, .number, h => by
      cases h
      rfl
  | _, _, .string, h => by
      cases h
      rfl
  | _, _, .list hs, h => by
      cases h with
      | list hs' => rw [hs.unique hs']
  | _, _, .object hs, h => by
      cases h with
      | object hs' => rw [hs.unique hs']

theorem ShowsItems.unique {ts : List Tree} :
    ∀ {ks ks' : List Raw}, ShowsItems ts ks → ShowsItems ts ks' → ks = ks'
  | _, _, .nil, h => by
      cases h
      rfl
  | _, _, .cons ht hs, h => by
      cases h with
      | cons ht' hs' => rw [ht.unique ht', hs.unique hs']

theorem ShowsMembers.unique {ms : List Member} :
    ∀ {ks ks' : List (Bytes × Raw)}, ShowsMembers ms ks → ShowsMembers ms ks' → ks = ks'
  | _, _, .nil, h => by
      cases h
      rfl
  | _, _, .cons ht hs, h => by
      cases h with
      | cons ht' hs' => rw [ht.unique ht', hs.unique hs']

end

end Webhook.Json
