/-!
# UTF-8

Bodies, headers and files arrive as bytes, and most of them are meant as text.  `encode` writes
text as bytes.  `decode?` reads bytes back and accepts exactly the well formed sequences: no
overlong form, no surrogate, nothing above the last code point.  `decodeLossy` never fails: it
puts the replacement character for every maximal piece of an ill formed sequence.
-/

namespace Webhook

/-- A sequence of bytes: a body, a header value or the contents of a file. -/
abbrev Bytes := List UInt8

namespace Utf8

/-- The bytes of one character. -/
def encodeChar (c : Char) : Bytes := String.utf8EncodeChar c

/-- The bytes of a text. -/
def encode (s : String) : Bytes := s.toList.flatMap encodeChar

/-- A byte that may only continue a character. -/
def isTail (b : UInt8) : Bool := 0x80 ≤ b && b ≤ 0xBF

/-- The first byte of a character of two bytes. -/
def isLead2 (b : UInt8) : Bool := 0xC2 ≤ b && b ≤ 0xDF

/-- The first two bytes of a character of three bytes. -/
def isLead3 (a b : UInt8) : Bool :=
  if a == 0xE0 then 0xA0 ≤ b && b ≤ 0xBF
  else if a == 0xED then 0x80 ≤ b && b ≤ 0x9F
  else 0xE1 ≤ a && a ≤ 0xEF && isTail b

/-- The first two bytes of a character of four bytes. -/
def isLead4 (a b : UInt8) : Bool :=
  if a == 0xF0 then 0x90 ≤ b && b ≤ 0xBF
  else if a == 0xF4 then 0x80 ≤ b && b ≤ 0x8F
  else 0xF1 ≤ a && a ≤ 0xF3 && isTail b

/-- The six bits a tail byte carries. -/
def tailBits (b : UInt8) : Nat := b.toNat % 64

/-- The character of two bytes. -/
def char2 (a b : UInt8) : Char := Char.ofNat (a.toNat % 32 * 64 + tailBits b)

/-- The character of three bytes. -/
def char3 (a b c : UInt8) : Char :=
  Char.ofNat ((a.toNat % 16 * 64 + tailBits b) * 64 + tailBits c)

/-- The character of four bytes. -/
def char4 (a b c d : UInt8) : Char :=
  Char.ofNat (((a.toNat % 8 * 64 + tailBits b) * 64 + tailBits c) * 64 + tailBits d)

/-- The characters of a well formed sequence, put in front of `acc` in reverse. -/
def decodeOnto? (acc : List Char) : Bytes → Option (List Char)
  | [] => some acc
  | a :: r₁ =>
    if a < 0x80 then decodeOnto? (Char.ofNat a.toNat :: acc) r₁
    else match r₁ with
      | [] => none
      | b :: r₂ =>
        if isLead2 a && isTail b then decodeOnto? (char2 a b :: acc) r₂
        else match r₂ with
          | [] => none
          | c :: r₃ =>
            if isLead3 a b && isTail c then decodeOnto? (char3 a b c :: acc) r₃
            else match r₃ with
              | [] => none
              | d :: r₄ =>
                if isLead4 a b && isTail c && isTail d then
                  decodeOnto? (char4 a b c d :: acc) r₄
                else none
termination_by structural bytes => bytes

/-- The text of a well formed sequence. -/
def decode? (bytes : Bytes) : Option String :=
  (decodeOnto? [] bytes).map fun cs => String.ofList cs.reverse

/-- The number of bytes before the first ill formed piece, added to `n`. -/
def wellFormedLength (n : Nat) : Bytes → Nat
  | [] => n
  | a :: r₁ =>
    if a < 0x80 then wellFormedLength (n + 1) r₁
    else match r₁ with
      | [] => n
      | b :: r₂ =>
        if isLead2 a && isTail b then wellFormedLength (n + 2) r₂
        else match r₂ with
          | [] => n
          | c :: r₃ =>
            if isLead3 a b && isTail c then wellFormedLength (n + 3) r₃
            else match r₃ with
              | [] => n
              | d :: r₄ =>
                if isLead4 a b && isTail c && isTail d then wellFormedLength (n + 4) r₄ else n
termination_by structural bytes => bytes

/-- The character that stands for bytes that are not text. -/
def replacement : Char := '\uFFFD'

/-- The characters of any sequence, put in front of `acc` in reverse: each longest piece that
starts some character but does not end one, and each byte that starts none, gives one
replacement character. -/
def decodeLossyOnto (acc : List Char) : Bytes → List Char
  | [] => acc
  | a :: r₁ =>
    if a < 0x80 then decodeLossyOnto (Char.ofNat a.toNat :: acc) r₁
    else match r₁ with
      | [] => replacement :: acc
      | b :: r₂ =>
        if isLead2 a && isTail b then decodeLossyOnto (char2 a b :: acc) r₂
        else if !(isLead3 a b || isLead4 a b) then
          decodeLossyOnto (replacement :: acc) (b :: r₂)
        else match r₂ with
          | [] => replacement :: acc
          | c :: r₃ =>
            if !isTail c then decodeLossyOnto (replacement :: acc) (c :: r₃)
            else if isLead3 a b then decodeLossyOnto (char3 a b c :: acc) r₃
            else match r₃ with
              | [] => replacement :: acc
              | d :: r₄ =>
                if isTail d then decodeLossyOnto (char4 a b c d :: acc) r₄
                else decodeLossyOnto (replacement :: acc) (d :: r₄)
termination_by structural bytes => bytes

/-- The text of any sequence, with replacement characters for what is not text. -/
def decodeLossy (bytes : Bytes) : String :=
  String.ofList (decodeLossyOnto [] bytes).reverse

example : decode? [0x61, 0xC3, 0xA9, 0xE2, 0x98, 0x83] = some "aé☃" := by decide +kernel
example : decode? [0xED, 0xA0, 0x80] = none := by decide +kernel
example : decode? [0xC0, 0x80] = none := by decide +kernel
example : decodeLossy [0x61, 0xF0, 0x9F, 0x98, 0x62] = "a\uFFFDb" := by decide +kernel

end Utf8
end Webhook
