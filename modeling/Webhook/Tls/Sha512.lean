import Webhook.Text.Utf8

/-!
# The hash of 512 bits

The text is filled up to whole blocks of 128 bytes, and each block is mixed into eight words of 64
bits in 80 rounds.  The words at the start and the constants of the rounds are the fractions of
roots of primes, and are computed from them.
-/

namespace Webhook.Tls.Sha512

/-! ## Constants -/

/-- Whether a number has no divisor but one and itself. -/
def isPrime (n : Nat) : Bool := 2 ≤ n && (List.range n).all fun d => d < 2 || n % d != 0

/-- The first primes, as many as there are rounds. -/
def primes : List Nat := ((List.range 410).filter isPrime).take 80

/-- The greatest number of some bits whose power is not above a bound, given its upper bits. -/
def rootFrom (power bound : Nat) : (bits upper : Nat) → Nat
  | 0, upper => upper
  | i + 1, upper =>
    let next := upper + (1 <<< i)
    rootFrom power bound i (if next.pow power ≤ bound then next else upper)

/-- The first 64 bits of the fraction of a root. -/
def rootFraction (power prime : Nat) : UInt64 :=
  UInt64.ofNat (rootFrom power (prime <<< (64 * power)) 70 0)

/-- The words at the start: square roots of the first eight primes. -/
def initial : List UInt64 := (primes.take 8).map (rootFraction 2)

/-- The constants of the rounds: cube roots of primes. -/
def constants : List UInt64 := primes.map (rootFraction 3)

/-! ## Rounds -/

/-- A word turned to the right. -/
def turn (x : UInt64) (n : UInt64) : UInt64 := (x >>> n) ||| (x <<< (64 - n))

/-- Mixes a word of the schedule that stands fifteen places back. -/
def smallSigma0 (x : UInt64) : UInt64 := turn x 1 ^^^ turn x 8 ^^^ (x >>> 7)

/-- Mixes a word of the schedule that stands two places back. -/
def smallSigma1 (x : UInt64) : UInt64 := turn x 19 ^^^ turn x 61 ^^^ (x >>> 6)

/-- Mixes the first word of the state. -/
def bigSigma0 (x : UInt64) : UInt64 := turn x 28 ^^^ turn x 34 ^^^ turn x 39

/-- Mixes the fifth word of the state. -/
def bigSigma1 (x : UInt64) : UInt64 := turn x 14 ^^^ turn x 18 ^^^ turn x 41

/-- The word of the schedule after those that are there, which stand in reverse order. -/
def nextWord (reversed : List UInt64) : UInt64 :=
  smallSigma1 (reversed.getD 1 0) + reversed.getD 6 0 + smallSigma0 (reversed.getD 14 0)
    + reversed.getD 15 0

/-- A schedule with more words. -/
def extend : (count : Nat) → List UInt64 → List UInt64
  | 0, reversed => reversed
  | count + 1, reversed => extend count (nextWord reversed :: reversed)

/-- One round on the eight words of the state. -/
def round (state : List UInt64) (input : UInt64 × UInt64) : List UInt64 :=
  match state with
  | [a, b, c, d, e, f, g, h] =>
    let t1 := h + bigSigma1 e + ((e &&& f) ^^^ (~~~e &&& g)) + input.1 + input.2
    let t2 := bigSigma0 a + ((a &&& b) ^^^ (a &&& c) ^^^ (b &&& c))
    [t1 + t2, a, b, c, d + t1, e, f, g]
  | other => other

/-- Mixes a block of sixteen words into the state. -/
def mix (state block : List UInt64) : List UInt64 :=
  let schedule := (extend 64 block.reverse).reverse
  let mixed := (constants.zip schedule).foldl round state
  List.zipWith (· + ·) state mixed

/-! ## Text -/

/-- The word that eight bytes stand for. -/
def wordOf (bytes : Bytes) : UInt64 := bytes.foldl (fun w b => (w <<< 8) ||| b.toUInt64) 0

/-- The words of some bytes, up to a number of them. -/
def wordsOf : (count : Nat) → Bytes → List UInt64
  | 0, _ => []
  | count + 1, bytes => wordOf (bytes.take 8) :: wordsOf count (bytes.drop 8)

/-- The text filled up to whole blocks: a one, zeros, and the length in bits. -/
def padded (text : Bytes) : Bytes :=
  let zeros := (239 - text.length % 128) % 128
  let bits := 8 * text.length
  text ++ (0x80 : UInt8) :: List.replicate zeros 0
    ++ (List.range 16).reverse.map fun i => UInt8.ofNat (bits >>> (8 * i))

/-- Mixes a number of blocks into the state. -/
def mixBlocks : (count : Nat) → List UInt64 → Bytes → List UInt64
  | 0, state, _ => state
  | count + 1, state, bytes => mixBlocks count (mix state (wordsOf 16 bytes)) (bytes.drop 128)

/-- The bytes of a word. -/
def bytesOf (w : UInt64) : Bytes := (List.range 8).reverse.map fun i => UInt8.ofNat (w.toNat >>> (8 * i))

/-- The hash of a text. -/
def hash (text : Bytes) : Bytes :=
  let whole := padded text
  (mixBlocks (whole.length / 128) initial whole).flatMap bytesOf

end Webhook.Tls.Sha512
