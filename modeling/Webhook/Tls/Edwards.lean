import Webhook.Tls.Der
import Webhook.Tls.Modular
import Webhook.Tls.Sha512

/-!
# The twisted Edwards curve

Keys of 32 bytes belong to the curve `-x ^ 2 + y ^ 2 = 1 + d x ^ 2 y ^ 2` over the field of
`2 ^ 255 - 19`.  The bytes of a private key are hashed, the first half of the hash is the multiple
of the base point, and the public key is the second coordinate of that point with one bit of the
first one.
-/

namespace Webhook.Tls.Edwards

/-- The prime of the field. -/
def prime : Nat := (1 <<< 255) - 19

/-- The constant of the curve. -/
def constant : Nat := Modular.sub prime 0 (121665 * Modular.inverse prime 121666)

/-- A point: two coordinates and their product, all over a common divisor. -/
structure Point where
  /-- The first coordinate. -/
  x : Nat
  /-- The second coordinate. -/
  y : Nat
  /-- The divisor. -/
  z : Nat
  /-- The product of the coordinates. -/
  t : Nat

/-- Zero. -/
def zero : Point := ⟨0, 1, 1, 0⟩

/-- The base point: its second coordinate is four fifths. -/
def base : Point :=
  let x := 15112221349535400772501151409588531511454012693041857206046113283949847762202
  let y := 46316835694926478169428394003475163141307993866256225615783033603165251855960
  ⟨x, y, 1, x * y % prime⟩

/-- The sum of two points. -/
def add (p q : Point) : Point :=
  let a := Modular.sub prime p.y p.x * Modular.sub prime q.y q.x
  let b := (p.y + p.x) * (q.y + q.x)
  let c := 2 * p.t * q.t % prime * constant
  let d := 2 * p.z * q.z
  let e := Modular.sub prime b a
  let f := Modular.sub prime d c
  let g := (d + c) % prime
  let h := (b + a) % prime
  ⟨e * f % prime, g * h % prime, f * g % prime, e * h % prime⟩

/-- A multiple of the base point. -/
def multiple (n : Nat) : Point :=
  (Modular.bits n).foldl (fun acc bit => if bit then add (add acc acc) base else add acc acc) zero

/-- The number that bytes stand for, the least significant one first. -/
def littleEndian (bytes : Bytes) : Nat := Der.toNat bytes.reverse

/-- The multiple for the hash of a private key: a multiple of eight with its highest bit set. -/
def clamp (n : Nat) : Nat := n % (1 <<< 254) / 8 * 8 + (1 <<< 254)

/-- A point as 32 bytes. -/
def encode (p : Point) : Bytes :=
  let divisor := Modular.inverse prime p.z
  let x := p.x * divisor % prime
  let y := p.y * divisor % prime
  (Der.ofNatPadded 32 (y + (x % 2) <<< 255)).reverse

/-- The public key of a private key. -/
def publicKey (key : Bytes) : Bytes :=
  encode (multiple (clamp (littleEndian ((Sha512.hash key).take 32))))

end Webhook.Tls.Edwards
