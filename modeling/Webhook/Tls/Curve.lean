import Webhook.Tls.Der
import Webhook.Tls.Modular

/-!
# Elliptic curves

The curves of keys are `y ^ 2 = x ^ 3 - 3 x + b` over a prime field, with a point of prime order.
A private key is a multiple of this point, and the public key the point that it gives.
-/

namespace Webhook.Tls

/-- A curve. -/
structure Curve where
  /-- The identifier of the curve. -/
  id : Bytes
  /-- The number of bytes of a coordinate. -/
  width : Nat
  /-- The prime of the field. -/
  prime : Nat
  /-- The constant term. -/
  constant : Nat
  /-- The first coordinate of the base point. -/
  baseX : Nat
  /-- The second coordinate of the base point. -/
  baseY : Nat
  /-- The order of the base point. -/
  order : Nat

/-- A point other than zero, by its coordinates. -/
abbrev Point := Nat × Nat

namespace Curve

/-- The curve of 256 bits. -/
def p256 : Curve where
  id := [0x2A, 0x86, 0x48, 0xCE, 0x3D, 0x03, 0x01, 0x07]
  width := 32
  prime := 0xffffffff00000001000000000000000000000000ffffffffffffffffffffffff
  constant := 0x5ac635d8aa3a93e7b3ebbd55769886bc651d06b0cc53b0f63bce3c3e27d2604b
  baseX := 0x6b17d1f2e12c4247f8bce6e563a440f277037d812deb33a0f4a13945d898c296
  baseY := 0x4fe342e2fe1a7f9b8ee7eb4a7c0f9e162bce33576b315ececbb6406837bf51f5
  order := 0xffffffff00000000ffffffffffffffffbce6faada7179e84f3b9cac2fc632551

/-- The curve of 384 bits. -/
def p384 : Curve where
  id := [0x2B, 0x81, 0x04, 0x00, 0x22]
  width := 48
  prime := (1 <<< 384) - (1 <<< 128) - (1 <<< 96) + (1 <<< 32) - 1
  constant :=
    0xb3312fa7e23ee7e4988e056be3f82d19181d9c6efe8141120314088f5013875ac656398d8a2ed19d2a85c8edd3ec2aef
  baseX :=
    0xaa87ca22be8b05378eb1c71ef320ad746e1d3b628ba79b9859f741e082542a385502f25dbf55296c3a545e3872760ab7
  baseY :=
    0x3617de4a96262c6f5d9e98bf9292dc29f8f41dbd289a147ce9da3113b5f0b8c00a60b1ce1d7e819d7a431d7c90ea0e5f
  order :=
    0xffffffffffffffffffffffffffffffffffffffffffffffffc7634d81f4372ddf581a0db248b0a77aecec196accc52973

/-- The curve of 521 bits. -/
def p521 : Curve where
  id := [0x2B, 0x81, 0x04, 0x00, 0x23]
  width := 66
  prime := (1 <<< 521) - 1
  constant :=
    0x0051953eb9618e1c9a1f929a21a0b68540eea2da725b99b315f3b8b489918ef109e156193951ec7e937b1652c0bd3bb1bf073573df883d2c34f1ef451fd46b503f00
  baseX :=
    0x00c6858e06b70404e9cd9e3ecb662395b4429c648139053fb521f828af606b4d3dbaa14b5e77efe75928fe1dc127a2ffa8de3348b3c1856a429bf97e7e31c2e5bd66
  baseY :=
    0x011839296a789a3bc0045c8a5fb42c7d1bd998f54449579b446817afbd17273e662c97ee72995ef42640c550b9013fad0761353c7086a272c24088be94769fd16650
  order :=
    0x01fffffffffffffffffffffffffffffffffffffffffffffffffffffffffffffffffa51868783bf2f966b7fcc0148f709a5d03bb5c9b8899c47aebb6fb71e91386409

/-- The curves that keys may be on. -/
def all : List Curve := [p256, p384, p521]

/-- The curve of an identifier. -/
def ofId? (id : Bytes) : Option Curve := all.find? (·.id = id)

/-- Whether a point lies on the curve. -/
def contains (c : Curve) (p : Point) : Bool :=
  p.1 < c.prime && p.2 < c.prime
    && p.2 * p.2 % c.prime
      == Modular.sub c.prime (p.1 * p.1 * p.1 + c.constant) (3 * p.1) % c.prime

/-- The point on the line through two points, or along the curve at one of them, of a given slope. -/
def onLine (c : Curve) (slope : Nat) (p q : Point) : Point :=
  let x := Modular.sub c.prime (slope * slope) (p.1 + q.1)
  (x, Modular.sub c.prime (slope * Modular.sub c.prime p.1 x) p.2)

/-- The double of a point; none is zero. -/
def double (c : Curve) : Option Point → Option Point
  | none => none
  | some p =>
    if p.2 = 0 then none
    else
      let top := Modular.sub c.prime (3 * p.1 * p.1) 3
      some (c.onLine (top * Modular.inverse c.prime (2 * p.2) % c.prime) p p)

/-- The sum of two points. -/
def add (c : Curve) : Option Point → Option Point → Option Point
  | none, q => q
  | p, none => p
  | some p, some q =>
    if p.1 = q.1 then
      if p.2 = q.2 then c.double (some p) else none
    else
      let top := Modular.sub c.prime q.2 p.2
      let bottom := Modular.sub c.prime q.1 p.1
      some (c.onLine (top * Modular.inverse c.prime bottom % c.prime) p q)

/-- The base point. -/
def base (c : Curve) : Point := (c.baseX, c.baseY)

/-- A multiple of the base point. -/
def multiple (c : Curve) (n : Nat) : Option Point :=
  (Modular.bits n).foldl
    (fun acc bit => if bit then c.add (c.double acc) (some c.base) else c.double acc) none

/-- The point of a private key, which is not zero and below the order. -/
def publicPoint? (c : Curve) (key : Nat) : Option Point :=
  if key = 0 || c.order ≤ key then none else c.multiple key

/-- A point as bytes: a four and both coordinates. -/
def encodePoint (c : Curve) (p : Point) : Bytes :=
  0x04 :: (Der.ofNatPadded c.width p.1 ++ Der.ofNatPadded c.width p.2)

/-- A point as fewer bytes: its first coordinate, and whether the second one is odd. -/
def encodeShort (c : Curve) (p : Point) : Bytes :=
  (if p.2 % 2 = 0 then 0x02 else 0x03) :: Der.ofNatPadded c.width p.1

end Curve
end Webhook.Tls
