import Webhook.Tls.Curve
import Webhook.Tls.Edwards
import Webhook.Tls.Pem

/-!
# Private keys

A private key belongs to one of three algorithms, and each of them has its own form.  What matters
is the public key that belongs to it, in the form in which a certificate names it: the algorithm
and the bits of the key.  A key that contradicts itself is refused.
-/

namespace Webhook.Tls.PrivateKey

open Der (Tag)

/-! ## Algorithms -/

/-- The identifier of the RSA algorithm. -/
def rsaId : Bytes := [0x2A, 0x86, 0x48, 0x86, 0xF7, 0x0D, 0x01, 0x01, 0x01]

/-- The identifier of keys on elliptic curves. -/
def curveId : Bytes := [0x2A, 0x86, 0x48, 0xCE, 0x3D, 0x02, 0x01]

/-- The identifier of keys on the twisted Edwards curve. -/
def edwardsId : Bytes := [0x2B, 0x65, 0x70]

/-- A public key with its algorithm, which has parameters. -/
def namedKey (id parameters bits : Bytes) : Bytes :=
  Der.write Tag.sequence
    (Der.write Tag.sequence (Der.write Tag.identifier id ++ parameters) ++ Der.writeBits bits)

/-- Nothing, as the parameters of an algorithm. -/
def noParameters : Bytes := Der.write Tag.null []

/-! ## Wrapped keys -/

/-- A key in the form that all algorithms share. -/
structure Wrapped where
  /-- The algorithm. -/
  algorithm : Bytes
  /-- The parameters of the algorithm. -/
  parameters : Bytes
  /-- The key, in the form of its algorithm. -/
  key : Bytes
  /-- The public key, if it is there as well. -/
  publicBits : Option Bytes

/-- Reads a wrapped key.  Only the second version has room for a public key; attributes and what
comes after the key do not matter. -/
def readWrapped? (der : Bytes) : Option Wrapped := do
  let (content, _) ← Der.read Tag.sequence der
  let (version, content) ← Der.readNatural content
  guard (version ≤ 1)
  let (algorithm, content) ← Der.read Tag.sequence content
  let (id, parameters) ← Der.read Tag.identifier algorithm
  let (key, content) ← Der.read Tag.octetString content
  let (_, content) ← Der.readOptional (Tag.context 0) content
  if version = 0 then return ⟨id, parameters, key, none⟩
  let (publicBits, _) ← Der.readOptional (Tag.contextBytes 1) content
  return ⟨id, parameters, key, publicBits⟩

/-! ## RSA -/

/-- The numbers of an RSA key. -/
structure Rsa where
  /-- The modulus. -/
  modulus : Nat
  /-- The public exponent. -/
  exponent : Nat
  /-- The private exponent. -/
  privateExponent : Nat
  /-- The first factor of the modulus. -/
  factor1 : Nat
  /-- The second factor of the modulus. -/
  factor2 : Nat
  /-- The private exponent modulo the first factor less one. -/
  exponent1 : Nat
  /-- The private exponent modulo the second factor less one. -/
  exponent2 : Nat
  /-- The inverse of the second factor modulo the first one. -/
  coefficient : Nat

namespace Rsa

/-- Reads the numbers. -/
def read : Der.Reader Rsa := fun der => do
  let (content, rest) ← Der.read Tag.sequence der
  let (version, content) ← Der.readNatural content
  guard (version = 0)
  let (n, content) ← Der.readNatural content
  let (e, content) ← Der.readNatural content
  let (d, content) ← Der.readNatural content
  let (p, content) ← Der.readNatural content
  let (q, content) ← Der.readNatural content
  let (dp, content) ← Der.readNatural content
  let (dq, content) ← Der.readNatural content
  let (qi, content) ← Der.readNatural content
  guard content.isEmpty
  return (⟨n, e, d, p, q, dp, dq, qi⟩, rest)

/-- The number of bits of a number. -/
def bitCount (n : Nat) : Nat := if n = 0 then 0 else n.log2 + 1

/-- Whether one number is the inverse of another one. -/
def isInverse (inverse n modulus : Nat) : Bool :=
  inverse < modulus && inverse * n % modulus == 1 % modulus

/-- Whether the public numbers may be used: both are odd, the modulus has 2048 to 8192 bits and the
exponent at most 33. -/
def usable (k : Rsa) : Bool :=
  k.modulus % 2 == 1 && 2048 ≤ bitCount k.modulus && bitCount k.modulus ≤ 8192
    && k.exponent % 2 == 1 && 2 ≤ bitCount k.exponent && bitCount k.exponent ≤ 33

/-- Whether the private numbers fit each other and the public ones. -/
def consistent (k : Rsa) : Bool :=
  1 < k.factor1 && 1 < k.factor2 && k.factor1 * k.factor2 == k.modulus
    && k.privateExponent < k.modulus
    && k.privateExponent * k.exponent % (k.factor1 - 1) == 1
    && k.privateExponent * k.exponent % (k.factor2 - 1) == 1
    && isInverse k.exponent1 k.exponent (k.factor1 - 1)
    && isInverse k.exponent2 k.exponent (k.factor2 - 1)
    && isInverse k.coefficient k.factor2 k.factor1

/-- The public key. -/
def publicKey (k : Rsa) : Bytes :=
  namedKey rsaId noParameters
    (Der.write Tag.sequence (Der.writeNatural k.modulus ++ Der.writeNatural k.exponent))

end Rsa

/-- Reads an RSA key in its own form, and gives its public key. -/
def readRsa : Der.Reader Bytes := fun der => do
  let (k, rest) ← Rsa.read der
  guard (k.usable && k.consistent)
  return (k.publicKey, rest)

/-- The public key of a wrapped RSA key. -/
def ofWrappedRsa? (k : Wrapped) : Option Bytes := do
  guard (k.algorithm = rsaId && k.parameters = noParameters)
  Der.only (readRsa k.key)

/-! ## Elliptic curves -/

/-- Whether the curve that a key names is the given one. -/
def namesCurve (c : Curve) (parameters : Bytes) : Bool := parameters == Der.write Tag.identifier c.id

/-- Whether bits are those of a point. -/
def isPoint (c : Curve) (p : Point) (bits : Bytes) : Bool :=
  bits == c.encodePoint p || bits == c.encodeShort p

/-- Reads a key on a curve in its own form, and gives its public key.  The curve and the public key
may be left out, and are checked otherwise. -/
def readOnCurve (c : Curve) : Der.Reader Bytes := fun der => do
  let (content, rest) ← Der.read Tag.sequence der
  let (version, content) ← Der.readNatural content
  guard (version = 1)
  let (key, content) ← Der.read Tag.octetString content
  let (parameters, content) ← Der.readOptional (Tag.context 0) content
  guard (parameters.all (namesCurve c))
  let point ← c.publicPoint? (Der.toNat key)
  let (bits, content) ← Der.readOptional (Tag.context 1) content
  guard (bits.all fun b => ((Der.only (Der.readBits b)).any (isPoint c point)))
  guard content.isEmpty
  return (namedKey curveId (Der.write Tag.identifier c.id) (c.encodePoint point), rest)

/-- The public key of a wrapped key on a curve. -/
def ofWrappedCurve? (c : Curve) (k : Wrapped) : Option Bytes := do
  guard (k.algorithm = curveId && namesCurve c k.parameters)
  Der.only (readOnCurve c k.key)

/-! ## The twisted Edwards curve -/

/-- The public key of a wrapped key on the twisted Edwards curve.  A public key that is there must
be the right one. -/
def ofWrappedEdwards? (k : Wrapped) : Option Bytes := do
  guard (k.algorithm = edwardsId && k.parameters.isEmpty)
  let key ← Der.only (Der.read Tag.octetString k.key)
  guard (key.length = 32)
  let bits := Edwards.publicKey key
  guard (k.publicBits.all fun b => b == 0 :: bits)
  return namedKey edwardsId [] bits

/-! ## All algorithms -/

/-- The public key of a wrapped key. -/
def ofWrapped? (k : Wrapped) : Option Bytes :=
  ofWrappedRsa? k <|> Curve.all.findSome? (ofWrappedCurve? · k) <|> ofWrappedEdwards? k

/-- The public key of a key on a curve, in its own form or wrapped. -/
def ofCurveKey? (der : Bytes) : Option Bytes :=
  Curve.all.findSome? fun c =>
    (readOnCurve c der).map (·.1) <|> (readWrapped? der >>= ofWrappedCurve? c)

/-- The public key of a key from a file.  What comes after the key does not matter. -/
def publicKey? (key : Pem.Section) : Option Bytes :=
  match key.kind with
  | .rsaKey => (readRsa key.der).map (·.1)
  | .curveKey => ofCurveKey? key.der
  | .privateKey => readWrapped? key.der >>= ofWrapped?
  | .certificate | .other _ => none

end Webhook.Tls.PrivateKey
