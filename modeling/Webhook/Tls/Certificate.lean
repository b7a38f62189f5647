import Webhook.Tls.Der

/-!
# Certificates

A certificate is read only as far as its public key needs: the frame of all of its parts, its
version, and the frame of its extensions.  An extension that must be understood has to be one of
those that are known, and a known one stands there once.
-/

namespace Webhook.Tls

/-- What can be wrong with a certificate. -/
inductive CertificateFault where
  /-- It is not well-formed. -/
  | badEncoding
  /-- It is not of version three. -/
  | badVersion
  /-- The serial number is empty. -/
  | badSerial
  /-- The algorithm of the signature is named in two ways. -/
  | twoAlgorithms
  /-- A known extension stands there twice. -/
  | repeatedExtension
  /-- An extension that must be understood is not known. -/
  | unknownExtension
  deriving DecidableEq, Repr

/-- The words for what is wrong. -/
def CertificateFault.message : CertificateFault → String
  | badEncoding => "BadEncoding"
  | badVersion => "Other(OtherError(UnsupportedCertVersion))"
  | badSerial => "Other(OtherError(InvalidSerialNumber))"
  | twoAlgorithms => "Other(OtherError(SignatureAlgorithmMismatch))"
  | repeatedExtension => "Other(OtherError(ExtensionValueInvalid))"
  | unknownExtension => "Other(OtherError(UnsupportedCriticalExtension))"

namespace Certificate

open Der (Tag)

/-- A result, or a fault where there is none. -/
def orFault {α : Type} (fault : CertificateFault) : Option α → Except CertificateFault α
  | some a => .ok a
  | none => .error fault

/-- Reads a value of a given tag. -/
def expect (tag : Tag) (bytes : Bytes) : Except CertificateFault (Bytes × Bytes) :=
  orFault .badEncoding (Der.read tag bytes)

/-- The identifier under which all known extensions are numbered. -/
def extensionArc : Bytes := [0x55, 0x1D]

/-- The numbers of the known extensions: the use of the key, other names, constraints on
authorities, constraints on names, where to find revocations, and the extended use of the key. -/
def knownExtensions : List UInt8 := [15, 17, 19, 30, 31, 37]

/-- The extension that is no sequence. -/
def keyUsage : UInt8 := 15

/-- The number of a known extension. -/
def known? (id : Bytes) : Option UInt8 :=
  match id with
  | [a, b, n] => if [a, b] = extensionArc && knownExtensions.contains n then some n else none
  | _ => none

/-- Reads whether an extension must be understood. -/
def readCritical (bytes : Bytes) : Except CertificateFault (Bool × Bytes) :=
  match Der.readOptional Tag.boolean bytes with
  | some (none, rest) => .ok (false, rest)
  | some (some [0xFF], rest) => .ok (true, rest)
  | some (some [0x00], rest) => .ok (false, rest)
  | _ => .error .badEncoding

/-- Reads an extension, given the known ones before it. -/
def checkExtension (seen : List UInt8) (bytes : Bytes) : Except CertificateFault (List UInt8) := do
  let (id, bytes) ← expect Tag.identifier bytes
  let (critical, bytes) ← readCritical bytes
  let (value, rest) ← expect Tag.octetString bytes
  match known? id with
  | none => if critical then throw .unknownExtension
  | some n =>
    if seen.contains n then throw .repeatedExtension
    if n ≠ keyUsage then
      let _ ← orFault .badEncoding (Der.only (Der.read Tag.sequence value))
  if rest.isEmpty then return (known? id).toList ++ seen else throw .badEncoding

/-- Reads extensions, given the known ones before them.  Each of them takes at least one byte. -/
def checkExtensions : (bound : Nat) → List UInt8 → Bytes → Except CertificateFault Unit
  | _, _, [] => .ok ()
  | 0, _, _ => .error .badEncoding
  | bound + 1, seen, bytes => do
    let (extension, rest) ← expect Tag.sequence bytes
    checkExtensions bound (← checkExtension seen extension) rest

/-- Checks the version. -/
def checkVersion (content : Bytes) : Except CertificateFault Unit := do
  let (content, rest) ← expect Tag.integer content
  match ← orFault .badEncoding (Der.natural? content), rest with
  | [2], [] => return ()
  | [_], _ => throw .badVersion
  | _, _ => throw .badEncoding

/-- The public key of what is signed, given the algorithm that the signature names. -/
def publicKeyOfSigned (signed algorithm : Bytes) : Except CertificateFault Bytes := do
  let (version, bytes) ← expect (Tag.context 0) signed
  checkVersion version
  let (serial, bytes) ← expect Tag.integer bytes
  if serial.isEmpty then throw .badSerial
  let (named, bytes) ← expect Tag.sequence bytes
  if named ≠ algorithm then throw .twoAlgorithms
  let (_, bytes) ← expect Tag.sequence bytes
  let (_, bytes) ← expect Tag.sequence bytes
  let (_, bytes) ← expect Tag.sequence bytes
  let (publicKey, bytes) ← expect Tag.sequence bytes
  if bytes.isEmpty then return publicKey
  let tagged ← orFault .badEncoding (Der.only (Der.read (Tag.context 3) bytes))
  let extensions ← orFault .badEncoding (Der.only (Der.read Tag.sequence tagged))
  checkExtensions extensions.length [] extensions
  return publicKey

/-- The public key of a certificate, with its algorithm. -/
def publicKey (der : Bytes) : Except CertificateFault Bytes := do
  let content ← orFault .badEncoding (Der.only (Der.read Tag.sequence der))
  let (signed, bytes) ← expect Tag.sequence content
  let (algorithm, bytes) ← expect Tag.sequence bytes
  let _ ← orFault .badEncoding (Der.only (Der.readBits bytes))
  return Der.write Tag.sequence (← publicKeyOfSigned signed algorithm)

end Certificate
end Webhook.Tls
