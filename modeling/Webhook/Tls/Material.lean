import Webhook.SystemFault
import Webhook.Tls.Certificate
import Webhook.Tls.PrivateKey

/-!
# Certificates and keys from files

A server that encrypts needs a chain of certificates and the private key of the first one.  Both
files are opened before either is read, and the file of certificates is read as a whole before that
of the key, which is read up to its first private key.  Other sections do not matter, so that one
file can hold both.

Whether the chain and the key belong together is decided at the end.  `loadWith` leaves this to its
caller, and `accept?` is the decision that is taken: the key must be understood, and the first
certificate must be well-formed and name the public key that belongs to the key.
-/

namespace Webhook.Tls

/-! ## Files -/

/-- What is found under a path. -/
inductive FileState where
  /-- The file cannot be opened. -/
  | closed (cause : SystemFault)
  /-- A directory, which can be opened but not read. -/
  | directory
  /-- A file with some bytes. -/
  | file (bytes : Bytes)
  deriving DecidableEq, Repr

/-- Nothing stands under the path. -/
def FileState.missing : FileState := .closed .missing

/-- The two files of a server. -/
inductive Role where
  | certificate
  | key
  deriving DecidableEq, Repr

/-- The word for a file. -/
def Role.name : Role → String
  | certificate => "certificate"
  | key => "key"

/-- Where the two files stand. -/
structure Paths where
  /-- The path of the certificates. -/
  certificate : String
  /-- The path of the private key. -/
  key : String
  deriving DecidableEq, Repr

/-- The path of a file. -/
def Paths.of (paths : Paths) : Role → String
  | .certificate => paths.certificate
  | .key => paths.key

/-! ## Faults -/

/-- Why a file is not read. -/
inductive ReadFault where
  /-- The operating system refuses. -/
  | system (f : SystemFault)
  /-- Its sections are not well-formed. -/
  | pem (f : Pem.Fault)
  deriving DecidableEq, Repr

/-- The words for what is wrong. -/
def ReadFault.message : ReadFault → String
  | system f => f.message
  | pem f => f.message

/-- Why a chain and a key are not accepted. -/
inductive PairFault where
  /-- The key is not understood. -/
  | badKey
  /-- The first certificate is not well-formed. -/
  | badCertificate (f : CertificateFault)
  /-- The certificate is for another key. -/
  | mismatch
  deriving DecidableEq, Repr

/-- The words for what is wrong. -/
def PairFault.message : PairFault → String
  | badKey => "unexpected error: failed to parse private key as RSA, ECDSA, or EdDSA"
  | badCertificate f => "invalid peer certificate: " ++ f.message
  | mismatch => "keys may not be consistent: KeyMismatch"

/-- What can be wrong with the two files. -/
inductive MaterialFault where
  /-- A file cannot be read. -/
  | unreadable (role : Role) (path : String) (cause : ReadFault)
  /-- The file of certificates holds none. -/
  | noCertificate (path : String)
  /-- The file of the key holds none. -/
  | noKey (path : String)
  /-- The chain and the key are not accepted. -/
  | refused (cause : PairFault)
  deriving DecidableEq, Repr

namespace MaterialFault

/-- The words for the cause, where there is one. -/
def cause? : MaterialFault → Option String
  | unreadable _ _ cause => some cause.message
  | noCertificate _ | noKey _ => none
  | refused cause => some cause.message

/-- The words for what is wrong. -/
def message : MaterialFault → String
  | unreadable role path cause => "cannot read " ++ role.name ++ " " ++ path ++ ": " ++ cause.message
  | noCertificate path => "no certificate found in " ++ path
  | noKey path => "no private key found in " ++ path
  | refused cause => "invalid certificate or key: " ++ cause.message

end MaterialFault

/-! ## Loading -/

/-- A chain of certificates and a private key. -/
structure Material where
  /-- The certificates; the first one is for the key. -/
  chain : List Bytes
  /-- The private key. -/
  key : Pem.Section
  deriving DecidableEq, Repr

/-- The protocols that are offered, the preferred one first. -/
def protocols : List String := ["h2", "http/1.1"]

/-- What a server encrypts with. -/
structure Setup where
  /-- The certificates and the private key. -/
  material : Material
  /-- The protocols that it offers, the preferred one first. -/
  offers : List String
  deriving DecidableEq, Repr

/-- Whether the file can be opened. -/
def FileState.checkOpen (role : Role) (paths : Paths) : FileState → Except MaterialFault Unit
  | .closed cause => .error (.unreadable role (paths.of role) (.system cause))
  | .directory | .file _ => .ok ()

/-- Reads what a reader finds in a file. -/
def FileState.readWith {α : Type} (role : Role) (paths : Paths) (reader : Bytes → Except Pem.Fault α) :
    FileState → Except MaterialFault α
  | .closed cause => .error (.unreadable role (paths.of role) (.system cause))
  | .directory => .error (.unreadable role (paths.of role) (.system .isDirectory))
  | .file bytes => (reader bytes).mapError fun f => .unreadable role (paths.of role) (.pem f)

/-- Loads the chain and the key, given what says why they are not accepted. -/
def loadWith (accept? : Material → Option PairFault) (paths : Paths) (certificate key : FileState) :
    Except MaterialFault Setup := do
  certificate.checkOpen .certificate paths
  key.checkOpen .key paths
  let chain ← certificate.readWith .certificate paths Pem.certificates
  if chain.isEmpty then throw (.noCertificate paths.certificate)
  match ← key.readWith .key paths Pem.privateKey with
  | none => throw (.noKey paths.key)
  | some key =>
    let material : Material := ⟨chain, key⟩
    match accept? material with
    | some fault => throw (.refused fault)
    | none => return ⟨material, protocols⟩

/-- Why a chain and a key are not accepted, if they are not. -/
def accept? (m : Material) : Option PairFault :=
  match PrivateKey.publicKey? m.key with
  | none => some .badKey
  | some ofKey =>
    match Certificate.publicKey (m.chain.headD []) with
    | .error f => some (.badCertificate f)
    | .ok ofCertificate => if ofKey = ofCertificate then none else some .mismatch

/-- Loads the chain and the key. -/
def load (paths : Paths) (certificate key : FileState) : Except MaterialFault Setup :=
  loadWith accept? paths certificate key

end Webhook.Tls
