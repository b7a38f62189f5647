import Webhook.Proofs.Tls.Asides
import Webhook.Tls.Material

/-!
# The stages of loading a chain and a key

Loading goes through seven stages, and each of them can fail on its own (`Fails`): what a stage asks
of the two files does not depend on the stages before it.  Loading always has an outcome
(`outcome_loadWith`).  It is the fault of the first stage that fails (`loadWith_eq_error_iff`), and
something is loaded only if all of them pass (`loadWith_eq_ok_iff`).

What the stages ask of a file that can be read depends on a few of its sections only, so there are
many changes to the files that change no outcome.  They are put together with the stages in
`loadWith_stages`.
-/

namespace Webhook.Tls

open Pem (Aside Closed Kind Parted Section)

/-! ## Stages -/

/-- A stage of loading. -/
inductive Stage where
  /-- The file of certificates is opened. -/
  | openCertificate
  /-- The file of the key is opened. -/
  | openKey
  /-- The file of certificates is read. -/
  | readCertificate
  /-- A certificate is looked for. -/
  | findCertificate
  /-- The file of the key is read, up to the first one. -/
  | readKey
  /-- A private key is looked for. -/
  | findKey
  /-- The chain and the key are accepted. -/
  | acceptPair
  deriving DecidableEq, Repr

/-- The place of a stage in their order. -/
def Stage.place : Stage → Nat
  | openCertificate => 0
  | openKey => 1
  | readCertificate => 2
  | findCertificate => 3
  | readKey => 4
  | findKey => 5
  | acceptPair => 6

/-- A stage is known by its place. -/
theorem Stage.place_injective {a b : Stage} (h : a.place = b.place) : a = b := by
  cases a <;> cases b <;> first | rfl | cases h

/-- The certificates that a file holds, up to the first thing that is wrong. -/
def certificatesIn (bytes : Bytes) : List Bytes :=
  ((Pem.scan bytes).sections.filter (·.kind = .certificate)).map (·.der)

/-- The first private key that a file holds before anything is wrong. -/
def keyIn? (bytes : Bytes) : Option Section := (Pem.scan bytes).sections.find? (·.kind.isKey)

section

variable (accept? : Material → Option PairFault) (paths : Paths) (certificate key : FileState)

/-- A stage fails, whatever the others do. -/
inductive Fails : Stage → MaterialFault → Prop where
  /-- The file of certificates cannot be opened. -/
  | openCertificate {cause : SystemFault} (h : certificate = .closed cause) :
    Fails .openCertificate (.unreadable .certificate paths.certificate (.system cause))
  /-- The file of the key cannot be opened. -/
  | openKey {cause : SystemFault} (h : key = .closed cause) :
    Fails .openKey (.unreadable .key paths.key (.system cause))
  /-- The certificates are a directory. -/
  | certificateDirectory (h : certificate = .directory) :
    Fails .readCertificate (.unreadable .certificate paths.certificate (.system .isDirectory))
  /-- Something is wrong anywhere in the file of certificates. -/
  | certificatePem {bytes : Bytes} {f : Pem.Fault} (h : certificate = .file bytes)
    (hfault : (Pem.scan bytes).fault = some f) :
    Fails .readCertificate (.unreadable .certificate paths.certificate (.pem f))
  /-- There is no certificate. -/
  | findCertificate {bytes : Bytes} (h : certificate = .file bytes)
    (hnone : certificatesIn bytes = []) : Fails .findCertificate (.noCertificate paths.certificate)
  /-- The key is a directory. -/
  | keyDirectory (h : key = .directory) :
    Fails .readKey (.unreadable .key paths.key (.system .isDirectory))
  /-- Something is wrong in the file of the key, before any private key. -/
  | keyPem {bytes : Bytes} {f : Pem.Fault} (h : key = .file bytes) (hnone : keyIn? bytes = none)
    (hfault : (Pem.scan bytes).fault = some f) :
    Fails .readKey (.unreadable .key paths.key (.pem f))
  /-- There is no private key. -/
  | findKey {bytes : Bytes} (h : key = .file bytes) (hnone : keyIn? bytes = none) :
    Fails .findKey (.noKey paths.key)
  /-- The chain and the first private key are not accepted. -/
  | acceptPair {bytes bytes' : Bytes} {first : Section} {cause : PairFault}
    (h : certificate = .file bytes) (h' : key = .file bytes') (hkey : keyIn? bytes' = some first)
    (hrefused : accept? ⟨certificatesIn bytes, first⟩ = some cause) :
    Fails .acceptPair (.refused cause)

/-- The stages before a place pass. -/
def PassedUpTo (n : Nat) : Prop :=
  ∀ stage f, stage.place < n → ¬ Fails accept? paths certificate key stage f

/-- A stage fails, and none before it does. -/
structure FailsFirst (stage : Stage) (f : MaterialFault) : Prop where
  /-- It fails. -/
  fails : Fails accept? paths certificate key stage f
  /-- Those before it pass. -/
  earlier : PassedUpTo accept? paths certificate key stage.place

/-- All stages pass, and what is loaded is what they found. -/
structure Passes (setup : Setup) : Prop where
  /-- No stage fails. -/
  passed : ∀ stage f, ¬ Fails accept? paths certificate key stage f
  /-- There is a certificate. -/
  nonempty : setup.material.chain ≠ []
  /-- The certificates are those of their file. -/
  chain : ∃ bytes, certificate = .file bytes ∧ setup.material.chain = certificatesIn bytes
  /-- The key is the first one of its file. -/
  key : ∃ bytes, key = .file bytes ∧ keyIn? bytes = some setup.material.key
  /-- Both protocols are offered. -/
  offers : setup.offers = ["h2", "http/1.1"]

end

variable {accept? : Material → Option PairFault} {paths : Paths} {certificate key : FileState}

/-- A stage fails in one way. -/
theorem Fails.unique {stage : Stage} {f f' : MaterialFault}
    (h : Fails accept? paths certificate key stage f)
    (h' : Fails accept? paths certificate key stage f') : f = f' := by
  cases h <;> cases h' <;> simp_all

theorem passedUpTo_zero : PassedUpTo accept? paths certificate key 0 :=
  fun _ _ hplace => absurd hplace (Nat.not_lt_zero _)

theorem PassedUpTo.next (stage : Stage) (h : PassedUpTo accept? paths certificate key stage.place)
    (hstage : ∀ f, ¬ Fails accept? paths certificate key stage f) :
    PassedUpTo accept? paths certificate key (stage.place + 1) := by
  intro s f hplace
  rcases Nat.lt_succ_iff_lt_or_eq.mp hplace with hlt | heq
  · exact h s f hlt
  · rw [Stage.place_injective heq]
    exact hstage f

/-! ## What is read -/

theorem certificates_of_fault {bytes : Bytes} {f : Pem.Fault} (h : (Pem.scan bytes).fault = some f) :
    Pem.certificates bytes = .error f := by
  rw [Pem.certificates]
  simp only [h]

theorem certificates_of_no_fault {bytes : Bytes} (h : (Pem.scan bytes).fault = none) :
    Pem.certificates bytes = .ok (certificatesIn bytes) := by
  rw [Pem.certificates]
  simp only [h]
  rfl

theorem privateKey_of_fault {bytes : Bytes} {f : Pem.Fault} (hnone : keyIn? bytes = none)
    (h : (Pem.scan bytes).fault = some f) : Pem.privateKey bytes = .error f := by
  rw [keyIn?] at hnone
  rw [Pem.privateKey]
  simp only [hnone, h]

theorem privateKey_of_no_fault {bytes : Bytes} (h : (Pem.scan bytes).fault = none) :
    Pem.privateKey bytes = .ok (keyIn? bytes) := by
  rw [Pem.privateKey, keyIn?]
  cases hkey : (Pem.scan bytes).sections.find? (·.kind.isKey) <;> simp only [h]

theorem privateKey_of_key {bytes : Bytes} {first : Section} (h : keyIn? bytes = some first) :
    Pem.privateKey bytes = .ok (some first) := by
  rw [keyIn?] at h
  rw [Pem.privateKey]
  simp only [h]

theorem checkOpen_of_open {state : FileState} (hopen : ∀ cause, state ≠ .closed cause)
    (role : Role) : state.checkOpen role paths = .ok () := by
  cases state with
  | closed cause => exact absurd rfl (hopen cause)
  | directory | file => rfl

theorem loadWith_of_key_closed (hopen : ∀ cause, certificate ≠ .closed cause)
    (cause : SystemFault) : loadWith accept? paths certificate (.closed cause)
      = .error (.unreadable .key paths.key (.system cause)) := by
  rw [loadWith, checkOpen_of_open hopen]
  rfl

section

variable (hopen : ∀ cause, key ≠ .closed cause)
include hopen

theorem loadWith_of_directory : loadWith accept? paths .directory key
    = .error (.unreadable .certificate paths.certificate (.system .isDirectory)) := by
  rw [loadWith, checkOpen_of_open hopen]
  rfl

theorem loadWith_of_fault {bytes : Bytes} {f : Pem.Fault}
    (hfault : (Pem.scan bytes).fault = some f) : loadWith accept? paths (.file bytes) key
      = .error (.unreadable .certificate paths.certificate (.pem f)) := by
  rw [loadWith, checkOpen_of_open hopen, FileState.readWith, certificates_of_fault hfault]
  rfl

theorem loadWith_of_no_certificate {bytes : Bytes} (hfault : (Pem.scan bytes).fault = none)
    (hnone : certificatesIn bytes = []) :
    loadWith accept? paths (.file bytes) key = .error (.noCertificate paths.certificate) := by
  rw [loadWith, checkOpen_of_open hopen, FileState.readWith, certificates_of_no_fault hfault, hnone]
  rfl

end

section

variable {bytes bytes' : Bytes} (hfault : (Pem.scan bytes).fault = none)
  (hsome : certificatesIn bytes ≠ [])
include hfault hsome

/-- Once there are certificates, the outcome is up to the key. -/
theorem loadWith_of_key_unreadable {cause : MaterialFault} (hopen : ∀ cause, key ≠ .closed cause)
    (hread : key.readWith .key paths Pem.privateKey = .error cause) :
    loadWith accept? paths (.file bytes) key = .error cause := by
  have hempty : (certificatesIn bytes).isEmpty = false := by simpa using hsome
  rw [loadWith, checkOpen_of_open hopen, FileState.readWith, certificates_of_no_fault hfault, hread]
  simp only [FileState.checkOpen, Except.mapError, bind, Except.bind, hempty]
  rfl

theorem loadWith_of_no_key (hread : Pem.privateKey bytes' = .ok none) :
    loadWith accept? paths (.file bytes) (.file bytes') = .error (.noKey paths.key) := by
  have hempty : (certificatesIn bytes).isEmpty = false := by simpa using hsome
  rw [loadWith, FileState.readWith, certificates_of_no_fault hfault, FileState.readWith, hread]
  simp only [FileState.checkOpen, Except.mapError, bind, Except.bind, hempty]
  rfl

theorem loadWith_of_refused {first : Section} {cause : PairFault}
    (hread : Pem.privateKey bytes' = .ok (some first))
    (hrefused : accept? ⟨certificatesIn bytes, first⟩ = some cause) :
    loadWith accept? paths (.file bytes) (.file bytes') = .error (.refused cause) := by
  have hempty : (certificatesIn bytes).isEmpty = false := by simpa using hsome
  rw [loadWith, FileState.readWith, certificates_of_no_fault hfault, FileState.readWith, hread]
  simp only [FileState.checkOpen, Except.mapError, bind, Except.bind, hempty, hrefused]
  rfl

theorem loadWith_of_accepted {first : Section} (hread : Pem.privateKey bytes' = .ok (some first))
    (haccepted : accept? ⟨certificatesIn bytes, first⟩ = none) :
    loadWith accept? paths (.file bytes) (.file bytes')
      = .ok ⟨⟨certificatesIn bytes, first⟩, protocols⟩ := by
  have hempty : (certificatesIn bytes).isEmpty = false := by simpa using hsome
  rw [loadWith, FileState.readWith, certificates_of_no_fault hfault, FileState.readWith, hread]
  simp only [FileState.checkOpen, Except.mapError, bind, Except.bind, hempty, haccepted]
  rfl

end

/-! ## The outcome -/

/-- One of two things becomes of the two files. -/
inductive Outcome (accept? : Material → Option PairFault) (paths : Paths)
    (certificate key : FileState) : Except MaterialFault Setup → Prop where
  /-- A stage fails. -/
  | error {stage : Stage} {f : MaterialFault}
    (h : FailsFirst accept? paths certificate key stage f) :
    Outcome accept? paths certificate key (.error f)
  /-- Everything passes. -/
  | ok {setup : Setup} (h : Passes accept? paths certificate key setup) :
    Outcome accept? paths certificate key (.ok setup)

/-- Reading the key goes well if nothing is wrong before the first one. -/
theorem not_fails_readKey {bytes : Bytes}
    (h : keyIn? bytes = none → (Pem.scan bytes).fault = none) (f : MaterialFault) :
    ¬ Fails accept? paths certificate (.file bytes) .readKey f := by
  intro hfails
  cases hfails with
  | keyDirectory heq => cases heq
  | keyPem heq hnone hfault =>
      cases heq
      cases (h hnone).symm.trans hfault

/-- What becomes of a file that can be read as that of the key. -/
theorem outcome_of_certificates {bytes bytes' : Bytes} (hfault : (Pem.scan bytes).fault = none)
    (hsome : certificatesIn bytes ≠ [])
    (h4 : PassedUpTo accept? paths (.file bytes) (.file bytes') 4) :
    Outcome accept? paths (.file bytes) (.file bytes')
      (loadWith accept? paths (.file bytes) (.file bytes')) := by
  cases hkey : keyIn? bytes' with
  | none =>
      cases hfault' : (Pem.scan bytes').fault with
      | some f =>
          have hread : (FileState.file bytes').readWith .key paths Pem.privateKey
              = .error (.unreadable .key paths.key (.pem f)) := by
            rw [FileState.readWith, privateKey_of_fault hkey hfault']
            rfl
          rw [loadWith_of_key_unreadable hfault hsome (by rintro _ ⟨⟩) hread]
          exact .error ⟨.keyPem rfl hkey hfault', h4⟩
      | none =>
          have h5 : PassedUpTo accept? paths (.file bytes) (.file bytes') 5 :=
            h4.next .readKey (not_fails_readKey fun _ => hfault')
          have hread := (privateKey_of_no_fault hfault').trans (congrArg _ hkey)
          rw [loadWith_of_no_key hfault hsome hread]
          exact .error ⟨.findKey rfl hkey, h5⟩
  | some first =>
      have h5 : PassedUpTo accept? paths (.file bytes) (.file bytes') 5 :=
        h4.next .readKey (not_fails_readKey fun hnone => nomatch hkey.symm.trans hnone)
      have h6 : PassedUpTo accept? paths (.file bytes) (.file bytes') 6 := by
        refine h5.next .findKey fun f hfails => ?_
        cases hfails with
        | findKey h hnone =>
            cases h
            cases hkey.symm.trans hnone
      have hread := privateKey_of_key hkey
      cases haccept : accept? ⟨certificatesIn bytes, first⟩ with
      | some cause =>
          rw [loadWith_of_refused hfault hsome hread haccept]
          exact .error ⟨.acceptPair rfl rfl hkey haccept, h6⟩
      | none =>
          have h7 : PassedUpTo accept? paths (.file bytes) (.file bytes') 7 := by
            refine h6.next .acceptPair fun f hfails => ?_
            cases hfails with
            | acceptPair h h' hkey' hrefused =>
                cases h
                cases h'
                obtain rfl := Option.some.inj (hkey.symm.trans hkey')
                cases haccept.symm.trans hrefused
          rw [loadWith_of_accepted hfault hsome hread haccept]
          refine .ok ⟨fun stage f => h7 stage f ?_, hsome, ⟨bytes, rfl, rfl⟩, ⟨bytes', rfl, hkey⟩,
            rfl⟩
          cases stage <;> decide

/-- The stages are gone through in their order, up to one that fails. -/
theorem outcome_loadWith (accept? : Material → Option PairFault) (paths : Paths)
    (certificate key : FileState) :
    Outcome accept? paths certificate key (loadWith accept? paths certificate key) := by
  have h0 : PassedUpTo accept? paths certificate key 0 := passedUpTo_zero
  by_cases hclosed : ∃ cause, certificate = .closed cause
  · obtain ⟨cause, rfl⟩ := hclosed
    exact .error ⟨.openCertificate rfl, h0⟩
  have h1 : PassedUpTo accept? paths certificate key 1 := by
    refine h0.next .openCertificate fun f hfails => ?_
    cases hfails with
    | openCertificate h => exact hclosed ⟨_, h⟩
  by_cases hclosed' : ∃ cause, key = .closed cause
  · obtain ⟨cause, rfl⟩ := hclosed'
    rw [loadWith_of_key_closed fun cause h => hclosed ⟨cause, h⟩]
    exact .error ⟨.openKey rfl, h1⟩
  have hopen : ∀ cause, key ≠ .closed cause := fun cause h => hclosed' ⟨cause, h⟩
  have h2 : PassedUpTo accept? paths certificate key 2 := by
    refine h1.next .openKey fun f hfails => ?_
    cases hfails with
    | openKey h => exact hopen _ h
  cases certificate with
  | closed cause => exact absurd ⟨cause, rfl⟩ hclosed
  | directory =>
      rw [loadWith_of_directory hopen]
      exact .error ⟨.certificateDirectory rfl, h2⟩
  | file bytes =>
      cases hfault : (Pem.scan bytes).fault with
      | some f =>
          rw [loadWith_of_fault hopen hfault]
          exact .error ⟨.certificatePem rfl hfault, h2⟩
      | none =>
          have h3 : PassedUpTo accept? paths (.file bytes) key 3 := by
            refine h2.next .readCertificate fun f hfails => ?_
            cases hfails with
            | certificateDirectory h => cases h
            | certificatePem h hfault' =>
                cases h
                cases hfault.symm.trans hfault'
          by_cases hsome : certificatesIn bytes = []
          · rw [loadWith_of_no_certificate hopen hfault hsome]
            exact .error ⟨.findCertificate rfl hsome, h3⟩
          have h4 : PassedUpTo accept? paths (.file bytes) key 4 := by
            refine h3.next .findCertificate fun f hfails => ?_
            cases hfails with
            | findCertificate h hnone =>
                cases h
                exact hsome hnone
          cases key with
          | closed cause => exact absurd rfl (hopen cause)
          | directory =>
              rw [loadWith_of_key_unreadable hfault hsome hopen rfl]
              exact .error ⟨.keyDirectory rfl, h4⟩
          | file bytes' => exact outcome_of_certificates hfault hsome h4

/-- The files decide what is loaded. -/
theorem Passes.unique {setup setup' : Setup} (h : Passes accept? paths certificate key setup)
    (h' : Passes accept? paths certificate key setup') : setup = setup' := by
  obtain ⟨⟨chain, first⟩, offers⟩ := setup
  obtain ⟨⟨chain', first'⟩, offers'⟩ := setup'
  obtain ⟨bytes, rfl, hchain⟩ := h.chain
  obtain ⟨_, ⟨⟩, hchain'⟩ := h'.chain
  obtain ⟨bytes', rfl, hkey⟩ := h.key
  obtain ⟨_, ⟨⟩, hkey'⟩ := h'.key
  obtain rfl : chain = chain' := hchain.trans hchain'.symm
  obtain rfl : first = first' := Option.some.inj (hkey.symm.trans hkey')
  obtain rfl : offers = offers' := h.offers.trans h'.offers.symm
  rfl

/-- Two stages cannot both fail first: the later one asks that the earlier one does not fail. -/
theorem FailsFirst.unique {stage stage' : Stage} {f f' : MaterialFault}
    (h : FailsFirst accept? paths certificate key stage f)
    (h' : FailsFirst accept? paths certificate key stage' f') : f = f' := by
  rcases Nat.lt_trichotomy stage.place stage'.place with hlt | heq | hlt
  · exact absurd h.fails (h'.earlier stage f hlt)
  · obtain rfl := Stage.place_injective heq
    exact h.fails.unique h'.fails
  · exact absurd h'.fails (h.earlier stage' f' hlt)

theorem loadWith_eq_error_iff {f : MaterialFault} :
    loadWith accept? paths certificate key = .error f ↔
      ∃ stage, FailsFirst accept? paths certificate key stage f := by
  have houtcome := outcome_loadWith accept? paths certificate key
  constructor
  · intro h
    rw [h] at houtcome
    cases houtcome with
    | error hfirst => exact ⟨_, hfirst⟩
  · rintro ⟨stage, hfirst⟩
    cases hload : loadWith accept? paths certificate key with
    | error f' =>
        rw [hload] at houtcome
        cases houtcome with
        | error hfirst' => rw [hfirst.unique hfirst']
    | ok setup =>
        rw [hload] at houtcome
        cases houtcome with
        | ok hpasses => exact absurd hfirst.fails (hpasses.passed stage f)

theorem loadWith_eq_ok_iff {setup : Setup} : loadWith accept? paths certificate key = .ok setup ↔
    Passes accept? paths certificate key setup := by
  have houtcome := outcome_loadWith accept? paths certificate key
  constructor
  · intro h
    rw [h] at houtcome
    cases houtcome with
    | ok hpasses => exact hpasses
  · intro hpasses
    cases hload : loadWith accept? paths certificate key with
    | error f =>
        obtain ⟨stage, hfirst⟩ := loadWith_eq_error_iff.mp hload
        exact absurd hfirst.fails (hpasses.passed stage f)
    | ok setup' =>
        rw [hload] at houtcome
        cases houtcome with
        | ok hpasses' => rw [hpasses.unique hpasses']

/-- Something is loaded when no stage fails. -/
theorem exists_loaded_iff : (∃ setup, loadWith accept? paths certificate key = .ok setup) ↔
    ∀ stage f, ¬ Fails accept? paths certificate key stage f := by
  constructor
  · rintro ⟨setup, h⟩
    exact (loadWith_eq_ok_iff.mp h).passed
  · intro hpassed
    cases hload : loadWith accept? paths certificate key with
    | error f =>
        obtain ⟨stage, hfirst⟩ := loadWith_eq_error_iff.mp hload
        exact absurd hfirst.fails (hpassed stage f)
    | ok setup => exact ⟨setup, rfl⟩

/-! ## Files with the same outcome -/

theorem loadWith_congr_certificates {bytes bytes' : Bytes}
    (h : Pem.certificates bytes = Pem.certificates bytes') :
    loadWith accept? paths (.file bytes) key = loadWith accept? paths (.file bytes') key := by
  have hread : (FileState.file bytes).readWith .certificate paths Pem.certificates
      = (FileState.file bytes').readWith .certificate paths Pem.certificates := by
    rw [FileState.readWith, FileState.readWith, h]
  rw [loadWith, hread]
  rfl

theorem loadWith_congr_privateKey {bytes bytes' : Bytes}
    (h : Pem.privateKey bytes = Pem.privateKey bytes') :
    loadWith accept? paths certificate (.file bytes)
      = loadWith accept? paths certificate (.file bytes') := by
  have hread : (FileState.file bytes).readWith .key paths Pem.privateKey
      = (FileState.file bytes').readWith .key paths Pem.privateKey := by
    rw [FileState.readWith, FileState.readWith, h]
  rw [loadWith, hread]
  rfl

/-- A text without certificates that stands where no section is open does not matter in the file of
certificates. -/
theorem loadWith_certificate_insert {before extra after : Bytes} (hbefore : Closed before)
    (hextra : Aside (· = .certificate) extra) (hparted : Parted extra after) :
    loadWith accept? paths (.file (before ++ (extra ++ after))) key
      = loadWith accept? paths (.file (before ++ after)) key :=
  loadWith_congr_certificates (Pem.certificates_congr (hextra.scan_insert hbefore hparted))

/-- A text without private keys that stands where no section is open does not matter in the file of
the key. -/
theorem loadWith_key_insert {before extra after : Bytes} (hbefore : Closed before)
    (hextra : Aside Kind.isKey extra) (hparted : Parted extra after) :
    loadWith accept? paths certificate (.file (before ++ (extra ++ after)))
      = loadWith accept? paths certificate (.file (before ++ after)) :=
  loadWith_congr_privateKey (Pem.privateKey_congr (hextra.scan_insert hbefore hparted))

theorem closed_nil : Closed [] :=
  Aside.closed (.nil : Aside Kind.isKey []) Pem.whole_nil

/-- A chain without private keys serves as it does with a key after it. -/
theorem loadWith_chain_append {chain rest : Bytes} (hchain : Aside Kind.isKey chain)
    (hrest : Aside (· = .certificate) rest) (hparted : Parted chain rest) :
    loadWith accept? paths (.file (chain ++ rest)) key
      = loadWith accept? paths (.file chain) key := by
  have hlast : Parted rest [] := .inr rfl
  rcases hparted with hwhole | rfl
  · calc loadWith accept? paths (.file (chain ++ rest)) key
        = loadWith accept? paths (.file (chain ++ (rest ++ []))) key := by rw [List.append_nil]
      _ = loadWith accept? paths (.file (chain ++ [])) key :=
          loadWith_certificate_insert (hchain.closed hwhole) hrest hlast
      _ = loadWith accept? paths (.file chain) key := by rw [List.append_nil]
  · rw [List.append_nil]

/-- The outcome of loading is the fault of the first stage that fails.  When none fails, all the
certificates of their file are loaded and the first private key of its file, and the server offers
the second version of the protocol before the first one.

Texts that hold only sections of other kinds do not matter in either file, and neither does anything
after the first private key.  So one file can serve as both.  Only the last line of a file can be
without an end, so a text whose last line is has nothing after it. -/
theorem loadWith_stages (accept? : Material → Option PairFault) (paths : Paths) :
    (∀ certificate key,
      (∀ f, loadWith accept? paths certificate key = .error f ↔
        ∃ stage, FailsFirst accept? paths certificate key stage f) ∧
      (∀ setup, loadWith accept? paths certificate key = .ok setup ↔
        Passes accept? paths certificate key setup) ∧
      ((∃ setup, loadWith accept? paths certificate key = .ok setup) ↔
        ∀ stage f, ¬ Fails accept? paths certificate key stage f)) ∧
    (∀ before extra after key, Closed before → Aside (· = .certificate) extra →
      Parted extra after →
      loadWith accept? paths (.file (before ++ (extra ++ after))) key
        = loadWith accept? paths (.file (before ++ after)) key) ∧
    (∀ certificate before extra after, Closed before → Aside Kind.isKey extra →
      Parted extra after →
      loadWith accept? paths certificate (.file (before ++ (extra ++ after)))
        = loadWith accept? paths certificate (.file (before ++ after))) ∧
    (∀ certificate bytes first rest, keyIn? bytes = some first →
      loadWith accept? paths certificate (.file (bytes ++ rest))
        = loadWith accept? paths certificate (.file bytes)) ∧
    (∀ chain key, Aside Kind.isKey chain → Aside (· = .certificate) key → Parted chain key →
      loadWith accept? paths (.file (chain ++ key)) (.file (chain ++ key))
        = loadWith accept? paths (.file chain) (.file key)) := by
  refine ⟨fun certificate key => ⟨fun f => loadWith_eq_error_iff, fun setup => loadWith_eq_ok_iff,
    exists_loaded_iff⟩, fun before extra after key hbefore hextra hparted => ?_,
    fun certificate before extra after hbefore hextra hparted => ?_,
    fun certificate bytes first rest hfirst => ?_, fun chain key hchain hkey hparted => ?_⟩
  · exact loadWith_certificate_insert hbefore hextra hparted
  · exact loadWith_key_insert hbefore hextra hparted
  · have hread := privateKey_of_key hfirst
    exact loadWith_congr_privateKey ((Pem.privateKey_append hread rest).trans hread.symm)
  · calc loadWith accept? paths (.file (chain ++ key)) (.file (chain ++ key))
        = loadWith accept? paths (.file chain) (.file (chain ++ key)) :=
          loadWith_chain_append hchain hkey hparted
      _ = loadWith accept? paths (.file chain) (.file ([] ++ (chain ++ key))) := by
          rw [List.nil_append]
      _ = loadWith accept? paths (.file chain) (.file ([] ++ key)) :=
          loadWith_key_insert closed_nil hchain hparted
      _ = loadWith accept? paths (.file chain) (.file key) := by rw [List.nil_append]

/-- A section with one line of text, and what stands on its last line after the dashes. -/
def sampleSection (label line more : String) : Bytes :=
  Pem.startLine (Utf8.encode label) [0x20] 0x0A
    ++ ([Utf8.encode line ++ [0x0A]].flatten ++ Pem.stopLine (Utf8.encode label) (Utf8.encode more))

theorem isSection_sample {label line more : String} (hlabel : Pem.IsLabel (Utf8.encode label))
    (hne : Utf8.encode line ≠ []) (hline : ∀ c ∈ Utf8.encode line, Pem.isLineEnd c = false)
    (hbegin : Pem.beginMark.isPrefixOf (Utf8.encode line ++ [0x0A]) = false)
    (hends : Pem.endsSection (Utf8.encode label) (Utf8.encode line ++ [0x0A]) = false)
    (hmore : ∀ c ∈ (Utf8.encode more).dropLast, Pem.isLineEnd c = false) :
    Pem.IsSection (Utf8.encode label) [Utf8.encode line ++ [0x0A]]
      (sampleSection label line more) := by
  have hblank : ∀ c ∈ [(0x20 : UInt8)], c = 0x20 := List.forall_mem_singleton.mpr rfl
  refine ⟨hlabel, fun body hbody => ?_, [0x20], 0x0A, _, hblank, rfl, hmore, rfl⟩
  rw [List.mem_singleton.mp hbody]
  exact ⟨⟨Pem.isLine_append hne hline nofun, Pem.whole_concat _ rfl⟩, hbegin, hends⟩

/-- A file with a certificate. -/
def sampleChain : Bytes := sampleSection "CERTIFICATE" "AA==" " \n" ++ []

/-- A file with a private key after a remark, whose last line has no end. -/
def sampleKey : Bytes := Utf8.encode "the key\n" ++ (sampleSection "PRIVATE KEY" "AQ==" "" ++ [])

theorem loadWith_stages_oneFile :
    loadWith (fun _ => none) ⟨"tls.crt", "tls.key"⟩ (.file (sampleChain ++ sampleKey))
        (.file (sampleChain ++ sampleKey))
      = loadWith (fun _ => none) ⟨"tls.crt", "tls.key"⟩ (.file sampleChain) (.file sampleKey) ∧
    loadWith (fun _ => none) ⟨"tls.crt", "tls.key"⟩ (.file sampleChain)
        (.file (sampleKey ++ Pem.beginMark))
      = loadWith (fun _ => none) ⟨"tls.crt", "tls.key"⟩ (.file sampleChain) (.file sampleKey) ∧
    Passes (fun _ => none) ⟨"tls.crt", "tls.key"⟩ (.file sampleChain) (.file sampleKey)
      ⟨⟨[[0]], ⟨.privateKey, [1]⟩⟩, ["h2", "http/1.1"]⟩ := by
  obtain ⟨houtcome, -, -, hrest, hone⟩ :=
    loadWith_stages (fun _ => none) ⟨"tls.crt", "tls.key"⟩
  have hkind : Kind.ofLabel? (Utf8.encode "CERTIFICATE") = some .certificate := by decide +kernel
  have hder : Base64.decode [Utf8.encode "AA==" ++ [0x0A]].flatten = .ok [0] := by rfl
  have hchain : Aside Kind.isKey sampleChain :=
    .other (isSection_sample ⟨by decide +kernel, by decide +kernel⟩ (by decide +kernel)
      (by decide +kernel) (by decide +kernel) (by decide +kernel) (by decide +kernel)) hkind rfl
      hder (.inr rfl) .nil
  have hremark : Pem.IsLine (Utf8.encode "the key\n") := ⟨by decide +kernel, by decide +kernel⟩
  have hkind' : Kind.ofLabel? (Utf8.encode "PRIVATE KEY") = some .privateKey := by decide +kernel
  have hder' : Base64.decode [Utf8.encode "AQ==" ++ [0x0A]].flatten = .ok [1] := by rfl
  have hkey : Aside (· = .certificate) sampleKey :=
    .line hremark (by decide +kernel) (.inl (by decide +kernel))
      (.other (isSection_sample ⟨by decide +kernel, by decide +kernel⟩ (by decide +kernel)
        (by decide +kernel) (by decide +kernel) (by decide +kernel) (by decide +kernel)) hkind' rfl
        hder' (.inr rfl) .nil)
  have hwhole : Pem.Whole sampleChain := by decide +kernel
  refine ⟨hone sampleChain sampleKey hchain hkey (.inl hwhole), ?_, ?_⟩
  · exact hrest _ sampleKey ⟨.privateKey, [1]⟩ Pem.beginMark (by decide +kernel)
  · exact ((houtcome (.file sampleChain) (.file sampleKey)).2.1 _).mp (by decide +kernel)

end Webhook.Tls
