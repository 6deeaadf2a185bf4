import Mathlib.Data.List.Basic

/-!
# Distrusted keys

`certificate_distrust.rs` and the FIPS client of `reqwest_adapter.rs`: connections whose
certificates carry one of some compromised keys are refused. The presented certificates are looked
at by their whole key, the trust anchors by the contents of theirs, without the header.

Parsing, path building and the FIPS state of the provider are another package's; they are
parameters. Of a path only the certificates on it matter here.

## Main result

* `no_distrusted_key` — which connections are accepted, and what their paths are made of.
-/
namespace ServerlessComponents.Fips

abbrev Bytes := List UInt8

/-- A certificate, in DER. -/
abbrev CertificateDer := Bytes

/-- A DER SEQUENCE with its contents: a header with the length, in one octet or in several after
their number. -/
inductive DerSequence : Bytes → Bytes → Prop
  | short (contents : Bytes) (lt : contents.length < 128) :
    DerSequence (0x30 :: UInt8.ofNat contents.length :: contents) contents
  | long (size contents : Bytes) (ge : 128 ≤ contents.length) (lt : size.length < 127) :
    DerSequence (0x30 :: UInt8.ofNat (128 + size.length) :: (size ++ contents)) contents

/-- An entry of `DISTRUSTED_SPKIS`: a header of two bytes and the contents. -/
structure DistrustedSpki where
  bytes : Bytes
  header : bytes.take 2 = [0x30, 0x76]
  length : bytes.length = 120

/-- Of an anchor, with the contents of its key. -/
structure TrustAnchor where
  subject : Bytes
  subjectPublicKeyInfo : Bytes
  deriving DecidableEq, Repr

inductive TlsError (E : Type) where
  /-- `CertificateError::ApplicationVerificationFailure` -/
  | applicationVerificationFailure
  | other (error : E)
  deriving DecidableEq, Repr

/-- What else the verifier is asked with: the name of the server, the OCSP response and the time. -/
structure Handshake where
  serverName : String
  ocspResponse : Bytes
  now : Nat

/-- A provider, with what the package says of it and of a configuration made with it. -/
structure CryptoProvider where
  fips : Bool
  supportsVersions : Bool
  configFips : Bool
  deriving DecidableEq, Repr

/-- The functions of the TLS package. -/
structure Tls (E : Type) where
  /-- `ParsedCertificate::try_from`, with the key. -/
  subjectPublicKeyInfo : CertificateDer → Except E Bytes
  /-- `RootCertStore::add` -/
  anchorOf : CertificateDer → Except E TrustAnchor
  /-- `WebPkiServerVerifier::builder_with_provider`. -/
  build : List TrustAnchor → Except String Unit
  /-- `verify_server_cert` of the verifier with these anchors. -/
  verifyServerCert : List TrustAnchor → (endEntity : CertificateDer) →
    (intermediates : List CertificateDer) → Handshake → Except E Unit

section Verifier

variable {E : Type} (tls : Tls E) (DISTRUSTED_SPKIS : List DistrustedSpki)

def isAllowed (anchor : TrustAnchor) : Bool :=
  !DISTRUSTED_SPKIS.any fun spki => anchor.subjectPublicKeyInfo = spki.bytes.drop 2

structure DistrustServerCertVerifier where
  roots : List TrustAnchor
  deriving DecidableEq, Repr

def DistrustServerCertVerifier.new (roots : List TrustAnchor) :
    Except String DistrustServerCertVerifier :=
  let roots :=
    if roots.any (!isAllowed DISTRUSTED_SPKIS ·) then roots.filter (isAllowed DISTRUSTED_SPKIS)
    else roots
  match tls.build roots with
  | .ok () => .ok ⟨roots⟩
  | .error error =>
    .error s!"Failed to build TLS verifier after applying certificate distrust: {error}"

/-- The loop over the presented certificates. -/
def checkPresented : List CertificateDer → Except (TlsError E) Unit
  | [] => .ok ()
  | cert :: later =>
    match tls.subjectPublicKeyInfo cert with
    | .error error => .error (.other error)
    | .ok spki =>
      if DISTRUSTED_SPKIS.any (spki = ·.bytes) then .error .applicationVerificationFailure
      else checkPresented later

def DistrustServerCertVerifier.verifyServerCert (verifier : DistrustServerCertVerifier)
    (endEntity : CertificateDer) (intermediates : List CertificateDer) (handshake : Handshake) :
    Except (TlsError E) Unit :=
  match checkPresented tls DISTRUSTED_SPKIS (endEntity :: intermediates) with
  | .error error => .error error
  | .ok () =>
    (tls.verifyServerCert verifier.roots endEntity intermediates handshake).mapError .other

/-- The verifier of the client's configuration. -/
def fipsClientConfig (roots : List TrustAnchor) (provider : CryptoProvider) :
    Except String DistrustServerCertVerifier :=
  match DistrustServerCertVerifier.new tls DISTRUSTED_SPKIS roots with
  | .error error => .error error
  | .ok verifier =>
    if ! provider.supportsVersions then .error "Failed to set protocol versions"
    else if ! provider.configFips then .error "The final TLS configuration is not FIPS-compliant"
    else .ok verifier

/-- The certificates that parse, in the order of the native store. -/
def rootCertStore (nativeCerts : List CertificateDer) : List TrustAnchor :=
  nativeCerts.filterMap fun cert => (tls.anchorOf cert).toOption

/-- The FIPS `create_reqwest_client_builder`, as far as the verifier. -/
def createReqwestClientBuilder (default : Option CryptoProvider)
    (nativeCerts : List CertificateDer) : Except String DistrustServerCertVerifier :=
  match default with
  | none => .error "No crypto provider configured"
  | some provider =>
    if ! provider.fips then .error "Crypto provider is not FIPS-compliant"
    else if (rootCertStore tls nativeCerts).isEmpty then
      .error "No valid certificates found in native root store"
    else fipsClientConfig tls DISTRUSTED_SPKIS (rootCertStore tls nativeCerts) provider

end Verifier

/-! ## Keys -/

/-- The key is one of the table. -/
def Distrusted (DISTRUSTED_SPKIS : List DistrustedSpki) (spki : Bytes) : Prop :=
  ∃ entry ∈ DISTRUSTED_SPKIS, entry.bytes = spki

variable {DISTRUSTED_SPKIS : List DistrustedSpki}

theorem DistrustedSpki.bytes_eq (entry : DistrustedSpki) :
    entry.bytes = 0x30 :: 0x76 :: entry.bytes.drop 2 := by
  have split := List.take_append_drop 2 entry.bytes
  rw [entry.header] at split
  exact split.symm

theorem DistrustedSpki.length_drop (entry : DistrustedSpki) :
    (entry.bytes.drop 2).length = 118 := by
  simp [entry.length]

/-- Only the header of one octet fits an entry of the table. -/
theorem DerSequence.eq_entry_iff {spki contents : Bytes} (der : DerSequence spki contents)
    (entry : DistrustedSpki) : entry.bytes = spki ↔ contents = entry.bytes.drop 2 := by
  cases der with
  | short contents lt =>
    constructor
    · intro same
      rw [entry.bytes_eq] at same
      exact (List.cons.inj (List.cons.inj same).2).2.symm
    · intro same
      have octet : UInt8.ofNat (List.length contents) = 0x76 := by
        rw [same, entry.length_drop]
        rfl
      rw [octet, same]
      exact entry.bytes_eq
  | long size contents ge lt =>
    constructor
    · intro same
      rw [entry.bytes_eq] at same
      have octet : (0x76 : UInt8) = UInt8.ofNat (128 + size.length) :=
        (List.cons.inj (List.cons.inj same).2).1
      have value : 118 = (128 + size.length) % 256 := by simpa using congrArg UInt8.toNat octet
      omega
    · intro same
      have := entry.length_drop
      rw [← same] at this
      omega

/-- Looking at the contents finds the anchors with a distrusted key. -/
theorem isAllowed_iff {anchor : TrustAnchor} {spki : Bytes}
    (der : DerSequence spki anchor.subjectPublicKeyInfo) :
    isAllowed DISTRUSTED_SPKIS anchor = true ↔ ¬ Distrusted DISTRUSTED_SPKIS spki := by
  simp [isAllowed, Distrusted, der.eq_entry_iff]

/-! ## Connections -/

section Connections

variable {E : Type} {tls : Tls E}

/-- The certificate parses, and its key is not one of the table. -/
def Acceptable (tls : Tls E) (DISTRUSTED_SPKIS : List DistrustedSpki) (cert : CertificateDer) :
    Prop :=
  ∃ spki, tls.subjectPublicKeyInfo cert = .ok spki ∧ ¬ Distrusted DISTRUSTED_SPKIS spki

theorem any_eq_true_iff {spki : Bytes} :
    DISTRUSTED_SPKIS.any (spki = ·.bytes) = true ↔ Distrusted DISTRUSTED_SPKIS spki := by
  simp only [List.any_eq_true, decide_eq_true_eq, Distrusted]
  constructor <;> exact fun ⟨entry, mem, same⟩ => ⟨entry, mem, same.symm⟩

/-- Every presented certificate is looked at, whether the path needs it or not. -/
theorem checkPresented_eq_ok_iff {certs : List CertificateDer} :
    checkPresented tls DISTRUSTED_SPKIS certs = .ok () ↔
      ∀ cert ∈ certs, Acceptable tls DISTRUSTED_SPKIS cert := by
  induction certs with
  | nil => simp [checkPresented]
  | cons cert later ih =>
    rw [List.forall_mem_cons, ← ih, checkPresented]
    cases parsed : tls.subjectPublicKeyInfo cert with
    | error error => simp [Acceptable, parsed]
    | ok spki =>
      have acceptable : Acceptable tls DISTRUSTED_SPKIS cert ↔
          ¬ Distrusted DISTRUSTED_SPKIS spki := by
        simp [Acceptable, parsed]
      simp only [acceptable, ← any_eq_true_iff]
      split
      next found => simp [found]
      next missing => simp [missing]

theorem verifyServerCert_eq_ok_iff {verifier : DistrustServerCertVerifier}
    {endEntity : CertificateDer} {intermediates : List CertificateDer} {handshake : Handshake} :
    verifier.verifyServerCert tls DISTRUSTED_SPKIS endEntity intermediates handshake = .ok () ↔
      (∀ cert ∈ endEntity :: intermediates, Acceptable tls DISTRUSTED_SPKIS cert) ∧
        tls.verifyServerCert verifier.roots endEntity intermediates handshake = .ok () := by
  rw [← checkPresented_eq_ok_iff, DistrustServerCertVerifier.verifyServerCert]
  cases checkPresented tls DISTRUSTED_SPKIS (endEntity :: intermediates) with
  | error error => simp
  | ok u =>
    cases tls.verifyServerCert verifier.roots endEntity intermediates handshake with
    | error error => simp [Except.mapError]
    | ok u => simp [Except.mapError]

/-- The store is copied only when an anchor is removed; either way it is the allowed ones. -/
theorem roots_of_new {roots : List TrustAnchor} {verifier : DistrustServerCertVerifier}
    (new : DistrustServerCertVerifier.new tls DISTRUSTED_SPKIS roots = .ok verifier) :
    verifier.roots = roots.filter (isAllowed DISTRUSTED_SPKIS) := by
  have allowed : (if roots.any (!isAllowed DISTRUSTED_SPKIS ·) then
      roots.filter (isAllowed DISTRUSTED_SPKIS) else roots) =
        roots.filter (isAllowed DISTRUSTED_SPKIS) := by
    split
    · rfl
    next none_ =>
      refine (List.filter_eq_self.2 ?_).symm
      simpa using none_
  unfold DistrustServerCertVerifier.new at new
  simp only [allowed] at new
  split at new <;> cases new
  rfl

theorem roots_of_client {default : Option CryptoProvider} {nativeCerts : List CertificateDer}
    {verifier : DistrustServerCertVerifier}
    (client : createReqwestClientBuilder tls DISTRUSTED_SPKIS default nativeCerts = .ok verifier) :
    (∃ provider, default = some provider ∧ provider.fips = true ∧ provider.configFips = true) ∧
      verifier.roots = (rootCertStore tls nativeCerts).filter (isAllowed DISTRUSTED_SPKIS) := by
  unfold createReqwestClientBuilder fipsClientConfig at client
  cases default with
  | none => cases client
  | some provider =>
    cases fips : provider.fips with
    | false => simp [fips] at client
    | true =>
      cases configFips : provider.configFips with
      | false => grind
      | true =>
        refine ⟨⟨provider, rfl, fips, configFips⟩, ?_⟩
        cases new : DistrustServerCertVerifier.new tls DISTRUSTED_SPKIS
            (rootCertStore tls nativeCerts) with
        | error error => grind
        | ok made =>
          obtain rfl : made = verifier := by grind
          exact roots_of_new new

/-- An anchor of the client's verifier is made of a native certificate. -/
theorem exists_of_mem_rootCertStore {nativeCerts : List CertificateDer} {anchor : TrustAnchor}
    (mem : anchor ∈ rootCertStore tls nativeCerts) :
    ∃ root ∈ nativeCerts, tls.anchorOf root = .ok anchor := by
  obtain ⟨root, native, made⟩ := List.mem_filterMap.1 mem
  refine ⟨root, native, ?_⟩
  cases result : tls.anchorOf root with
  | error error => simp [result, Except.toOption] at made
  | ok other => simpa [result, Except.toOption] using made

/-- A client is made with a FIPS provider and configuration only, and accepts a connection exactly
if WebPKI accepts it with the anchors that are not distrusted and every presented certificate parses
and is not distrusted. The path WebPKI has found then ends in a native certificate, and no key on
it, the anchor's included, is distrusted. -/
theorem no_distrusted_key (tls : Tls E) (DISTRUSTED_SPKIS : List DistrustedSpki)
    (keyOf : CertificateDer → Option Bytes)
    (Chains : CertificateDer → List CertificateDer → TrustAnchor → Prop)
    (keys : ∀ cert spki, tls.subjectPublicKeyInfo cert = .ok spki → keyOf cert = some spki)
    (anchors : ∀ cert anchor, tls.anchorOf cert = .ok anchor →
      ∃ spki, keyOf cert = some spki ∧ DerSequence spki anchor.subjectPublicKeyInfo)
    (paths : ∀ roots endEntity intermediates handshake,
      tls.verifyServerCert roots endEntity intermediates handshake = .ok () →
        ∃ path anchor, path ⊆ intermediates ∧ anchor ∈ roots ∧ Chains endEntity path anchor)
    (default : Option CryptoProvider) (nativeCerts : List CertificateDer)
    (verifier : DistrustServerCertVerifier)
    (client : createReqwestClientBuilder tls DISTRUSTED_SPKIS default nativeCerts = .ok verifier)
    (endEntity : CertificateDer) (intermediates : List CertificateDer) (handshake : Handshake) :
    (∃ provider, default = some provider ∧ provider.fips = true ∧ provider.configFips = true) ∧
      (verifier.verifyServerCert tls DISTRUSTED_SPKIS endEntity intermediates handshake = .ok () ↔
        (∀ cert ∈ endEntity :: intermediates, Acceptable tls DISTRUSTED_SPKIS cert) ∧
          tls.verifyServerCert ((rootCertStore tls nativeCerts).filter (isAllowed DISTRUSTED_SPKIS))
            endEntity intermediates handshake = .ok ()) ∧
      (verifier.verifyServerCert tls DISTRUSTED_SPKIS endEntity intermediates handshake = .ok () →
        ∃ path root anchor, path ⊆ intermediates ∧ root ∈ nativeCerts ∧
          tls.anchorOf root = .ok anchor ∧ Chains endEntity path anchor ∧
          ∀ cert ∈ endEntity :: path ++ [root],
            ∃ spki, keyOf cert = some spki ∧ ¬ Distrusted DISTRUSTED_SPKIS spki) := by
  obtain ⟨provider, roots⟩ := roots_of_client client
  refine ⟨provider, roots ▸ verifyServerCert_eq_ok_iff, ?_⟩
  intro accepted
  obtain ⟨presented, verified⟩ := verifyServerCert_eq_ok_iff.1 accepted
  obtain ⟨path, anchor, sub, mem, chains⟩ := paths _ _ _ _ verified
  rw [roots] at mem
  obtain ⟨stored, allowed⟩ := List.mem_filter.1 mem
  obtain ⟨root, native, made⟩ := exists_of_mem_rootCertStore stored
  obtain ⟨spki, key, der⟩ := anchors root anchor made
  refine ⟨path, root, anchor, sub, native, made, chains, ?_⟩
  intro cert onPath
  rcases List.mem_append.1 onPath with before | last
  · have shown : cert ∈ endEntity :: intermediates := by grind
    obtain ⟨spki, parsed, trusted⟩ := presented cert shown
    exact ⟨spki, keys cert spki parsed, trusted⟩
  · obtain rfl := List.mem_singleton.1 last
    exact ⟨spki, key, (isAllowed_iff der).1 allowed⟩

/-! ## Two roots and a server -/

namespace Example

/-- A DER value of up to two octets of length after their number. -/
def der (tag : UInt8) (contents : Bytes) : Bytes :=
  let length := contents.length
  if length < 128 then tag :: .ofNat length :: contents
  else if length < 256 then tag :: 0x81 :: ([.ofNat length] ++ contents)
  else tag :: 0x82 :: ([.ofNat (length / 256), .ofNat length] ++ contents)

theorem derSequence_der (contents : Bytes) : DerSequence (der 0x30 contents) contents := by
  unfold der
  dsimp only
  split
  next short => exact .short contents short
  next long =>
    split
    · exact .long [_] contents (by omega) (by simp)
    · exact .long [_, _] contents (by omega) (by simp)

def text (s : String) : Bytes := s.toList.map fun c => .ofNat c.toNat

/-- A name that is a common name only, without the header. -/
def commonName (name : String) : Bytes :=
  der 0x31 (der 0x30 (der 0x06 [0x55, 0x04, 0x03] ++ der 0x0c (text name)))

/-- `ecdsa-with-SHA384` -/
def ecdsaWithSha384 : Bytes := der 0x30 (der 0x06 [0x2a, 0x86, 0x48, 0xce, 0x3d, 0x04, 0x03, 0x03])

/-- A certificate of a table, with the contents of its key. -/
structure Issued where
  serialNumber : UInt8
  issuer : String
  subject : String
  key : Bytes

namespace Issued

def spki (c : Issued) : Bytes := der 0x30 c.key

/-- The certificate as X.509 has it, under a dummy signature. -/
def toDer (c : Issued) : CertificateDer :=
  let validity := der 0x17 (text "250101000000Z") ++ der 0x17 (text "350101000000Z")
  let tbsCertificate := der 0xa0 (der 0x02 [2]) ++ der 0x02 [c.serialNumber] ++ ecdsaWithSha384 ++
    der 0x30 (commonName c.issuer) ++ der 0x30 validity ++ der 0x30 (commonName c.subject) ++ c.spki
  der 0x30 (der 0x30 tbsCertificate ++ ecdsaWithSha384 ++
    der 0x03 (0 :: der 0x30 (der 0x02 [1] ++ der 0x02 [1])))

end Issued

/-- What a P-384 key with this point is in a certificate. -/
def p384 (point : Bytes) : Bytes :=
  der 0x30 (der 0x06 [0x2a, 0x86, 0x48, 0xce, 0x3d, 0x02, 0x01] ++
    der 0x06 [0x2b, 0x81, 0x04, 0x00, 0x22]) ++ der 0x03 (0 :: 0x04 :: point)

/-- What an RSA key with this modulus is in a certificate. -/
def rsa (modulus : Bytes) : Bytes :=
  der 0x30 (der 0x06 [0x2a, 0x86, 0x48, 0x86, 0xf7, 0x0d, 0x01, 0x01, 0x01] ++ der 0x05 []) ++
    der 0x03 (0 :: der 0x30 (der 0x02 modulus ++ der 0x02 [1, 0, 1]))

section Table

variable (table : List Issued)

def find (cert : CertificateDer) : Option Issued := table.find? (·.toDer = cert)

/-- Other bytes than those of the table do not parse; a path has no intermediates. -/
def tableTls : Tls String where
  subjectPublicKeyInfo cert :=
    match find table cert with
    | none => .error "BadEncoding"
    | some c => .ok c.spki
  anchorOf cert :=
    match find table cert with
    | none => .error "BadEncoding"
    | some c => .ok ⟨commonName c.subject, c.key⟩
  build roots := if roots.isEmpty then .error "no root trust anchors were provided" else .ok ()
  verifyServerCert roots endEntity _ _ :=
    match find table endEntity with
    | none => .error "BadEncoding"
    | some c =>
      if roots.any (·.subject = commonName c.issuer) then .ok () else .error "UnknownIssuer"

def keyOf (cert : CertificateDer) : Option Bytes := (find table cert).map (·.spki)

def Chains (endEntity : CertificateDer) (path : List CertificateDer) (anchor : TrustAnchor) :
    Prop :=
  path = [] ∧ ∃ c, find table endEntity = some c ∧ anchor.subject = commonName c.issuer

theorem keyOf_of_parsed {cert : CertificateDer} {spki : Bytes}
    (parsed : (tableTls table).subjectPublicKeyInfo cert = .ok spki) :
    keyOf table cert = some spki := by
  simp only [tableTls] at parsed
  split at parsed
  · cases parsed
  next c found =>
    cases parsed
    rw [keyOf, found, Option.map_some]

theorem key_of_anchor {cert : CertificateDer} {anchor : TrustAnchor}
    (made : (tableTls table).anchorOf cert = .ok anchor) :
    ∃ spki, keyOf table cert = some spki ∧ DerSequence spki anchor.subjectPublicKeyInfo := by
  simp only [tableTls] at made
  split at made
  · cases made
  next c found =>
    cases made
    refine ⟨c.spki, ?_, derSequence_der c.key⟩
    rw [keyOf, found, Option.map_some]

theorem chains_of_verified {roots : List TrustAnchor} {endEntity : CertificateDer}
    {intermediates : List CertificateDer} {handshake : Handshake}
    (verified :
      (tableTls table).verifyServerCert roots endEntity intermediates handshake = .ok ()) :
    ∃ path anchor, path ⊆ intermediates ∧ anchor ∈ roots ∧ Chains table endEntity path anchor := by
  simp only [tableTls] at verified
  split at verified
  · cases verified
  next c found =>
    split at verified
    next issued =>
      obtain ⟨anchor, mem, same⟩ := List.any_eq_true.1 issued
      exact ⟨[], anchor, List.nil_subset _, mem, rfl, c, found, of_decide_eq_true same⟩
    · cases verified

end Table

def distrustedKey : DistrustedSpki := ⟨der 0x30 (p384 (List.replicate 96 7)), by decide, by decide⟩

/-- A root with the distrusted key and one with another, each with a server. -/
def distrustedRoot : Issued := ⟨1, "Old Root", "Old Root", p384 (List.replicate 96 7)⟩
def trustedRoot : Issued := ⟨2, "New Root", "New Root", p384 (List.replicate 96 9)⟩
def oldServer : Issued := ⟨3, "Old Root", "intake", rsa (0 :: List.replicate 256 0xa5)⟩
def newServer : Issued := ⟨4, "New Root", "intake", rsa (0 :: List.replicate 256 0xb3)⟩

def certificates : List Issued := [distrustedRoot, trustedRoot, oldServer, newServer]

end Example

open Example in
/-- Both roots are native; only the server under the trusted one is accepted. -/
theorem no_distrusted_key_one :
    ∃ verifier, createReqwestClientBuilder (tableTls certificates) [distrustedKey]
        (some ⟨true, true, true⟩) [distrustedRoot.toDer, trustedRoot.toDer] = .ok verifier ∧
      verifier.verifyServerCert (tableTls certificates) [distrustedKey] oldServer.toDer []
        ⟨"intake", [], 0⟩ = .error (.other "UnknownIssuer") ∧
      ∃ path root anchor, path ⊆ [] ∧ root ∈ [distrustedRoot.toDer, trustedRoot.toDer] ∧
        (tableTls certificates).anchorOf root = .ok anchor ∧
        Chains certificates newServer.toDer path anchor ∧
        ∀ cert ∈ newServer.toDer :: path ++ [root],
          ∃ spki, keyOf certificates cert = some spki ∧ ¬ Distrusted [distrustedKey] spki := by
  have client : createReqwestClientBuilder (tableTls certificates) [distrustedKey]
      (some ⟨true, true, true⟩) [distrustedRoot.toDer, trustedRoot.toDer] =
        .ok ⟨[⟨commonName "New Root", trustedRoot.key⟩]⟩ := by decide +kernel
  refine ⟨_, client, by decide +kernel, ?_⟩
  exact (no_distrusted_key (tableTls certificates) [distrustedKey] (keyOf certificates)
    (Chains certificates) (fun _ _ => keyOf_of_parsed certificates)
    (fun _ _ => key_of_anchor certificates) (fun _ _ _ _ => chains_of_verified certificates)
    (some ⟨true, true, true⟩) [distrustedRoot.toDer, trustedRoot.toDer] _ client newServer.toDer []
    ⟨"intake", [], 0⟩).2.2 (by decide +kernel)

end Connections

end ServerlessComponents.Fips
