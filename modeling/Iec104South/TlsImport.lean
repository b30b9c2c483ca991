import Iec104South.PrepareConnection

/-!
# The checks of the TLS peer

`importTlsConfig` skips the elements of a certificate list that name no file, and
`prepareConnection` switches a check on if its list is not empty. So a list of which no
element is left switches the check off: `peerChecksKept_iff` says when the checks a text asks
for are made.
-/

namespace Iec104South

open Json

/-- The elements of a list of `tls_conf`. -/
def tlsList (document : Option Json) (name : String) : List Json :=
  ((tlsConf document).bind fun tlsConf => member? tlsConf name array?).getD []

/-- Each list that has an element, of whatever form, has its check switched on. -/
structure PeerChecksKept (document : Option Json) (tls : TLSConfiguration) : Prop where
  chainValidation : tlsList document "ca_certs" ≠ [] → tls.chainValidation
  onlyKnown : tlsList document "remote_certs" ≠ [] → tls.allowOnlyKnownCertificates

/-- The element names a certificate file. -/
def NamesCertificate (cert : Json) : Prop :=
  ∃ members file, cert.object? = some members ∧ member? members "cert_file" string? = some file

/-- The file of a string member of `tls_conf`, which replaces one that was named before. -/
def namedFile (document : Option Json) (name before : String) : String :=
  ((tlsConf document).bind fun tlsConf => member? tlsConf name string?).getD before

/-- The private key and the own certificate are configured, by the text or before it. -/
def NamesIdentity (document : Option Json) (c : ImportedConfig) : Prop :=
  namedFile document "private_key" c.privateKey ≠ "" ∧
    namedFile document "own_cert" c.ownCertificate ≠ ""

/-- A list with an element has one that names a file, or a file was named before. -/
def NamesChecks (document : Option Json) (name : String) (before : List String) : Prop :=
  tlsList document name ≠ [] → before ≠ [] ∨ ∃ cert ∈ tlsList document name, NamesCertificate cert

/-! ## What the import leaves -/

theorem certFiles_ne_nil {certs : List Json} :
    certFiles certs ≠ [] ↔ ∃ cert ∈ certs, NamesCertificate cert := by
  simp only [certFiles, ne_eq, List.filterMap_eq_nil_iff, not_forall, exists_prop,
    ← Option.isSome_iff_ne_none, Option.isSome_iff_exists, Option.bind_eq_some_iff,
    NamesCertificate]
  exact exists_congr fun cert => and_congr_right fun _ => exists_comm

theorem importTlsConfig_identity (document : Option Json) (c : ImportedConfig) :
    (importTlsConfig document c).privateKey = namedFile document "private_key" c.privateKey ∧
      (importTlsConfig document c).ownCertificate =
        namedFile document "own_cert" c.ownCertificate := by
  unfold importTlsConfig namedFile
  cases tlsConf document with
  | none => exact ⟨rfl, rfl⟩
  | some tlsConf => exact ⟨rfl, rfl⟩

theorem importTlsConfig_certificates (document : Option Json) (c : ImportedConfig) :
    (importTlsConfig document c).caCertificates =
        c.caCertificates ++ certFiles (tlsList document "ca_certs") ∧
      (importTlsConfig document c).remoteCertificates =
        c.remoteCertificates ++ certFiles (tlsList document "remote_certs") := by
  unfold importTlsConfig tlsList
  cases tlsConf document with
  | none => exact ⟨(List.append_nil _).symm, (List.append_nil _).symm⟩
  | some tlsConf => exact ⟨rfl, rfl⟩

/-! ## When the checks are made -/

/-- A list switches its check on exactly if it is empty or has an entry left. -/
theorem check_iff {document : Option Json} {name : String} {before : List String} :
    (tlsList document name ≠ [] →
        decide (0 < (before ++ certFiles (tlsList document name)).length) = true) ↔
      NamesChecks document name before := by
  refine imp_congr_right fun _ => ?_
  rw [decide_eq_true_iff, List.length_pos_iff, ← certFiles_ne_nil]
  simp only [ne_eq, List.append_eq_nil_iff, not_and_or]

/-- The peer checks of every TLS configuration made after the import are those of the lists. -/
theorem peerChecksKept_tlsConfiguration {env : TlsEnv} {document : Option Json}
    {c : ImportedConfig} {tls : TLSConfiguration}
    (h : tlsConfiguration env (importTlsConfig document c) = some tls) :
    PeerChecksKept document tls ↔ NamesChecks document "ca_certs" c.caCertificates ∧
      NamesChecks document "remote_certs" c.remoteCertificates := by
  obtain ⟨hca, hremote⟩ := importTlsConfig_certificates document c
  obtain ⟨identity, -, rfl⟩ := Option.map_eq_some_iff.mp h
  rw [← check_iff, ← check_iff, ← hca, ← hremote]
  exact ⟨fun hkept => ⟨hkept.chainValidation, hkept.onlyKnown⟩, fun hkept => ⟨hkept.1, hkept.2⟩⟩

/-- An environment in which every file loads and the connection is created. -/
def TlsEnv.ideal : TlsEnv where
  dataDir := ""
  access _ := true
  setOwnKeyFromFile _ := true
  setOwnCertificateFromFile _ := true
  addAllowedCertificateFromFile _ := true
  addCACertificateFromFile _ := true
  created := some 0

theorem tlsConfiguration_ideal {document : Option Json} {c : ImportedConfig}
    (h : NamesIdentity document c) :
    ∃ tls, tlsConfiguration .ideal (importTlsConfig document c) = some tls := by
  obtain ⟨hkey, hcert⟩ := importTlsConfig_identity document c
  have hconfigured : ¬((importTlsConfig document c).ownCertificate.isEmpty ||
      (importTlsConfig document c).privateKey.isEmpty) := by
    rw [hkey, hcert]
    simpa [String.isEmpty_iff] using ⟨h.2, h.1⟩
  refine Option.isSome_iff_exists.mp ?_
  rw [tlsConfiguration, ownIdentity, if_neg hconfigured]
  rfl

theorem namesIdentity_of_tlsConfiguration {env : TlsEnv} {document : Option Json}
    {c : ImportedConfig} {tls : TLSConfiguration}
    (h : tlsConfiguration env (importTlsConfig document c) = some tls) :
    NamesIdentity document c := by
  obtain ⟨hkey, hcert⟩ := importTlsConfig_identity document c
  obtain ⟨identity, hidentity, -⟩ := Option.map_eq_some_iff.mp h
  unfold ownIdentity at hidentity
  split_ifs at hidentity with hmissing
  rw [hkey, hcert] at hmissing
  simp only [Bool.or_eq_true, String.isEmpty_iff, not_or] at hmissing
  exact ⟨hmissing.2, hmissing.1⟩

/-- The peer checks a text asks for are made on every TLS connection exactly if no connection
can be created for want of a key, or each list that has an element has a usable one. -/
theorem peerChecksKept_iff (document : Option Json) (c : ImportedConfig) :
    (∀ env group con prepared tls,
        prepareConnection env (importTlsConfig document c) group con = some prepared →
        prepared.tls = some tls → PeerChecksKept document tls) ↔
      (NamesIdentity document c → NamesChecks document "ca_certs" c.caCertificates ∧
        NamesChecks document "remote_certs" c.remoteCertificates) := by
  constructor
  · intro h hidentity
    obtain ⟨tls, htls⟩ := tlsConfiguration_ideal hidentity
    obtain ⟨prepared, hprepared, hkept⟩ : ∃ prepared, prepareConnection .ideal
        (importTlsConfig document c) { name := "", index := 0, useTls := true }
        { serverIp := "" } = some prepared ∧ prepared.tls = some tls := by
      unfold prepareConnection connectionTls
      rw [if_pos rfl, htls]
      exact ⟨_, rfl, rfl⟩
    exact (peerChecksKept_tlsConfiguration htls).mp (h _ _ _ prepared tls hprepared hkept)
  · intro h env group con prepared tls hprepared htls
    have hconfig := tlsConfiguration_of_prepareConnection hprepared htls
    exact (peerChecksKept_tlsConfiguration hconfig).mpr
      (h (namesIdentity_of_tlsConfiguration hconfig))

/-- A list of CA certificates with a number in the place of an object. -/
def malformedListText : Option Json :=
  some (.object [("tls_conf", .object
    [("private_key", .string "client.key"), ("own_cert", .string "client.cer"),
      ("ca_certs", .array [.int 1])])])

/-- The chain of certificates is not validated, though the text lists CA certificates. -/
theorem malformed_list_disables_chainValidation :
    ¬∀ (document : Option Json) (c : ImportedConfig) (env : TlsEnv) (group : RedGroup)
        (con : RedGroupConnection) (prepared : PreparedConnection) (tls : TLSConfiguration),
      prepareConnection env (importTlsConfig document c) group con = some prepared →
        prepared.tls = some tls → PeerChecksKept document tls := by
  intro h
  have hkept := h malformedListText {} .ideal { name := "", index := 0, useTls := true }
    { serverIp := "127.0.0.1" } _ _ rfl rfl
  exact absurd (hkept.chainValidation (List.cons_ne_nil _ _)) (by decide)

end Iec104South
