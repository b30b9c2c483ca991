import Iec104South.Lib.Text
import Iec104South.TlsImport

/-!
# The directories of the certificates

A certificate is looked for in `etc/certs/pem/` if its name ends with `.pem`. The source compares
the result of `rfind` with the size of the name minus 4; for a name of three bytes both are
`npos`, so it is taken for a PEM file as well (`isPemCertificate_iff`).
`certificates_found_iff`: this is the only exception.
-/

namespace Iec104South

/-- The name ends with `.pem`. -/
def EndsWithPem (name : String) : Prop := ".pem".toList <:+ name.toList

instance (name : String) : Decidable (EndsWithPem name) :=
  inferInstanceAs (Decidable (_ <:+ _))

/-- The file of a certificate, with the directory its name asks for. -/
def certificateFileFor (env : TlsEnv) (name : String) : String :=
  env.dataDir ++ (if EndsWithPem name then "/etc/certs/pem/" else "/etc/certs/") ++ name

/-- The certificates `prepareConnection` looks for when there is no connection yet, each with the
file it asks `access` for, in that order. -/
def certificateLookups (env : TlsEnv) (c : ImportedConfig) (group : RedGroup) :
    List (String × String) :=
  if group.useTls then
    (if c.ownCertificate.isEmpty || c.privateKey.isEmpty then []
      else [(c.ownCertificate, certificateFile env c.ownCertificate)]) ++
      c.remoteCertificates.map (fun name => (name, certificateFile env name)) ++
      c.caCertificates.map fun name => (name, certificateFile env name)
  else []

/-- The certificates of a configuration: the own one, if there is a private key for it, the remote
ones and those of the CAs. -/
def ImportedConfig.certificates (c : ImportedConfig) : List String :=
  (if c.ownCertificate.isEmpty || c.privateKey.isEmpty then [] else [c.ownCertificate]) ++
    c.remoteCertificates ++ c.caCertificates

/-- The comparison of the source as a test of the name: its difference is `npos` for a name of
three bytes. -/
theorem isPemCertificate_iff {name : String} :
    isPemCertificate name ↔ EndsWithPem name ∨ name.utf8ByteSize = 3 := by
  have hpem : ".pem".utf8ByteSize = 4 := by decide
  have htest := @Text.rfind_eq_sizeSub_iff ".pem" name
  rw [hpem] at htest
  rw [isPemCertificate, beq_iff_eq, htest]
  exact or_congr_right (by omega)

/-- A name that ends with `.pem` has more than three bytes. -/
theorem isPemCertificate_endsWithPem_iff {name : String} :
    (isPemCertificate name ↔ EndsWithPem name) ↔ name.utf8ByteSize ≠ 3 := by
  have hpem : String.utf8Len ".pem".toList = 4 := by decide
  have hlonger : EndsWithPem name → name.utf8ByteSize ≠ 3 := by
    intro h
    have hle := String.utf8Len_le_of_suffix h
    rw [hpem, String.utf8Len_toList] at hle
    omega
  rw [isPemCertificate_iff]
  tauto

/-- The two directories differ, so the file tells which test was made. -/
theorem certificateFile_eq_iff {env : TlsEnv} {name : String} :
    certificateFile env name = certificateFileFor env name ↔ name.utf8ByteSize ≠ 3 := by
  have hdiffer : env.dataDir ++ "/etc/certs/pem/" ++ name ≠ env.dataDir ++ "/etc/certs/" ++ name :=
    fun h => by
      have hlength := congrArg String.length h
      rw [String.length_append, String.length_append, String.length_append, String.length_append]
        at hlength
      exact absurd (Nat.add_left_cancel (Nat.add_right_cancel hlength)) (by decide)
  rw [← isPemCertificate_endsWithPem_iff, certificateFile, certificateFileFor]
  split_ifs with htest hends hends
  · exact iff_of_true rfl (iff_of_true htest hends)
  · exact iff_of_false hdiffer fun h => hends (h.mp htest)
  · exact iff_of_false hdiffer.symm fun h => htest (h.mpr hends)
  · exact iff_of_true rfl (iff_of_false htest hends)

/-- The certificates that are looked for are those of the configuration. -/
theorem mem_certificateLookups {env : TlsEnv} {c : ImportedConfig} {group : RedGroup}
    {lookup : String × String} :
    lookup ∈ certificateLookups env c group ↔
      group.useTls ∧ lookup.1 ∈ c.certificates ∧ lookup.2 = certificateFile env lookup.1 := by
  have hlookups : certificateLookups env c group =
      if group.useTls then c.certificates.map fun name => (name, certificateFile env name)
      else [] := by
    unfold certificateLookups ImportedConfig.certificates
    split_ifs <;> simp
  rw [hlookups]
  split_ifs with htls
  · rw [List.mem_map, and_iff_right htls]
    constructor
    · rintro ⟨name, hname, rfl⟩
      exact ⟨hname, rfl⟩
    · rintro ⟨hname, hfile⟩
      exact ⟨lookup.1, hname, Prod.ext rfl hfile.symm⟩
  · exact iff_of_false List.not_mem_nil fun h => htls h.1

theorem ownCertificate_of_ownIdentity {env : TlsEnv} {c : ImportedConfig}
    {identity : String × String} (h : ownIdentity env c = some identity) :
    c.ownCertificate ∈ c.certificates ∧ identity.2 = certificateFile env c.ownCertificate := by
  unfold ownIdentity at h
  unfold ImportedConfig.certificates
  dsimp only at h
  split_ifs at h ⊢
  rw [← Option.some.inj h]
  exact ⟨by simp, rfl⟩

theorem mem_loadedFiles {env : TlsEnv} {load : String → Bool} {names : List String}
    {file : String} (h : file ∈ loadedFiles env load names) :
    ∃ name ∈ names, file = certificateFile env name := by
  obtain ⟨name, hname, hfile⟩ := List.mem_map.mp (List.mem_filter.mp h).1
  exact ⟨name, hname, hfile.symm⟩

/-- What a TLS configuration loads as a certificate was looked for. -/
theorem loaded_of_lookup {env : TlsEnv} {c : ImportedConfig} {group : RedGroup}
    {tls : TLSConfiguration} (h : connectionTls env c group = some (some tls)) {file : String}
    (hfile : file ∈ tls.ownCertificate :: (tls.allowedCertificates ++ tls.caCertificates)) :
    ∃ name, (name, file) ∈ certificateLookups env c group := by
  unfold connectionTls at h
  split_ifs at h with htls
  · obtain ⟨tls', htls', hsome⟩ := Option.map_eq_some_iff.mp h
    obtain rfl : tls' = tls := Option.some.inj hsome
    obtain ⟨identity, hidentity, rfl⟩ := Option.map_eq_some_iff.mp htls'
    simp only [List.mem_cons, List.mem_append] at hfile
    have hlisted : ∃ name ∈ c.certificates, file = certificateFile env name := by
      rcases hfile with hown | hremote | hca
      · obtain ⟨hmem, hown'⟩ := ownCertificate_of_ownIdentity hidentity
        exact ⟨_, hmem, hown.trans hown'⟩
      · obtain ⟨name, hname, heq⟩ := mem_loadedFiles hremote
        exact ⟨name, by simp [ImportedConfig.certificates, hname], heq⟩
      · obtain ⟨name, hname, heq⟩ := mem_loadedFiles hca
        exact ⟨name, by simp [ImportedConfig.certificates, hname], heq⟩
    obtain ⟨name, hname, heq⟩ := hlisted
    exact ⟨name, mem_certificateLookups.mpr ⟨htls, hname, heq⟩⟩
  · cases Option.some.inj h

/-- The certificates of a connection are all looked for in the directories their names ask for if
and only if none of the names has three bytes. -/
theorem certificates_found_iff (env : TlsEnv) (c : ImportedConfig) (group : RedGroup) :
    (∀ lookup ∈ certificateLookups env c group,
        lookup.2 = certificateFileFor env lookup.1) ↔
      (group.useTls → ∀ name ∈ c.certificates, name.utf8ByteSize ≠ 3) := by
  constructor
  · intro h htls name hname
    refine certificateFile_eq_iff.mp (h (name, certificateFile env name) ?_)
    exact mem_certificateLookups.mpr ⟨htls, hname, rfl⟩
  · intro h lookup hlookup
    obtain ⟨htls, hname, hfile⟩ := mem_certificateLookups.mp hlookup
    exact hfile.trans (certificateFile_eq_iff.mpr (h htls lookup.1 hname))

/-- An own certificate `iec` is looked for in `etc/certs/pem/`. -/
theorem short_certificate_misplaced :
    ¬ ∀ lookup ∈ certificateLookups .ideal { ownCertificate := "iec", privateKey := "key" }
        { name := "group", index := 0, useTls := true },
      lookup.2 = certificateFileFor .ideal lookup.1 := by
  intro h
  have hlookup : certificateFile .ideal "iec" = certificateFileFor .ideal "iec" :=
    h ("iec", certificateFile .ideal "iec") (mem_certificateLookups.mpr ⟨rfl, by decide, rfl⟩)
  exact certificateFile_eq_iff.mp hlookup (by decide)

end Iec104South
