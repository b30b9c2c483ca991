import Iec104South.ConfigImport
import Iec104South.Lib.Text

/-!
# Creating a connection

`prepareConnection` and `prepareParameters`: what lib60870 is given when a connection is
created. Reading the certificate files and creating the connection are outside of the
plugin; their results are in `TlsEnv`.
-/

namespace Iec104South

/-- `sCS104_APCIParameters` -/
structure APCIParameters where
  k : Int := 12
  w : Int := 8
  t0 : Int := 10
  t1 : Int := 15
  t2 : Int := 10
  t3 : Int := 20
deriving DecidableEq, Repr

/-- `sCS101_AppLayerParameters` -/
structure AppLayerParameters where
  sizeOfTypeId : Int := 1
  sizeOfVSQ : Int := 1
  sizeOfCOT : Int := 2
  originatorAddress : Int := 0
  sizeOfCA : Int := 2
  sizeOfIOA : Int := 3
  maxSizeOfASDU : Int := 249
deriving DecidableEq, Repr

/-- `TLSConfiguration`: the two checks of the peer, and the files that were loaded. -/
structure TLSConfiguration where
  ownKey : String
  ownCertificate : String
  allowOnlyKnownCertificates : Bool
  allowedCertificates : List String
  chainValidation : Bool
  caCertificates : List String
  renegotiationTime : Nat
deriving DecidableEq, Repr

/-- The environment of `prepareConnection`: which files can be read, which of them the
library accepts, and the handle it creates. -/
structure TlsEnv where
  dataDir : String
  access : String → Bool
  setOwnKeyFromFile : String → Bool
  setOwnCertificateFromFile : String → Bool
  addAllowedCertificateFromFile : String → Bool
  addCACertificateFromFile : String → Bool
  created : Option Nat

/-- What the library is given for a connection. -/
structure PreparedConnection where
  handle : Nat
  serverIp : String
  tcpPort : Int
  tls : Option TLSConfiguration
  apci : APCIParameters
  appLayer : AppLayerParameters
  localAddress : Option String
deriving DecidableEq, Repr

/-- `prepareParameters` -/
def prepareParameters (c : ImportedConfig) (group : RedGroup) :
    APCIParameters × AppLayerParameters :=
  ({ k := group.k, w := group.w, t0 := group.t0, t1 := group.t1, t2 := group.t2, t3 := group.t3 },
    { originatorAddress := c.origAddr
      sizeOfCA := c.config.caSize
      sizeOfIOA := c.ioaSize
      maxSizeOfASDU := if c.asduSize = 0 then 249 else c.asduSize })

/-- `rfind(".pem") == size() - 4` -/
def isPemCertificate (name : String) : Bool :=
  Text.rfind ".pem" name == Text.sizeSub name.utf8ByteSize 4

def certificateFile (env : TlsEnv) (name : String) : String :=
  if isPemCertificate name then env.dataDir ++ "/etc/certs/pem/" ++ name
  else env.dataDir ++ "/etc/certs/" ++ name

/-- The private key and the certificate of the client, if both are configured and load. -/
def ownIdentity (env : TlsEnv) (c : ImportedConfig) : Option (String × String) :=
  if c.ownCertificate.isEmpty || c.privateKey.isEmpty then none
  else
    let privateKeyFile := env.dataDir ++ "/etc/certs/" ++ c.privateKey
    let clientCertFile := certificateFile env c.ownCertificate
    if (env.access privateKeyFile && env.setOwnKeyFromFile privateKeyFile) &&
        (env.access clientCertFile && env.setOwnCertificateFromFile clientCertFile) then
      some (privateKeyFile, clientCertFile)
    else none

/-- The files of a list that load; the others are ignored with a warning. -/
def loadedFiles (env : TlsEnv) (load : String → Bool) (names : List String) : List String :=
  (names.map (certificateFile env)).filter fun file => env.access file && load file

/-- The TLS configuration of the client. -/
def tlsConfiguration (env : TlsEnv) (c : ImportedConfig) : Option TLSConfiguration :=
  (ownIdentity env c).map fun identity =>
    { ownKey := identity.1
      ownCertificate := identity.2
      allowOnlyKnownCertificates := 0 < c.remoteCertificates.length
      allowedCertificates := loadedFiles env env.addAllowedCertificateFromFile c.remoteCertificates
      chainValidation := 0 < c.caCertificates.length
      caCertificates := loadedFiles env env.addCACertificateFromFile c.caCertificates
      renegotiationTime := 60000 }

/-- The TLS part of `prepareConnection`: `some none` without TLS, `none` where it fails. -/
def connectionTls (env : TlsEnv) (c : ImportedConfig) (group : RedGroup) :
    Option (Option TLSConfiguration) :=
  if group.useTls then (tlsConfiguration env c).map some else some none

/-- `prepareConnection`, when there is no connection yet. -/
def prepareConnection (env : TlsEnv) (c : ImportedConfig) (group : RedGroup)
    (con : RedGroupConnection) : Option PreparedConnection := do
  let tls ← connectionTls env c group
  let handle ← env.created
  return {
    handle := handle
    serverIp := con.serverIp
    tcpPort := con.tcpPort
    tls := tls
    apci := (prepareParameters c group).1
    appLayer := (prepareParameters c group).2
    localAddress := if con.clientIp.isEmpty then none else some con.clientIp }

/-- The TLS configuration of a connection is the one made of the configuration. -/
theorem tlsConfiguration_of_prepareConnection {env : TlsEnv} {c : ImportedConfig}
    {group : RedGroup} {con : RedGroupConnection} {prepared : PreparedConnection}
    {tls : TLSConfiguration} (h : prepareConnection env c group con = some prepared)
    (htls : prepared.tls = some tls) : tlsConfiguration env c = some tls := by
  simp only [prepareConnection, Option.bind_eq_bind, Option.bind_eq_some_iff, Option.pure_def,
    Option.some.injEq] at h
  obtain ⟨tls', htls', _, _, rfl⟩ := h
  dsimp only at htls
  subst htls
  unfold connectionTls at htls'
  split_ifs at htls' with huse
  · obtain ⟨_, hconfig, hsome⟩ := Option.map_eq_some_iff.mp htls'
    rw [hconfig, hsome]
  · cases htls'

theorem prepareConnection_parameters {env : TlsEnv} {c : ImportedConfig} {group : RedGroup}
    {con : RedGroupConnection} {prepared : PreparedConnection}
    (h : prepareConnection env c group con = some prepared) :
    prepared.tcpPort = con.tcpPort ∧ (prepared.apci, prepared.appLayer) =
      prepareParameters c group := by
  simp only [prepareConnection, Option.bind_eq_bind, Option.bind_eq_some_iff, Option.pure_def,
    Option.some.injEq] at h
  obtain ⟨_, _, _, _, rfl⟩ := h
  exact ⟨rfl, rfl⟩

end Iec104South
