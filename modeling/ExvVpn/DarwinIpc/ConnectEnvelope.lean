import ExvVpn.Basic
import ExvVpn.Tools.ByteReader
import ExvVpn.Tools.Ipv4

/-!
# The connect envelope

`connect_envelope.rs` of `exv-vpn-darwin-ipc`: what the Core hands the Engine for one connection, and the checks that every
such value passes.
-/

namespace ExvVpn.DarwinIpc

open RustStr BigEndian

inductive ConnectEnvelopeError
  | invalidEncoding
  | unsupportedVersion
  | invalidServer
  | invalidUsername
  | invalidPassword
  | invalidRoutes
  | invalidMtu
  | invalidUserAgent
  | digestMismatch
deriving DecidableEq, Repr

def maxServerLen : Nat := 253

def maxUsernameLen : Nat := 256

def maxPasswordLen : Nat := 4096

def maxUserAgentLen : Nat := 256

def maxRouteCount : Nat := 256

def validDnsLabel (label : Text) : Bool :=
  !label.isEmpty && (asBytes label).length ≤ 63 && label.head?.any Char.isAlphanum && label.getLast?.any Char.isAlphanum &&
    label.all fun c => c.isAlphanum || c == '-'

def isDecimalIpv4Literal (value : Text) : Bool :=
  (split '.' value).length == 4 && (split '.' value).all fun label => !label.isEmpty && label.all Char.isDigit

def validateServer (value : Text) : Except ConnectEnvelopeError Unit :=
  if value.isEmpty || maxServerLen < (asBytes value).length || !(value.all fun c => decide (c.toNat < 128)) ||
      isDecimalIpv4Literal value || !(split '.' value).all validDnsLabel then
    .error .invalidServer
  else .ok ()

/-- A text that is not empty, not longer than `maxLen` bytes and without control characters, with the error of its field. -/
def validateText (maxLen : Nat) (error : ConnectEnvelopeError) (value : Text) : Except ConnectEnvelopeError Unit :=
  if value.isEmpty || maxLen < (asBytes value).length || value.any isControl then .error error else .ok ()

def validateUsername : Text → Except ConnectEnvelopeError Unit := validateText maxUsernameLen .invalidUsername

def validatePassword : Text → Except ConnectEnvelopeError Unit := validateText maxPasswordLen .invalidPassword

def validateUserAgent : Text → Except ConnectEnvelopeError Unit := validateText maxUserAgentLen .invalidUserAgent

def isCanonicalRoute (value : Text) : Bool :=
  match splitOnce '/' value with
  | none => false
  | some (addressText, prefixText) =>
    if prefixText.contains '/' || !prefixText.all Char.isDigit then false
    else
      match Ipv4.parsePrefix prefixText, Ipv4.Addr.parse addressText with
      | some prefixLen, some address =>
        decide (address.format = addressText) && Ipv4.network address.toNat prefixLen == address.toNat
      | _, _ => false

def validateRoutes (routes : List Text) : Except ConnectEnvelopeError Unit :=
  if maxRouteCount < routes.length || !routes.all isCanonicalRoute then .error .invalidRoutes
  else if ¬routes.Nodup then .error .invalidRoutes
  else .ok ()

def validateMtu (value : Option UInt16) : Except ConnectEnvelopeError Unit :=
  if value.any fun mtu => !(576 ≤ mtu.toNat && mtu.toNat ≤ 1500) then .error .invalidMtu else .ok ()

structure DarwinEngineConnectV1 where
  server : Text
  username : Text
  password : Text
  campusRoutes : List Text
  mtuOverride : Option UInt16
  userAgent : Text
  profileDigest : Bytes
deriving DecidableEq

variable (sha256 : Bytes → Bytes)

/-- A text behind its length, as `update_digest_string` feeds it. -/
def digestString (value : Text) : Bytes := toBytes 2 (asBytes value).length ++ asBytes value

def digestProfile (server username : Text) (routes : List Text) (mtuOverride : Option UInt16) (userAgent : Text) : Bytes :=
  sha256 (asBytes "EXV-DARWIN-CONNECT-PROFILE-V1\x00".toList ++ digestString server ++ digestString username ++
    toBytes 2 routes.length ++ routes.flatMap digestString ++ toBytes 2 (mtuOverride.getD 0).toNat ++
    digestString userAgent)

def DarwinEngineConnectV1.new (server username password : Text) (campusRoutes : List Text) (mtuOverride : Option UInt16)
    (userAgent : Text) : Except ConnectEnvelopeError DarwinEngineConnectV1 := do
  validateServer server
  validateUsername username
  validatePassword password
  validateRoutes campusRoutes
  validateMtu mtuOverride
  validateUserAgent userAgent
  let profileDigest := digestProfile sha256 server username campusRoutes mtuOverride userAgent
  pure { server, username, password, campusRoutes, mtuOverride, userAgent, profileDigest }

/-! ## The bytes -/

def magic : Bytes := [0x45, 0x58, 0x56, 0x43]

def version : Nat := 1

def digestLen : Nat := 32

/-- `encode`; `push_string` writes what `update_digest_string` feeds. -/
def DarwinEngineConnectV1.encode (v : DarwinEngineConnectV1) : Bytes :=
  magic ++ toBytes 2 version ++ digestString v.server ++ digestString v.username ++ digestString v.password ++
    toBytes 2 v.campusRoutes.length ++ v.campusRoutes.flatMap digestString ++ toBytes 2 (v.mtuOverride.getD 0).toNat ++
    digestString v.userAgent ++ v.profileDigest

def takeExact (length : Nat) : ByteReader ConnectEnvelopeError Bytes := ByteReader.take .invalidEncoding length

def readU16 : ByteReader ConnectEnvelopeError Nat := ofBytes <$> takeExact 2

def fromUtf8OrError (bytes : Bytes) : Except ConnectEnvelopeError Text :=
  match fromUtf8 bytes with
  | some text => .ok text
  | none => .error .invalidEncoding

def readString : ByteReader ConnectEnvelopeError Text := do
  let length ← readU16
  let bytes ← takeExact length
  liftM (fromUtf8OrError bytes)

def readHeader : ByteReader ConnectEnvelopeError Unit := do
  let found ← takeExact magic.length
  if found ≠ magic then throw .invalidEncoding
  else
    let number ← readU16
    if number ≠ version then throw .unsupportedVersion else return ()

def readRoutes : ByteReader ConnectEnvelopeError (List Text) := do
  let routeCount ← readU16
  if maxRouteCount < routeCount then throw .invalidRoutes else ByteReader.many readString routeCount

def readMtu : ByteReader ConnectEnvelopeError (Option UInt16) := do
  let mtu ← readU16
  return if mtu = 0 then none else some (.ofNat mtu)

/-- The fields of an envelope, not validated yet. -/
def readEnvelope : ByteReader ConnectEnvelopeError DarwinEngineConnectV1 := do
  readHeader
  return ⟨← readString, ← readString, ← readString, ← readRoutes, ← readMtu, ← readString, ← takeExact digestLen⟩

def DarwinEngineConnectV1.decode (payload : Bytes) : Except ConnectEnvelopeError DarwinEngineConnectV1 := do
  let (read, rest) ← readEnvelope payload
  if rest ≠ [] then throw .invalidEncoding
  let value ← new sha256 read.server read.username read.password read.campusRoutes read.mtuOverride read.userAgent
  if value.profileDigest ≠ read.profileDigest then throw .digestMismatch
  return value

variable {sha256 : Bytes → Bytes}

/-- An envelope is built exactly when every field passes its check, and it carries the fields. -/
theorem new_eq_ok {server username password userAgent : Text} {routes : List Text} {mtu : Option UInt16}
    {envelope : DarwinEngineConnectV1} :
    DarwinEngineConnectV1.new sha256 server username password routes mtu userAgent = .ok envelope ↔
      (validateServer server = .ok () ∧ validateUsername username = .ok () ∧ validatePassword password = .ok () ∧
        validateRoutes routes = .ok () ∧ validateMtu mtu = .ok () ∧ validateUserAgent userAgent = .ok ()) ∧
      envelope = ⟨server, username, password, routes, mtu, userAgent,
        digestProfile sha256 server username routes mtu userAgent⟩ := by
  simp only [DarwinEngineConnectV1.new, bind_ok_iff]
  constructor
  · rintro ⟨_, hserver, _, husername, _, hpassword, _, hroutes, _, hmtu, _, hagent, h⟩
    exact ⟨⟨hserver, husername, hpassword, hroutes, hmtu, hagent⟩, (Except.ok.inj h).symm⟩
  · rintro ⟨⟨hserver, husername, hpassword, hroutes, hmtu, hagent⟩, rfl⟩
    exact ⟨_, hserver, _, husername, _, hpassword, _, hroutes, _, hmtu, _, hagent, rfl⟩

end ExvVpn.DarwinIpc
