import ExvVpn.Config.Files
import ExvVpn.Config.Json
import ExvVpn.Config.Sealing
import ExvVpn.Tools.Ipv4

/-!
# The macOS configuration

`config.rs` of `exv-vpn-darwin-core` with its paths: the stored record, the validation of an update, its application to a copy
that is saved before it takes the place of the record in memory, and the password.
-/

namespace ExvVpn.DarwinConfig

open Syscall Config RustStr Option

inductive DarwinConfigError
  | unknownKey
  | duplicateKey
  | invalidServer
  | invalidUsername
  | invalidRememberPassword
  | invalidRoutes
  | invalidMtu
  | invalidUserAgent
  | invalidAutoReconnect
  | invalidAutoReconnectMaxAttempts
  | invalidAutoReconnectBackoff
  | storage
  | passwordCrypto
deriving DecidableEq, Repr

structure DarwinStoredConfig where
  server : Text
  username : Text
  password : Text
  rememberPassword : Bool
  routes : List Text
  userAgent : Text
  mtu : UInt32
  autoReconnect : Bool
  autoReconnectMaxAttempts : UInt32
  autoReconnectBackoff : Bool
deriving DecidableEq, Repr

def defaultRoutes : List Text :=
  ["49.52.4.0/25".toList, "59.78.176.0/20".toList, "59.78.199.0/21".toList, "58.198.176.128/25".toList,
    "59.78.189.128/25".toList, "219.228.63.0/21".toList, "202.120.80.0/20".toList, "219.228.144.0/22".toList]

def DarwinStoredConfig.default : DarwinStoredConfig where
  server := "vpn-cn.ecnu.edu.cn".toList
  username := []
  password := []
  rememberPassword := false
  routes := defaultRoutes
  userAgent := "AnyConnect Win_x86_64 4.10.05095".toList
  mtu := 1290
  autoReconnect := false
  autoReconnectMaxAttempts := 0
  autoReconnectBackoff := false

/-! ## Values -/

/-- `str::len`. -/
def byteLen (value : Text) : Nat := (asBytes value).length

/-- A label of a host name, for `normalize_server`. -/
def validLabel (label : Text) : Bool :=
  1 ≤ byteLen label && byteLen label ≤ 63 && label.head? != some '-' && label.getLast? != some '-' &&
    label.all fun c => c.isAlphanum || c == '-'

def normalizeServer (value : Text) : Except DarwinConfigError Text :=
  if value = [] then .ok []
  else if !(value.all fun c => decide (c.toNat < 128)) || 253 < byteLen value || (Ipv4.Addr.parse value).isSome then
    .error .invalidServer
  else if (split '.' value).all validLabel then .ok (toAsciiLowercase value)
  else .error .invalidServer

/-- A text of 1 to 256 bytes without control characters. -/
def plainText (value : Text) : Bool := 1 ≤ byteLen value && byteLen value ≤ 256 && !value.any isControl

def validateUsername (value : Text) : Except DarwinConfigError Text :=
  if value = [] then .ok [] else if plainText value then .ok value else .error .invalidUsername

def validateUserAgent (value : Text) : Except DarwinConfigError Text :=
  if plainText value then .ok value else .error .invalidUserAgent

/-- `parse_strict_bool`, with the error of its field. -/
def parseStrictBool (error : DarwinConfigError) (value : Text) : Except DarwinConfigError Bool :=
  if value = "true".toList then .ok true else if value = "false".toList then .ok false else .error error

def parseMtu (value : Text) : Except DarwinConfigError UInt32 :=
  match parseU32 value with
  | some mtu => if mtu ≠ 0 then .ok mtu else .error .invalidMtu
  | none => .error .invalidMtu

def parseAutoReconnectMaxAttempts (value : Text) : Except DarwinConfigError UInt32 :=
  match parseU32 value with
  | some attempts => .ok attempts
  | none => .error .invalidAutoReconnectMaxAttempts

def splitCsv (value : Text) : List Text := commaList value

/-- `parse_windows_ipv4`: four numbers up to 255 between dots, each with an optional plus sign and any leading zeros. -/
def parseWindowsIpv4 (value : Text) : Option (List Nat) :=
  match (split '.' value).mapM (parseUnsigned 255) with
  | some octets => if octets.length = 4 then some octets else none
  | none => none

def isWindowsCompatibleRoute (value : Text) : Bool :=
  if (parseWindowsIpv4 value).isSome then true
  else
    match splitOnce '/' value with
    | none => false
    | some (address, prefixText) =>
      (parseWindowsIpv4 address).isSome &&
        match parseUnsigned (2 ^ 32 - 1) prefixText with
        | some prefixLen => prefixLen ≤ 32
        | none => false

def parseRoutes (value : Text) : Except DarwinConfigError (List Text) :=
  if (splitCsv value).all isWindowsCompatibleRoute then .ok (splitCsv value) else .error .invalidRoutes

/-! ## Updates -/

/-- The names an update takes. -/
inductive ConfigKey
  | server
  | username
  | password
  | rememberPassword
  | routes
  | userAgent
  | mtu
  | autoReconnect
  | autoReconnectMaxAttempts
  | autoReconnectBackoff
deriving DecidableEq

/-- The key of a name, if it is one of `CONFIG_KEYS`. -/
def ConfigKey.ofName (name : Text) : Option ConfigKey :=
  [("server".toList, .server), ("username".toList, .username), ("password".toList, .password),
    ("remember_password".toList, .rememberPassword), ("routes".toList, .routes), ("user_agent".toList, .userAgent),
    ("mtu".toList, .mtu), ("auto_reconnect".toList, .autoReconnect),
    ("auto_reconnect_max_attempts".toList, .autoReconnectMaxAttempts),
    ("auto_reconnect_backoff".toList, ConfigKey.autoReconnectBackoff)].lookup name

structure ConfigUpdate where
  server : Option Text := none
  username : Option Text := none
  password : Option Text := none
  rememberPassword : Option Bool := none
  routes : Option (List Text) := none
  userAgent : Option Text := none
  mtu : Option UInt32 := none
  autoReconnect : Option Bool := none
  autoReconnectMaxAttempts : Option UInt32 := none
  autoReconnectBackoff : Option Bool := none

/-- `validate_keys`, with the names of the items before. -/
def validateKeys (before : List Text) : List (Text × Text) → Except DarwinConfigError Unit
  | [] => .ok ()
  | (key, _) :: rest =>
    if (ConfigKey.ofName key).isNone then .error .unknownKey
    else if key ∈ before then .error .duplicateKey
    else validateKeys (before ++ [key]) rest

/-- One turn of the loop of `ConfigUpdate::validate`. -/
def ConfigUpdate.setItem (update : ConfigUpdate) (item : Text × Text) : Except DarwinConfigError ConfigUpdate :=
  let value := item.2
  match ConfigKey.ofName item.1 with
  | some .server => (normalizeServer value).map fun server => { update with server := some server }
  | some .username => (validateUsername value).map fun username => { update with username := some username }
  | some .password => .ok { update with password := some value }
  | some .rememberPassword =>
    (parseStrictBool .invalidRememberPassword value).map fun remember => { update with rememberPassword := some remember }
  | some .routes => (parseRoutes value).map fun routes => { update with routes := some routes }
  | some .userAgent => (validateUserAgent value).map fun userAgent => { update with userAgent := some userAgent }
  | some .mtu => (parseMtu value).map fun mtu => { update with mtu := some mtu }
  | some .autoReconnect =>
    (parseStrictBool .invalidAutoReconnect value).map fun autoReconnect => { update with autoReconnect := some autoReconnect }
  | some .autoReconnectMaxAttempts =>
    (parseAutoReconnectMaxAttempts value).map fun attempts => { update with autoReconnectMaxAttempts := some attempts }
  | some .autoReconnectBackoff =>
    (parseStrictBool .invalidAutoReconnectBackoff value).map fun backoff => { update with autoReconnectBackoff := some backoff }
  | none => .error .unknownKey

def ConfigUpdate.validate (items : List (Text × Text)) : Except DarwinConfigError ConfigUpdate :=
  match validateKeys [] items with
  | .error e => .error e
  | .ok () => items.foldlM ConfigUpdate.setItem {}

/-! ## Storage -/

/-- A call of `std::fs` whose error is a storage error. -/
def storage {α : Type} (m : Prog Disk IoError α) : Prog Disk DarwinConfigError α := mapError (fun _ => .storage) m

def atomicWrite (pid : UInt32) (filename : Text) (contents : Bytes) : Prog Disk IoError Unit := do
  createDirAll
  let sequence ← nextTemporary
  let temporary := temporaryName filename pid sequence
  writeFile temporary contents
  match ← attempt (rename temporary filename) with
  | .ok () => pure ()
  | .error e => do
    let _ ← (attempt (removeFile temporary) : Prog Disk IoError _)
    stop e

def loadKey : Prog Disk DarwinConfigError (Option Key) := do
  match ← attempt (readFile keyFile) with
  | .ok bytes => if h : bytes.length = keyLen then pure (some ⟨bytes, h⟩) else stop .storage
  | .error .notFound => pure none
  | .error _ => stop .storage

def saveKey (pid : UInt32) (key : Key) : Prog Disk DarwinConfigError Unit := storage (atomicWrite pid keyFile key.val)

/-- `generate_key`, with what the random generator gives when it does. -/
def generateKey (random : Key) : Prog Disk DarwinConfigError Key :=
  call (fun d => (.ok random, d)) (fun _ d => (.storage, d))

def ensureKey (pid : UInt32) (random : Key) : Prog Disk DarwinConfigError Key := do
  match ← attempt loadKey with
  | .ok (some key) => pure key
  | _ =>
    let key ← generateKey random
    saveKey pid key
    pure key

/-- A sealing error as that of the configuration. -/
def ofSeal : SealError → DarwinConfigError
  | .random => .storage
  | _ => .passwordCrypto

section

variable (sealing : Sealing)

def DarwinStoredConfig.decryptPassword (c : DarwinStoredConfig) (key : Key) : Except DarwinConfigError Text :=
  if c.password = [] then .ok [] else (Config.decryptPassword sealing c.password key).mapError ofSeal

def DarwinStoredConfig.setPasswordEncrypted (c : DarwinStoredConfig) (plaintext : Text) (key : Key) (nonce : Option Nonce) :
    Except DarwinConfigError DarwinStoredConfig :=
  match encryptPassword sealing plaintext key nonce with
  | .error e => .error (ofSeal e)
  | .ok password => .ok { c with password }

/-- The password sealed with the key of the directory, which is made if need be. -/
def sealPassword (pid : UInt32) (random : Key) (nonce : Option Nonce) (candidate : DarwinStoredConfig) (plaintext : Text) :
    Prog Disk DarwinConfigError DarwinStoredConfig := do
  let key ← ensureKey pid random
  match candidate.setPasswordEncrypted sealing plaintext key nonce with
  | .ok sealed => pure sealed
  | .error e => stop e

/-- A new user name; the password of another account is not kept. -/
def DarwinStoredConfig.withUsername (c : DarwinStoredConfig) (username : Text) : DarwinStoredConfig :=
  { c with username, password := if c.username ≠ username then [] else c.password }

/-- The fields of an update but for the password. -/
def ConfigUpdate.applyFields (update : ConfigUpdate) (c : DarwinStoredConfig) : DarwinStoredConfig :=
  let c := { c with server := update.server.getD c.server }
  let c := match update.username with
    | some username => c.withUsername username
    | none => c
  { c with
    routes := update.routes.getD c.routes
    userAgent := update.userAgent.getD c.userAgent
    mtu := update.mtu.getD c.mtu
    autoReconnect := update.autoReconnect.getD c.autoReconnect
    autoReconnectMaxAttempts := update.autoReconnectMaxAttempts.getD c.autoReconnectMaxAttempts
    autoReconnectBackoff := update.autoReconnectBackoff.getD c.autoReconnectBackoff
    rememberPassword := update.rememberPassword.getD c.rememberPassword }

def ConfigUpdate.apply (pid : UInt32) (random : Key) (nonce : Option Nonce) (update : ConfigUpdate) (c : DarwinStoredConfig) :
    Prog Disk DarwinConfigError DarwinStoredConfig :=
  let candidate := update.applyFields c
  if candidate.rememberPassword = false then pure { candidate with password := [] }
  else
    match update.password.filter fun password => !password.isEmpty with
    | some password => sealPassword sealing pid random nonce candidate password
    | none => pure candidate

variable (json : SerdeJson)

/-- `Serialize` for `DarwinStoredConfig`. -/
def DarwinStoredConfig.fields (c : DarwinStoredConfig) : List (Text × json.Value) :=
  [("server".toList, json.text c.server), ("username".toList, json.text c.username),
    ("password".toList, json.text c.password), ("remember_password".toList, json.bool c.rememberPassword),
    ("routes".toList, json.texts c.routes), ("useragent".toList, json.text c.userAgent), ("mtu".toList, json.number c.mtu),
    ("auto_reconnect".toList, json.bool c.autoReconnect),
    ("auto_reconnect_max_attempts".toList, json.number c.autoReconnectMaxAttempts),
    ("auto_reconnect_backoff".toList, json.bool c.autoReconnectBackoff)]

/-- The fields of `DarwinStoredConfig` in their order, each by its place, its name, how it is read and its default. -/
def DarwinStoredConfig.build (get : {α : Type} → Nat → Text → (json.Value → Option α) → α → Option α) :
    Option DarwinStoredConfig := do
  let d := DarwinStoredConfig.default
  let server ← get 0 "server".toList json.readText d.server
  let username ← get 1 "username".toList json.readText d.username
  let password ← get 2 "password".toList json.readText d.password
  let rememberPassword ← get 3 "remember_password".toList json.readBool d.rememberPassword
  let routes ← get 4 "routes".toList json.readTexts d.routes
  let userAgent ← get 5 "useragent".toList json.readText d.userAgent
  let mtu ← get 6 "mtu".toList json.readU32 d.mtu
  let autoReconnect ← get 7 "auto_reconnect".toList json.readBool d.autoReconnect
  let autoReconnectMaxAttempts ← get 8 "auto_reconnect_max_attempts".toList json.readU32 d.autoReconnectMaxAttempts
  let autoReconnectBackoff ← get 9 "auto_reconnect_backoff".toList json.readBool d.autoReconnectBackoff
  some ⟨server, username, password, rememberPassword, routes, userAgent, mtu, autoReconnect, autoReconnectMaxAttempts,
    autoReconnectBackoff⟩

/-- `Deserialize` for `DarwinStoredConfig` from an object. -/
def DarwinStoredConfig.ofMembers (m : List (Text × json.Value)) : Option DarwinStoredConfig :=
  DarwinStoredConfig.build json fun _ name read default => readMember m name read default

/-- `Deserialize` for `DarwinStoredConfig`; an array longer than the fields is refused. -/
def DarwinStoredConfig.ofDocument : Document json.Value → Option DarwinStoredConfig
  | .object m => DarwinStoredConfig.ofMembers json m
  | .array items =>
    if items.length ≤ 10 then DarwinStoredConfig.build json fun i _ read default => readItem items i read default else none
  | .other => none

/-- What `load_from_dir` makes of the text of `config.json`: a document that is not a configuration stands for the default. -/
def DarwinStoredConfig.ofText (text : Text) : DarwinStoredConfig :=
  ((json.members text).bind (DarwinStoredConfig.ofDocument json)).getD .default

def loadFromDir : Prog Disk DarwinConfigError DarwinStoredConfig := do
  match ← attempt (readToString configFile) with
  | .ok text => pure (DarwinStoredConfig.ofText json text)
  | .error .notFound => pure .default
  | .error _ => stop .storage

def saveToDirAtomically (pid : UInt32) (c : DarwinStoredConfig) : Prog Disk DarwinConfigError Unit :=
  storage (atomicWrite pid configFile (asBytes (json.toStringPretty (c.fields json))))

/-- `DarwinUiConfig::apply_and_save`, from the record in memory to the one that takes its place. -/
def applyAndSave (pid : UInt32) (random : Key) (nonce : Option Nonce) (inner : DarwinStoredConfig)
    (items : List (Text × Text)) : Prog Disk DarwinConfigError DarwinStoredConfig :=
  match ConfigUpdate.validate items with
  | .error e => stop e
  | .ok update => do
    let candidate ← update.apply sealing pid random nonce inner
    saveToDirAtomically json pid candidate
    pure candidate

/-- `DarwinUiConfig::apply_ui_credentials_and_save`, from the record in memory to the one that takes its place. -/
def applyUiCredentialsAndSave (pid : UInt32) (random : Key) (nonce : Option Nonce) (inner : DarwinStoredConfig)
    (username : Text) (password : Option Text) : Prog Disk DarwinConfigError DarwinStoredConfig :=
  match validateUsername username with
  | .error e => stop e
  | .ok username => do
    let candidate := inner.withUsername username
    let candidate ←
      match password with
      | none => pure candidate
      | some password => do
        let sealed ← sealPassword sealing pid random nonce candidate password
        pure { sealed with rememberPassword := true }
    saveToDirAtomically json pid candidate
    pure candidate

def loadSavedPassword (inner : DarwinStoredConfig) : Prog Disk DarwinConfigError Text :=
  if inner.rememberPassword = false ∨ inner.password = [] then pure []
  else do
    match ← loadKey with
    | none => stop .storage
    | some key =>
      match inner.decryptPassword sealing key with
      | .ok password => pure password
      | .error e => stop e

end

/-! ## What is saved reads back -/

section

variable (json : SerdeJson)

variable (c : DarwinStoredConfig)

theorem DarwinStoredConfig.fields_nodup : ((c.fields json).map Prod.fst).Nodup := by
  simp only [DarwinStoredConfig.fields, List.map_cons, List.map_nil]
  decide

/-- A configuration depends on its members only through what the field types can tell. -/
theorem DarwinStoredConfig.ofMembers_congr {m m' : List (Text × json.Value)} (h : json.MembersAlike m m') :
    DarwinStoredConfig.ofMembers json m = DarwinStoredConfig.ofMembers json m' := by
  have htext : json.Respects json.readText := fun _ _ h => h.readText
  have hbool : json.Respects json.readBool := fun _ _ h => h.readBool
  have hnumber : json.Respects json.readU32 := fun _ _ h => h.readU32
  have htexts : json.Respects json.readTexts := fun _ _ h => h.readTexts
  simp [DarwinStoredConfig.ofMembers, DarwinStoredConfig.build, h.readMember _ htext, h.readMember _ hbool,
    h.readMember _ hnumber, h.readMember _ htexts]

/-- The fields of a configuration read as that configuration. -/
theorem DarwinStoredConfig.ofMembers_fields : DarwinStoredConfig.ofMembers json (c.fields json) = some c := by
  simp [DarwinStoredConfig.ofMembers, DarwinStoredConfig.build, readMember, occurrences, DarwinStoredConfig.fields]

theorem DarwinStoredConfig.ofText_toStringPretty :
    DarwinStoredConfig.ofText json (json.toStringPretty (c.fields json)) = c := by
  obtain ⟨m, hm, halike⟩ := json.members_pretty (c.fields_nodup json)
  rw [DarwinStoredConfig.ofText, hm, bind_some, DarwinStoredConfig.ofDocument,
    ← DarwinStoredConfig.ofMembers_congr json halike, c.ofMembers_fields, getD_some]

end

end ExvVpn.DarwinConfig
