import ExvVpn.Config.Files
import ExvVpn.Config.Json
import ExvVpn.Config.Sealing

/-!
# The Windows configuration

`exv-vpn-win32-config`: the configuration record with its document, loading and saving it, the key file beside it, and the
repair a startup makes of the document.
-/

namespace ExvVpn.Win32Config

open Syscall Config List

inductive ConnectionMode
  | standard
  | compatibility
deriving DecidableEq, Repr

def ConnectionMode.asStr : ConnectionMode → Text
  | .standard => "standard".toList
  | .compatibility => "compatibility".toList

def ConnectionMode.fromStr (value : Text) : Option ConnectionMode :=
  if value = "standard".toList then some .standard
  else if value = "compatibility".toList then some .compatibility
  else none

structure ExvConfig where
  server : Text
  username : Text
  password : Text
  rememberPassword : Bool
  routes : List Text
  userAgent : Text
  mtu : UInt32
  connectionMode : ConnectionMode
  autoReconnect : Bool
  autoReconnectMaxAttempts : UInt32
  autoReconnectBackoff : Bool
deriving DecidableEq, Repr

def defaultRoutes : List Text :=
  ["49.52.4.0/25".toList, "59.78.176.0/20".toList, "59.78.199.0/21".toList, "58.198.176.128/25".toList,
    "59.78.189.128/25".toList, "219.228.63.0/21".toList, "202.120.80.0/20".toList, "219.228.144.0/22".toList]

def ExvConfig.default : ExvConfig where
  server := "vpn-cn.ecnu.edu.cn".toList
  username := []
  password := []
  rememberPassword := false
  routes := defaultRoutes
  userAgent := "AnyConnect Win_x86_64 4.10.05095".toList
  mtu := 1290
  connectionMode := .standard
  autoReconnect := false
  autoReconnectMaxAttempts := 0
  autoReconnectBackoff := false

inductive ConfigError
  | io (error : IoError)
  | crypto
  | base64
  | malformed (why : Text)
deriving DecidableEq, Repr

/-- A sealing error as the crate's. -/
def ConfigError.ofSeal : SealError → ConfigError
  | .random => .io .other
  | .crypto => .crypto
  | .base64 => .base64
  | .malformed why => .malformed why

/-! ## The document -/

section Document

variable (json : SerdeJson)

/-- `Serialize` for `ExvConfig`. -/
def ExvConfig.fields (c : ExvConfig) : List (Text × json.Value) :=
  [("server".toList, json.text c.server), ("username".toList, json.text c.username),
    ("password".toList, json.text c.password), ("remember_password".toList, json.bool c.rememberPassword),
    ("routes".toList, json.texts c.routes), ("useragent".toList, json.text c.userAgent),
    ("mtu".toList, json.number c.mtu), ("connection_mode".toList, json.text c.connectionMode.asStr),
    ("auto_reconnect".toList, json.bool c.autoReconnect),
    ("auto_reconnect_max_attempts".toList, json.number c.autoReconnectMaxAttempts),
    ("auto_reconnect_backoff".toList, json.bool c.autoReconnectBackoff)]

/-- `Deserialize` for `ConnectionMode`: a text that is not a mode stands for the default one. -/
def readMode (v : json.Value) : Option ConnectionMode :=
  (json.readText v).map fun value => (ConnectionMode.fromStr value).getD .standard

/-- The fields of `ExvConfig` in their order, each by its place, its name, how it is read and its default. -/
def ExvConfig.build (get : {α : Type} → Nat → Text → (json.Value → Option α) → α → Option α) : Option ExvConfig := do
  let d := ExvConfig.default
  let server ← get 0 "server".toList json.readText d.server
  let username ← get 1 "username".toList json.readText d.username
  let password ← get 2 "password".toList json.readText d.password
  let rememberPassword ← get 3 "remember_password".toList json.readBool d.rememberPassword
  let routes ← get 4 "routes".toList json.readTexts d.routes
  let userAgent ← get 5 "useragent".toList json.readText d.userAgent
  let mtu ← get 6 "mtu".toList json.readU32 d.mtu
  let connectionMode ← get 7 "connection_mode".toList (readMode json) d.connectionMode
  let autoReconnect ← get 8 "auto_reconnect".toList json.readBool d.autoReconnect
  let autoReconnectMaxAttempts ← get 9 "auto_reconnect_max_attempts".toList json.readU32 d.autoReconnectMaxAttempts
  let autoReconnectBackoff ← get 10 "auto_reconnect_backoff".toList json.readBool d.autoReconnectBackoff
  some ⟨server, username, password, rememberPassword, routes, userAgent, mtu, connectionMode, autoReconnect,
    autoReconnectMaxAttempts, autoReconnectBackoff⟩

/-- `Deserialize` for `ExvConfig` from an object. -/
def ExvConfig.ofMembers (m : List (Text × json.Value)) : Option ExvConfig :=
  ExvConfig.build json fun _ name read default => readMember m name read default

/-- `Deserialize` for `ExvConfig`; an array longer than the fields is refused. -/
def ExvConfig.ofDocument : Document json.Value → Option ExvConfig
  | .object m => ExvConfig.ofMembers json m
  | .array items =>
    if items.length ≤ 11 then ExvConfig.build json fun i _ read default => readItem items i read default else none
  | .other => none

/-- `serde_json::from_str::<ExvConfig>`. -/
def ExvConfig.fromStr (text : Text) : Option ExvConfig := (json.members text).bind (ExvConfig.ofDocument json)

/-- `serde_json::to_string_pretty` of a configuration. -/
def ExvConfig.toStringPretty (c : ExvConfig) : Text := json.toStringPretty (c.fields json)

@[simp] theorem ConnectionMode.fromStr_asStr (mode : ConnectionMode) : ConnectionMode.fromStr mode.asStr = some mode := by
  cases mode <;> rfl

/-- A mode that is read is the one the text names. -/
theorem ConnectionMode.asStr_of_fromStr {value : Text} {mode : ConnectionMode} (h : ConnectionMode.fromStr value = some mode) :
    mode.asStr = value := by
  unfold ConnectionMode.fromStr at h
  split at h
  · rename_i hvalue
    cases h
    exact hvalue.symm
  · split at h
    · rename_i hvalue
      cases h
      exact hvalue.symm
    · cases h

theorem ExvConfig.fields_nodup (c : ExvConfig) : ((c.fields json).map Prod.fst).Nodup := by
  simp only [ExvConfig.fields, map_cons, map_nil]
  decide

theorem readMode_respects : json.Respects (readMode json) := by
  intro v v' h
  simp [readMode, h.readText]

/-- A configuration depends on its document only through what the field types can tell. -/
theorem ExvConfig.build_congr {get get' : {α : Type} → Nat → Text → (json.Value → Option α) → α → Option α}
    (h : ∀ {α : Type} (i : Nat) (name : Text) (read : json.Value → Option α) (default : α), json.Respects read →
      get i name read default = get' i name read default) : ExvConfig.build json get = ExvConfig.build json get' := by
  have htext : json.Respects json.readText := fun _ _ h => h.readText
  have hbool : json.Respects json.readBool := fun _ _ h => h.readBool
  have hnumber : json.Respects json.readU32 := fun _ _ h => h.readU32
  have htexts : json.Respects json.readTexts := fun _ _ h => h.readTexts
  simp [ExvConfig.build, h _ _ _ _ htext, h _ _ _ _ hbool, h _ _ _ _ hnumber, h _ _ _ _ htexts,
    h _ _ _ _ (readMode_respects json)]

theorem ExvConfig.ofMembers_congr {m m' : List (Text × json.Value)} (h : json.MembersAlike m m') :
    ExvConfig.ofMembers json m = ExvConfig.ofMembers json m' :=
  ExvConfig.build_congr json fun _ name _ default hread => h.readMember name hread default

/-- Nor does a configuration depend on the order of the members. -/
theorem ExvConfig.ofMembers_perm {m m' : List (Text × json.Value)} (h : m.Perm m') :
    ExvConfig.ofMembers json m = ExvConfig.ofMembers json m' :=
  ExvConfig.build_congr json fun _ name read default _ => readMember_perm h name read default

/-- Members in which each field comes once, with the value the configuration has there. -/
def ExvConfig.Holds (c : ExvConfig) (m : List (Text × json.Value)) : Prop :=
  ∀ name v, (name, v) ∈ c.fields json → occurrences name m = [v]

theorem ExvConfig.holds_fields (c : ExvConfig) : c.Holds json (c.fields json) :=
  fun _ _ h => occurrences_of_mem (c.fields_nodup json) h

/-- Members that hold a configuration read as that configuration. -/
theorem ExvConfig.Holds.ofMembers {c : ExvConfig} {m : List (Text × json.Value)} (h : c.Holds json m) :
    ExvConfig.ofMembers json m = some c := by
  have hread : ∀ f ∈ c.fields json, ∀ {α : Type} (read : json.Value → Option α) (default : α),
      readMember m f.1 read default = read f.2 := by
    intro f hf α read default
    rw [readMember, h f.1 f.2 hf]
  simp only [ExvConfig.fields, forall_mem_cons] at hread
  simp only [ExvConfig.ofMembers, ExvConfig.build, hread]
  simp [readMode]

/-- A printed configuration reads back as it was. -/
theorem ExvConfig.fromStr_toStringPretty (c : ExvConfig) : ExvConfig.fromStr json (c.toStringPretty json) = some c := by
  obtain ⟨m, hm, halike⟩ := json.members_pretty (c.fields_nodup json)
  rw [ExvConfig.fromStr, ExvConfig.toStringPretty, hm, Option.bind_some, ExvConfig.ofDocument,
    ← ExvConfig.ofMembers_congr json halike, (c.holds_fields json).ofMembers]

end Document

/-! ## Loading and saving -/

/-- A call of `std::fs` whose error the crate passes on. -/
def io {α : Type} (m : Prog Disk IoError α) : Prog Disk ConfigError α := mapError .io m

/-- What `load_from_dir` makes of the text of `config.json`: a document that is not a configuration stands for the default. -/
def ExvConfig.ofText (json : SerdeJson) (text : Text) : ExvConfig := (ExvConfig.fromStr json text).getD .default

def loadFromDir (json : SerdeJson) : Prog Disk ConfigError ExvConfig := do
  match ← attempt (readToString configFile) with
  | .ok text => pure (ExvConfig.ofText json text)
  | .error .notFound => pure .default
  | .error e => stop (.io e)

/-- `create_temporary_config_file`, with the tries that are left. -/
def createTemporaryConfigFile (pid : UInt32) : Nat → Prog Disk ConfigError Text
  | 0 => stop (.io .alreadyExists)
  | tries + 1 => do
    let id ← nextTemporary
    let temporary := temporaryName configFile pid id
    match ← attempt (createNew temporary) with
    | .ok () => pure temporary
    | .error .alreadyExists => createTemporaryConfigFile pid tries
    | .error e => stop (.io e)

def writeConfigJsonAtomicallyWith (pid : UInt32) (text : Text) (replace : Text → Text → Prog Disk IoError Unit) :
    Prog Disk ConfigError Unit := do
  io createDirAll
  let temporary ← createTemporaryConfigFile pid 32
  let writeResult ← attempt (do
    io (writeAll temporary (RustStr.asBytes text))
    io syncAll
    io (replace temporary configFile))
  match writeResult with
  | .ok () => pure ()
  | .error e => do
    let _ ← attempt (removeFile temporary)
    stop e

def writeConfigJsonAtomically (pid : UInt32) (text : Text) : Prog Disk ConfigError Unit :=
  writeConfigJsonAtomicallyWith pid text rename

def saveToDir (json : SerdeJson) (pid : UInt32) (c : ExvConfig) : Prog Disk ConfigError Unit :=
  writeConfigJsonAtomically pid (c.toStringPretty json)

/-! ## The key file and the password -/

def loadKey : Prog Disk ConfigError (Option Key) := do
  match ← attempt (readFile keyFile) with
  | .ok bytes =>
    if h : bytes.length = keyLen then pure (some ⟨bytes, h⟩)
    else stop (.malformed "key.bin must be exactly 32 bytes (AES-256)".toList)
  | .error .notFound => pure none
  | .error e => stop (.io e)

def saveKey (key : Key) : Prog Disk ConfigError Unit := do
  io createDirAll
  io (writeFile keyFile key.val)

/-- `generate_key`, with what the random generator gives when it does. -/
def generateKey (random : Key) : Prog Disk ConfigError Key :=
  call (fun d => (.ok random, d)) (fun _ d => (.io .other, d))

def ensureKey (random : Key) : Prog Disk ConfigError Key := do
  match ← attempt loadKey with
  | .ok (some key) => pure key
  | _ =>
    let key ← generateKey random
    saveKey key
    pure key

variable (sealing : Sealing)

def ExvConfig.decryptPassword (c : ExvConfig) (key : Key) : Except ConfigError Text :=
  if c.password = [] then .ok [] else (Config.decryptPassword sealing c.password key).mapError .ofSeal

def ExvConfig.setPasswordEncrypted (c : ExvConfig) (plaintext : Text) (key : Key) (random : Option Nonce) :
    Except ConfigError ExvConfig :=
  match encryptPassword sealing plaintext key random with
  | .error e => .error (.ofSeal e)
  | .ok password => .ok { c with password, rememberPassword := !plaintext.isEmpty }

end ExvVpn.Win32Config
