import ExvVpn.Win32Config.Hygiene

/-!
# The configuration calls of the Windows host

`config_get`, `config_set` and the saving of credentials by `Connect` in `kernel_control_service.rs`. Each call reads
`config.json`, works on a copy and replaces the file; any number of them run at a time, with nothing to keep them apart. What
the key file and the random generator give a call is fixed when the call starts.
-/

namespace ExvVpn.Win32Host

open Config Win32Config Syscall RustStr

/-- The status of a call that fails. -/
inductive ConfigStatus
  | internal (error : ConfigError)
  | keyUnavailable
  | invalidArgument (message : Text)
deriving DecidableEq

/-- `str::parse::<bool>`. -/
def parseBool (value : Text) : Option Bool :=
  if value = "true".toList then some true else if value = "false".toList then some false else none

/-- A field that `config_set` parses, with the message for a value that does not parse. -/
def parsed {α : Type} (value : Option α) (message : String) : Except ConfigStatus α :=
  match value with
  | some a => .ok a
  | none => .error (.invalidArgument message.toList)

/-- The names `config_set` takes. -/
inductive ConfigKey
  | server
  | username
  | rememberPassword
  | routes
  | userAgent
  | mtu
  | connectionMode
  | autoReconnect
  | autoReconnectMaxAttempts
  | autoReconnectBackoff
  | password
deriving DecidableEq

def ConfigKey.ofName (name : Text) : Option ConfigKey :=
  [("server".toList, .server), ("username".toList, .username), ("remember_password".toList, .rememberPassword),
    ("routes".toList, .routes), ("user_agent".toList, .userAgent), ("mtu".toList, .mtu),
    ("connection_mode".toList, .connectionMode), ("auto_reconnect".toList, .autoReconnect),
    ("auto_reconnect_max_attempts".toList, .autoReconnectMaxAttempts),
    ("auto_reconnect_backoff".toList, .autoReconnectBackoff), ("password".toList, ConfigKey.password)].lookup name

/-- One turn of the loop of `config_set`: the configuration and the password so far, with one more item. -/
def setItem (state : ExvConfig × Option Text) (item : Text × Text) : Except ConfigStatus (ExvConfig × Option Text) := do
  let (cfg, password) := state
  let value := item.2
  match ConfigKey.ofName item.1 with
  | some .server => return ({ cfg with server := value }, password)
  | some .username => return ({ cfg with username := value }, password)
  | some .rememberPassword =>
    let rememberPassword ← parsed (parseBool value) "config_set: remember_password must be true/false"
    return ({ cfg with rememberPassword }, password)
  | some .routes => return ({ cfg with routes := commaList value }, password)
  | some .userAgent => return ({ cfg with userAgent := value }, password)
  | some .mtu =>
    let mtu ← parsed (parseU32 value) "config_set: mtu must be a number"
    return ({ cfg with mtu }, password)
  | some .connectionMode =>
    let connectionMode ← parsed (ConnectionMode.fromStr value) "config_set: connection_mode must be standard/compatibility"
    return ({ cfg with connectionMode }, password)
  | some .autoReconnect =>
    let autoReconnect ← parsed (parseBool value) "config_set: auto_reconnect must be true/false"
    return ({ cfg with autoReconnect }, password)
  | some .autoReconnectMaxAttempts =>
    let autoReconnectMaxAttempts ← parsed (parseU32 value) "config_set: auto_reconnect_max_attempts must be a number"
    return ({ cfg with autoReconnectMaxAttempts }, password)
  | some .autoReconnectBackoff =>
    let autoReconnectBackoff ← parsed (parseBool value) "config_set: auto_reconnect_backoff must be true/false"
    return ({ cfg with autoReconnectBackoff }, password)
  | some .password => return (cfg, some value)
  | none => .error (.invalidArgument ("config_set: unknown key '".toList ++ item.1 ++ "'".toList))

variable (sealing : Sealing)

/-- The password of a configuration after the items of `config_set` were taken: a new account does not inherit the old one's
password, and a password that is not to be remembered is not kept. -/
def settlePassword (previousUsername : Text) (cfg : ExvConfig) (password : Option Text) (key : Except ConfigError (Option Key))
    (nonce : Option Nonce) : Except ConfigStatus ExvConfig :=
  let cfg := if cfg.username ≠ previousUsername ∧ password.getD [] = [] then { cfg with password := [] } else cfg
  if cfg.rememberPassword = false then .ok { cfg with password := [] }
  else
    match password.filter (fun value => !value.isEmpty) with
    | none => .ok cfg
    | some plaintext =>
      match key with
      | .error e => .error (.internal e)
      | .ok none => .error .keyUnavailable
      | .ok (some key) => (cfg.setPasswordEncrypted sealing plaintext key nonce).mapError .internal

/-- What `config_set` makes of the configuration it loaded, with what `load_key` and the random generator give. -/
def configSet (items : List (Text × Text)) (key : Except ConfigError (Option Key)) (nonce : Option Nonce) (cfg : ExvConfig) :
    Except ConfigStatus ExvConfig :=
  match items.foldlM setItem (cfg, none) with
  | .error e => .error e
  | .ok (set, password) => settlePassword sealing cfg.username set password key nonce

/-- What `persist_ui_credentials` makes of the configuration it loaded, with what `ensure_key` and the random generator
give. -/
def persistUiCredentials (username password : Text) (key : Except ConfigError Key) (nonce : Option Nonce) (cfg : ExvConfig) :
    Except ConfigStatus ExvConfig :=
  match key with
  | .error e => .error (.internal e)
  | .ok key => (({ cfg with username }).setPasswordEncrypted sealing password key nonce).mapError .internal

/-! ## Calls on the directory -/

/-- Whether `config_set` seals a password, for which it reads the key file. -/
def needsKey (cfg : ExvConfig) (password : Option Text) : Bool := cfg.rememberPassword && !(password.getD []).isEmpty

/-- `config_set` once the caller is authorized. -/
def configSetCall (json : SerdeJson) (pid : UInt32) (items : List (Text × Text)) (nonce : Option Nonce) :
    Syscall.Prog Disk ConfigStatus Unit := do
  let cfg ← mapError .internal (loadFromDir json)
  match items.foldlM setItem (cfg, none) with
  | .error e => stop e
  | .ok (set, password) => do
    let key ← if needsKey set password then attempt loadKey else pure (.ok none)
    match settlePassword sealing cfg.username set password key nonce with
    | .error e => stop e
    | .ok cfg => mapError .internal (saveToDir json pid cfg)

/-- `CredentialError`, as far as loading gives one. -/
inductive CredentialError
  | config (error : ConfigError)
  | keyMissing
  | keyRead (error : ConfigError)
  | passwordDecrypt (error : ConfigError)
  | passwordEmpty
deriving DecidableEq

/-- `load_credentials`: the configuration with the password in the clear. -/
def loadCredentials (json : SerdeJson) : Syscall.Prog Disk CredentialError (ExvConfig × Text) := do
  let cfg ← mapError .config (loadFromDir json)
  match ← attempt loadKey with
  | .error e => stop (.keyRead e)
  | .ok none => stop .keyMissing
  | .ok (some key) =>
    match cfg.decryptPassword sealing key with
    | .error e => stop (.passwordDecrypt e)
    | .ok plaintext => if plaintext = [] then stop .passwordEmpty else pure (cfg, plaintext)

/-! ## Calls that run at a time -/

/-- A call, with what the key file and the random generator give it. -/
inductive ConfigCall
  | get
  | set (items : List (Text × Text)) (key : Except ConfigError (Option Key)) (nonce : Option Nonce)
  | connect (username password : Text) (key : Except ConfigError Key) (nonce : Option Nonce)

/-- What a call is meant to make of the stored configuration. -/
def ConfigCall.update : ConfigCall → ExvConfig → Except ConfigStatus ExvConfig
  | .get, cfg => .ok cfg
  | .set items key nonce, cfg => configSet sealing items key nonce cfg
  | .connect username password key nonce, cfg => persistUiCredentials sealing username password key nonce cfg

/-- Whether a call is a write that is acknowledged when it ends. -/
def ConfigCall.isWrite : ConfigCall → Bool
  | .get => false
  | _ => true

variable (json : SerdeJson)

/-- The text of the file, if there is one. -/
def readDocument : Option Bytes → Except ConfigStatus (Option Text)
  | none => .ok none
  | some bytes =>
    match fromUtf8 bytes with
    | some text => .ok (some text)
    | none => .error (.internal (.io .invalidData))

/-- What `load_from_dir` makes of the file. -/
def loadDocument (file : Option Bytes) : Except ConfigStatus ExvConfig :=
  (readDocument file).map fun text => (text.map (ExvConfig.ofText json)).getD .default

/-- What `load_for_startup` makes of the file, and the document it writes back. -/
def startupDocument (file : Option Bytes) : Except ConfigStatus (StartupConfig × Text) :=
  (readDocument file).map fun text => (text.map (classifyText json)).getD (bootstrapDefault json)

/-- The document with which a call replaces the file that it read. -/
def ConfigCall.prepare (call : ConfigCall) (file : Option Bytes) : Except ConfigStatus Text :=
  match call with
  | .get => (startupDocument json file).map (·.2)
  | call =>
    match loadDocument json file with
    | .error e => .error e
    | .ok cfg => (call.update sealing cfg).map fun cfg => cfg.toStringPretty json

/-- How far a call is: started, or about to replace the file it read by a document. -/
inductive CallPhase
  | started (call : ConfigCall)
  | prepared (call : ConfigCall) (seen : Option Bytes) (document : Text)

/-- The file, the calls under way by their number, and the writes that are acknowledged, in the order of their replaces. What
a Connect does after its replace does not touch the file, so its replace is the step at which it is known how it ends. -/
structure ConfigHost where
  file : Option Bytes
  calls : Nat → Option CallPhase
  acknowledged : List ConfigCall

/-- A host over a file, before its first call. -/
def ConfigHost.over (file : Option Bytes) : ConfigHost := ⟨file, fun _ => none, []⟩

/-- A step of one of the calls; `ok` tells whether the file system does what it is asked. -/
inductive ConfigLabel
  | start (id : Nat) (call : ConfigCall)
  | read (id : Nat) (ok : Bool)
  | replace (id : Nat) (ok : Bool)
  /-- A Connect replaces the file and is refused afterwards: by the engine, the owner lease or the mode it asks for. -/
  | replaceRefused (id : Nat)

/-- The call goes on after it has replaced the file, and may still fail. -/
def ConfigCall.goesOn : ConfigCall → Bool
  | .connect _ _ _ _ => true
  | _ => false

/-- A call goes on, or ends. -/
def ConfigHost.setCall (s : ConfigHost) (id : Nat) (phase : Option CallPhase) : ConfigHost :=
  { s with calls := Function.update s.calls id phase }

def configStep (s : ConfigHost) : ConfigLabel → ConfigHost
  | .start id call => if (s.calls id).isNone then s.setCall id (some (.started call)) else s
  | .read id ok =>
    match s.calls id with
    | some (.started call) =>
      if ok then
        match call.prepare sealing json s.file with
        | .ok document => s.setCall id (some (.prepared call s.file document))
        | .error _ => s.setCall id none
      else s.setCall id none
    | _ => s
  | .replace id ok =>
    match s.calls id with
    | some (.prepared call _ document) =>
      if ok then
        { s.setCall id none with
          file := some (asBytes document)
          acknowledged := if call.isWrite then s.acknowledged ++ [call] else s.acknowledged }
      else s.setCall id none
    | _ => s
  | .replaceRefused id =>
    match s.calls id with
    | some (.prepared call _ document) =>
      if call.goesOn then { s.setCall id none with file := some (asBytes document) } else s
    | _ => s

end ExvVpn.Win32Host
