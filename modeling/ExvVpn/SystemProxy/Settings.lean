import ExvVpn.Basic
import ExvVpn.Tools.RustStr
import ExvVpn.Tools.LittleEndian

/-! # The proxy settings of a Windows user

`system_proxy.rs` of `exv-vpn-win32-resource`: the five managed values of the `Internet Settings` key, how one of them is
read from the registry, and the snapshot the values are normalised to. -/

namespace ExvVpn.SystemProxy

open RustStr LittleEndian

/-! ## Native errors -/

/-- The coarse category of a native error. -/
inductive NativeErrorKind where
  | permission | transport | protocol | resource | storage | observation | unsupported | unknown
  deriving DecidableEq, Repr

/-- A native error: category, raw code and message. -/
structure NativeError where
  kind : NativeErrorKind
  code : UInt32
  message : String
  deriving DecidableEq, Repr

def NativeError.fromWin32 (code : UInt32) (message : String) : NativeError where
  kind :=
    if code = 5 then .permission
    else if code = 33 then .resource
    else if code = 2 ∨ code = 3 then .storage
    else .unknown
  code := code
  message := message

/-- The mark of codes that are not Win32's own. -/
def nativeCodeFlag : UInt32 := 0x80000000

/-- Values that contradict each other. -/
def malformed (message : String) : NativeError :=
  ⟨.storage, nativeCodeFlag ||| 1, "system_proxy_malformed: " ++ message⟩

def endpointInvalid (message : String) : NativeError :=
  ⟨.storage, nativeCodeFlag ||| 2, "system_proxy_endpoint_invalid: " ++ message⟩

/-! ## Values -/

/-- One value: whether it exists, its type and its data. -/
inductive RawValue where
  | absent
  | dword (value : UInt32)
  | sz (text : Text)
  | other (type : UInt32) (data : Bytes)
  deriving DecidableEq, Repr

/-- The text of a `REG_SZ` value. -/
def RawValue.asSz : RawValue → Option Text
  | .sz text => some text
  | _ => none

/-- The number of a `REG_DWORD` value. -/
def RawValue.asDword : RawValue → Option UInt32
  | .dword value => some value
  | _ => none

/-- The names of the five managed values. -/
inductive ValueName where
  | proxyEnable | proxyServer | proxyOverride | autoConfigUrl | autoDetect
  deriving DecidableEq, Repr

/-- The five values of a user's `Internet Settings`. -/
structure RawInternetSettings where
  proxyEnable : RawValue
  proxyServer : RawValue
  proxyOverride : RawValue
  autoConfigUrl : RawValue
  autoDetect : RawValue
  deriving DecidableEq, Repr

variable (raw : RawInternetSettings)

namespace RawInternetSettings

def get : ValueName → RawValue
  | .proxyEnable => raw.proxyEnable
  | .proxyServer => raw.proxyServer
  | .proxyOverride => raw.proxyOverride
  | .autoConfigUrl => raw.autoConfigUrl
  | .autoDetect => raw.autoDetect

/-- The names and values in the order in which they are read, written back and fingerprinted. -/
def fields : List (ValueName × RawValue) :=
  [(.proxyEnable, raw.proxyEnable), (.proxyServer, raw.proxyServer), (.proxyOverride, raw.proxyOverride),
    (.autoConfigUrl, raw.autoConfigUrl), (.autoDetect, raw.autoDetect)]

@[ext] theorem ext_get {a b : RawInternetSettings} (h : ∀ n, a.get n = b.get n) : a = b := by
  cases a
  cases b
  simp only [mk.injEq]
  exact ⟨h .proxyEnable, h .proxyServer, h .proxyOverride, h .autoConfigUrl, h .autoDetect⟩

theorem mem_fields {raw : RawInternetSettings} {n : ValueName} {v : RawValue} :
    (n, v) ∈ raw.fields ↔ raw.get n = v := by
  cases n <;> simp [fields, get, eq_comm]

end RawInternetSettings

/-! ## The registry -/

/-- What the registry stores for a value: its type and its bytes. -/
structure RegData where
  type : UInt32
  data : Bytes
  deriving DecidableEq, Repr

/-- The `Internet Settings` key of a user: what it stores for each managed name, if anything. -/
abbrev SettingsKey := ValueName → Option RegData

/-- The type of texts. -/
def regSz : UInt32 := 1

/-- The type of numbers. -/
def regDword : UInt32 := 4

/-- Read one value of the key. -/
def queryValue : Option RegData → Except NativeError RawValue
  | none => .ok .absent
  | some ⟨type, data⟩ =>
    if data.isEmpty then
      .ok (if type = regSz then .sz [] else if type = regDword then .dword 0 else .other type [])
    else if type = regSz then
      .ok (.sz ((fromUtf16 ((toUnits data).takeWhile (· ≠ 0))).getD []))
    else if type = regDword then
      if data.length < 4 then .error (.fromWin32 1450 "REG_DWORD 数据不足 4 字节")
      else .ok (.dword (UInt32.ofNat (ofBytes (data.take 4))))
    else .ok (.other type data)

/-- Read the five values. -/
def queryValues (key : SettingsKey) : Except NativeError RawInternetSettings := do
  let proxyEnable ← queryValue (key .proxyEnable)
  let proxyServer ← queryValue (key .proxyServer)
  let proxyOverride ← queryValue (key .proxyOverride)
  let autoConfigUrl ← queryValue (key .autoConfigUrl)
  let autoDetect ← queryValue (key .autoDetect)
  return ⟨proxyEnable, proxyServer, proxyOverride, autoConfigUrl, autoDetect⟩

/-- The shape of a SID: `S-1-` and decimal parts. -/
def isWellShapedSid (sid : Text) : Bool :=
  match sid with
  | 'S' :: '-' :: '1' :: '-' :: rest =>
    !rest.isEmpty && (split '-' rest).all fun part => !part.isEmpty && part.all Char.isDigit
  | _ => false

/-- Read the settings of a user whose key opens. -/
def captureForUser (sid : Text) (key : SettingsKey) : Except NativeError RawInternetSettings :=
  if !isWellShapedSid sid then .error (.fromWin32 87 "SID 形状不合法（期望 S-1-… 十进制子授权）")
  else queryValues key

/-- What a value is stored as when it is written; an absent value is deleted. -/
def storedValue : RawValue → Option RegData
  | .absent => none
  | .dword value => some ⟨regDword, toBytes 4 value.toNat⟩
  | .sz text => some ⟨regSz, ofUnits (encodeUtf16 text ++ [0])⟩
  | .other type data => some ⟨type, data⟩

/-! ## The normalised snapshot -/

/-- Protocol class of an endpoint. -/
inductive ProxyKind where
  | http | secure | socks
  deriving DecidableEq, Repr

structure ProxyEndpoint where
  kind : ProxyKind
  host : Text
  port : Nat
  deriving DecidableEq, Repr

/-- How a system proxy is configured. -/
inductive SystemProxyMode where
  | disabled | manual | automatic | mixed
  deriving DecidableEq, Repr

/-- The normalised settings. -/
structure SystemProxySnapshot where
  mode : SystemProxyMode
  endpoints : List ProxyEndpoint
  bypassEntries : List Text
  pacUrl : Option Text
  autoDiscovery : Bool
  deriving DecidableEq, Repr

def parsePort (text : Text) : Except NativeError Nat :=
  match parseUnsigned 65535 text with
  | some port => .ok port
  | none => .error (endpointInvalid "端口不是 0..=65535 十进制数")

/-- One `host:port`; an IPv6 host stands in brackets, credentials are refused. -/
def parseEndpoint (entry : Text) : Except NativeError ProxyEndpoint :=
  if entry.contains '@' then .error (endpointInvalid "端点带凭据形式 user@host")
  else
    match entry with
    | '[' :: rest =>
      match splitOnce ']' rest with
      | none => .error (endpointInvalid "IPv6 括号形式缺少 ']'")
      | some (host, tail) =>
        if host.isEmpty then .error (endpointInvalid "IPv6 括号内 host 为空")
        else
          match tail with
          | ':' :: portText => do return ⟨.http, host, ← parsePort portText⟩
          | _ => .error (endpointInvalid "IPv6 括号形式缺少 ':port'")
    | _ =>
      match rsplitOnce ':' entry with
      | none => .error (endpointInvalid "端点缺少 ':port'")
      | some (host, portText) =>
        if host.contains ':' || host.contains '[' || host.contains ']' then
          .error (endpointInvalid "裸 IPv6 必须使用 [host]:port 括号形式")
        else if host.isEmpty then .error (endpointInvalid "端点 host 为空")
        else do return ⟨.http, host, ← parsePort portText⟩

/-- The protocol class of a scheme; `none` for an empty scheme, whose entry is skipped. -/
def parseScheme (scheme : Text) : Except NativeError (Option ProxyKind) :=
  if scheme = "http".toList then .ok (some .http)
  else if scheme = "https".toList ∨ scheme = "secure".toList then .ok (some .secure)
  else if scheme = "socks".toList ∨ scheme = "socks5".toList ∨ scheme = "socks4".toList then .ok (some .socks)
  else if scheme = [] then .ok none
  else .error (malformed ("ProxyServer 含未知 scheme '" ++ String.ofList scheme ++ "'"))

/-- The entries `scheme=host:port` of a list. -/
def parseEntries : List Text → Except NativeError (List ProxyEndpoint)
  | [] => .ok []
  | part :: parts =>
    if (trim part).isEmpty then parseEntries parts
    else
      match splitOnce '=' (trim part) with
      | none => .error (malformed "ProxyServer 含 '=' 但某分段缺少 '='")
      | some (scheme, endpoint) => do
        match ← parseScheme (toAsciiLowercase (trim scheme)) with
        | none => parseEntries parts
        | some kind =>
          let parsed ← parseEndpoint endpoint
          return { parsed with kind } :: (← parseEntries parts)

/-- The endpoints of a `ProxyServer` value; a single one serves both http and https. -/
def endpointsOf (server : RawValue) : Except NativeError (List ProxyEndpoint) :=
  match server.asSz with
  | none => .ok []
  | some text =>
    if (trim text).isEmpty then .ok []
    else if !(trim text).contains '=' then do
      let endpoint ← parseEndpoint (trim text)
      return [⟨.http, endpoint.host, endpoint.port⟩, ⟨.secure, endpoint.host, endpoint.port⟩]
    else parseEntries (split ';' (trim text))

def endpointsFrom : Except NativeError (List ProxyEndpoint) := endpointsOf raw.proxyServer

/-- The PAC address, when the text is not blank. -/
def pacUrlFrom : Option Text := do
  let text ← raw.autoConfigUrl.asSz
  if (trim text).isEmpty then none else some (trim text)

/-- The bypass entries: the parts of `ProxyOverride` between semicolons, without blank ones. -/
def bypassFrom : List Text :=
  match raw.proxyOverride.asSz with
  | none => []
  | some text => ((split ';' text).map trim).filter fun entry => !entry.isEmpty

/-- Normalise the values; endpoints of a proxy that is switched off are an error. -/
def snapshotFromRaw : Except NativeError SystemProxySnapshot := do
  let proxyEnabled := raw.proxyEnable.asDword.getD 0 != 0
  let pacUrl := pacUrlFrom raw
  let autoDiscovery := raw.autoDetect.asDword.getD 0 != 0
  let endpoints ← endpointsFrom raw
  if !proxyEnabled && !endpoints.isEmpty then
    .error (malformed "ProxyEnable=false 但 ProxyServer 解析出端点（fail-closed 不猜）")
  else
    return {
      mode := match !endpoints.isEmpty, pacUrl.isSome || autoDiscovery with
        | true, true => .mixed
        | true, false => .manual
        | false, true => .automatic
        | false, false => .disabled
      endpoints, bypassEntries := bypassFrom raw, pacUrl, autoDiscovery }

end ExvVpn.SystemProxy
