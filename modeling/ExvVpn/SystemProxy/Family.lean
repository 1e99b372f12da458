import ExvVpn.SystemProxy.Override
import ExvVpn.Tools.ByteReader

/-! # The system proxy family: decisions and step records

`system_proxy_family.rs` of `exv-vpn-win32-resource`: what is done with a snapshot, the step record that goes to the
journal before the registry is touched, and the decisions that undo a step. -/

namespace ExvVpn.SystemProxy

open RustStr LittleEndian ByteReader

/-! ## Deciding what to do -/

/-- What the family does with a snapshot. -/
inductive FamilyAction where
  | skipNoOp
  | mergeAndWrite (merged : Text)
  | pacDetectedSkip
  deriving DecidableEq, Repr

/-- A snapshot that contradicts itself. -/
def familyMalformed (message : String) : NativeError :=
  ⟨.storage, nativeCodeFlag ||| 1, "system_proxy_family_malformed: " ++ message⟩

/-- Decide by the mode of the snapshot. -/
def decideFamily (snapshot : SystemProxySnapshot) (desired : List Text) : Except NativeError FamilyAction :=
  match snapshot.mode with
  | .disabled => .ok .skipNoOp
  | .automatic => .ok .pacDetectedSkip
  | .manual | .mixed =>
    if snapshot.endpoints.isEmpty then .error (familyMalformed "Manual/Mixed 快照却解析不出端点")
    else do return .mergeAndWrite (← mergeBypassEntries (join [';'] snapshot.bypassEntries) desired)

/-! ## Step records -/

/-- The record of a step, written before the step takes effect. -/
structure SystemProxyFamilyStep where
  /-- The five values before the step. -/
  prestate : RawInternetSettings
  /-- The entries to be merged in. -/
  desiredEntries : List Text
  /-- The user whose settings are changed. -/
  originatingSid : Text
  /-- Whether the step redirects a PAC address. -/
  pacDetected : Bool
  /-- The fingerprint of the five values after the step. -/
  writtenFingerprint : Bytes
  deriving DecidableEq, Repr

/-- The version of the payload format. -/
def payloadVersion : UInt8 := 3

/-- The payload ends early. -/
def truncatedPayload (context : String) : NativeError :=
  ⟨.storage, nativeCodeFlag ||| 2, "system_proxy_family_payload_truncated: " ++ context⟩

/-- The payload has a bad version, mark or text. -/
def invalidPayload (message : String) : NativeError :=
  ⟨.storage, nativeCodeFlag ||| 3, "system_proxy_family_payload_invalid: " ++ message⟩

/-- The largest number a length field holds. -/
def u32Max : Nat := 0xFFFFFFFF

/-- Bytes behind their length. -/
def pushLenBytes (bytes : Bytes) : Bytes := toBytes 4 (min bytes.length u32Max) ++ bytes

/-- One value: a mark and its content. -/
def pushRawValue : RawValue → Bytes
  | .absent => [0]
  | .dword value => 1 :: toBytes 4 value.toNat
  | .other type data => 2 :: toBytes 4 type.toNat ++ pushLenBytes data
  | .sz text => 3 :: pushLenBytes (ofUnits (encodeUtf16 text))

def SystemProxyFamilyStep.toPayload (step : SystemProxyFamilyStep) : Bytes :=
  [payloadVersion] ++ pushLenBytes (asBytes step.originatingSid) ++ [if step.pacDetected then 1 else 0] ++
    toBytes 4 (min step.desiredEntries.length u32Max) ++
    step.desiredEntries.flatMap (fun entry => pushLenBytes (asBytes entry)) ++
    step.prestate.fields.flatMap (fun field => pushRawValue field.2) ++ pushLenBytes step.writtenFingerprint

abbrev PayloadReader := ByteReader NativeError

def readU8 : PayloadReader UInt8 := u8 (truncatedPayload "payload 提前结束")

/-- The next number. -/
def readU32 : PayloadReader Nat := u32 (truncatedPayload "payload 提前结束")

/-- Bytes behind their length. -/
def readLenBytes : PayloadReader Bytes := lenBytes (truncatedPayload "payload 提前结束")

def decodeText (message : String) (bytes : Bytes) : Except NativeError Text :=
  match fromUtf8 bytes with
  | some text => .ok text
  | none => .error (invalidPayload message)

/-- A text behind its length. -/
def readText (message : String) : PayloadReader Text := do
  let bytes ← readLenBytes
  liftM (decodeText message bytes)

def decodeSz (units : Bytes) : Except NativeError RawValue :=
  if units.length % 2 ≠ 0 then .error (invalidPayload "REG_SZ 单元序列长度为奇数")
  else
    match fromUtf16 (toUnits units) with
    | some text => .ok (.sz text)
    | none => .error (invalidPayload "REG_SZ 含非法 UTF-16 序列")

/-- The content behind the mark of a value. -/
def readTagged (tag : UInt8) : PayloadReader RawValue :=
  if tag = 0 then return .absent
  else if tag = 1 then do return .dword (UInt32.ofNat (← readU32))
  else if tag = 2 then do
    let type ← readU32
    let data ← readLenBytes
    return .other (UInt32.ofNat type) data
  else if tag = 3 then do
    let units ← readLenBytes
    liftM (decodeSz units)
  else throw (invalidPayload "未知 RawValue 标记")

def readRawValue : PayloadReader RawValue := do
  let tag ← readU8
  readTagged tag

/-- The desired entries, as many as the count says. -/
def readEntries : Nat → PayloadReader (List Text)
  | 0 => return []
  | n + 1 => do
    let entry ← readText "豁免条目非 UTF-8"
    return entry :: (← readEntries n)

/-- The version, which must be the current one. -/
def readVersion : PayloadReader Unit := do
  let version ← readU8
  if version ≠ payloadVersion then throw (invalidPayload "未知 payload 版本") else return ()

def readPacDetected : PayloadReader Bool := do
  let pac ← readU8
  if 1 < pac then throw (invalidPayload "pac_detected 标记非法") else return pac = 1

/-- The five values. -/
def readPrestate : PayloadReader RawInternetSettings := do
  let proxyEnable ← readRawValue
  let proxyServer ← readRawValue
  let proxyOverride ← readRawValue
  let autoConfigUrl ← readRawValue
  let autoDetect ← readRawValue
  return ⟨proxyEnable, proxyServer, proxyOverride, autoConfigUrl, autoDetect⟩

/-- All fields of a payload. -/
def readStep : PayloadReader SystemProxyFamilyStep := do
  readVersion
  let originatingSid ← readText "SID 非 UTF-8"
  let pacDetected ← readPacDetected
  let count ← readU32
  let desiredEntries ← readEntries count
  let prestate ← readPrestate
  let writtenFingerprint ← readLenBytes
  return { prestate, desiredEntries, originatingSid, pacDetected, writtenFingerprint }

/-- The step of a payload; bytes behind the last field are an error. -/
def SystemProxyFamilyStep.fromPayload (bytes : Bytes) : Except NativeError SystemProxyFamilyStep := do
  let (step, rest) ← readStep bytes
  if rest.isEmpty then return step else .error (invalidPayload "payload 存在尾部冗余字节")

/-! ## Undoing a step -/

/-- The operation that puts one value back. -/
inductive RestoreOp where
  | writeBack (name : ValueName) (value : RawValue)
  | deleteValue (name : ValueName)
  deriving DecidableEq, Repr

/-- The operation of a field: write it back, or delete what was not there. -/
def RestoreOp.ofField : ValueName × RawValue → RestoreOp
  | (name, .absent) => .deleteValue name
  | (name, value) => .writeBack name value

/-- What a teardown does with a step. -/
inductive RestoreDecision where
  | restore (ops : List RestoreOp)
  | typedSkip
  deriving DecidableEq, Repr

/-- Undo a step only when the values are still the written ones. -/
def computeRestore (prestate : RawInternetSettings) (current written : Bytes) : RestoreDecision :=
  if current ≠ written then .typedSkip else .restore (prestate.fields.map RestoreOp.ofField)

/-- What a replay does with a step. -/
inductive ReplayDecision where
  | restore
  | alreadyClean
  | skipForfeit
  deriving DecidableEq, Repr

/-- Compare the values first with the written ones, then with those before the step. -/
def decideReplay (prestate written current : Bytes) : ReplayDecision :=
  if current = written then if written ≠ prestate then .restore else .alreadyClean
  else if current = prestate then .alreadyClean
  else .skipForfeit

end ExvVpn.SystemProxy
