import ExvVpn.SystemProxy.Family
import Mathlib.Logic.Function.Basic

/-! # The system proxy family: effects

`system_proxy_family_exec.rs` of `exv-vpn-win32-resource`: plan and commit of a step, the replay of a step after a crash
and its undoing at teardown. A step acts on the key of its own user. Every registry call may fail, before or after its
effect, and the write of one value is atomic. -/

namespace ExvVpn.SystemProxy

open RustStr LittleEndian

/-! ## Fingerprints -/

/-- One value: a mark and its content, without a length. -/
def fingerprintValue : RawValue → Bytes
  | .absent => [0]
  | .dword value => 1 :: toBytes 4 value.toNat
  | .other type data => 2 :: toBytes 4 type.toNat ++ data
  | .sz text => 3 :: ofUnits (encodeUtf16 text)

/-- The fingerprint of the five values, one behind the other. -/
def fingerprintPrestate (raw : RawInternetSettings) : Bytes := raw.fields.flatMap fun field => fingerprintValue field.2

/-! ## Plan and commit -/

/-- What a plan says: the step to record and the value to write. -/
structure SystemProxyApplyPlan where
  step : SystemProxyFamilyStep
  /-- The merged bypass text, for a manual proxy. -/
  merged : Option Text
  /-- The port of the PAC endpoint, for an automatic proxy. -/
  endpoint : Option Nat
  /-- Whether there is anything to record and to write. -/
  registryEffect : Bool
  deriving DecidableEq, Repr

/-- A plan that changes nothing. -/
def zeroEffectPlan (sid : Text) (desired : List Text) (prestate : RawInternetSettings) (pacDetected : Bool) :
    SystemProxyApplyPlan where
  step := ⟨prestate, desired, sid, pacDetected, fingerprintPrestate prestate⟩
  merged := none
  endpoint := none
  registryEffect := false

/-- The address of the PAC endpoint. -/
def servedUrl (port : Nat) : Text := "http://127.0.0.1:".toList ++ decimal port ++ "/proxy.pac".toList

/-- The plan that points the PAC address at the endpoint. -/
def planPacFromPrestateWithUrl (sid : Text) (desired : List Text) (prestate : RawInternetSettings) (url : Text) :
    SystemProxyApplyPlan where
  step := ⟨prestate, desired, sid, true, fingerprintPrestate { prestate with autoConfigUrl := .sz url }⟩
  merged := none
  endpoint := none
  registryEffect := true

/-- Plan a step from the captured values. `pac` is the port of the PAC endpoint, when the script was fetched, wrapped and is
being served. -/
def planFromPrestate (sid : Text) (desired : List Text) (prestate : RawInternetSettings) (pac : Option Nat) :
    Except NativeError SystemProxyApplyPlan := do
  let snapshot ← snapshotFromRaw prestate
  match ← decideFamily snapshot desired with
  | .skipNoOp => return zeroEffectPlan sid desired prestate false
  | .mergeAndWrite merged =>
    if merged = join [';'] snapshot.bypassEntries then return zeroEffectPlan sid desired prestate false
    else
      return {
        step := ⟨prestate, desired, sid, false, fingerprintPrestate { prestate with proxyOverride := .sz merged }⟩
        merged := some merged
        endpoint := none
        registryEffect := true }
  | .pacDetectedSkip =>
    match prestate.autoConfigUrl.asSz, pac with
    | some (_ :: _), some port =>
      return { planPacFromPrestateWithUrl sid desired prestate (servedUrl port) with endpoint := some port }
    | _, _ => return zeroEffectPlan sid desired prestate true

/-- What one registry write does. -/
inductive WriteIo where
  | ok
  /-- The call fails; `written` tells whether it took effect. -/
  | failed (written : Bool)
  deriving DecidableEq, Repr

/-- Write or delete one value. -/
def storeValue (key : SettingsKey) (name : ValueName) (value : RawValue) : SettingsKey :=
  Function.update key name (storedValue value)

/-- One registry write with its result. -/
def tryStore (io : WriteIo) (key : SettingsKey) (name : ValueName) (value : RawValue) : Bool × SettingsKey :=
  match io with
  | .ok => (true, storeValue key name value)
  | .failed written => (false, if written then storeValue key name value else key)

/-- Write the planned value. -/
def commitSystemProxyApply (io : WriteIo) (key : SettingsKey) (plan : SystemProxyApplyPlan) : Bool × SettingsKey :=
  if !plan.registryEffect then (true, key)
  else
    match plan.merged, plan.endpoint with
    | some merged, _ => tryStore io key .proxyOverride (.sz merged)
    | none, some port => tryStore io key .autoConfigUrl (.sz (servedUrl port))
    | none, none => (false, key)

/-! ## Undoing -/

/-- What the registry does while a step is undone. -/
structure RestoreIo where
  captureOk : Bool
  /-- The number of the operation that fails, and whether it took effect. -/
  fault : Option (Nat × Bool)
  deriving DecidableEq, Repr

/-- Everything succeeds. -/
def RestoreIo.good : RestoreIo := ⟨true, none⟩

/-- How far the writes of a restore came: their counts when all went well, the key, the number of operations. -/
structure RestoreRun where
  done : Option (Nat × Nat)
  key : SettingsKey
  ops : Nat

/-- Put the fields back one by one; the first failure ends the run. -/
def executeRestoreOps : Option (Nat × Bool) → List (ValueName × RawValue) → SettingsKey → RestoreRun
  | _, [], key => ⟨some (0, 0), key, 0⟩
  | some (0, effect), (name, value) :: _, key => ⟨none, if effect then storeValue key name value else key, 1⟩
  | fault, (name, value) :: rest, key =>
    let run := executeRestoreOps (fault.map fun f => (f.1 - 1, f.2)) rest (storeValue key name value)
    { run with
      done := run.done.map fun n => if value = .absent then (n.1, n.2 + 1) else (n.1 + 1, n.2)
      ops := run.ops + 1 }

/-- The result of replaying a step. -/
inductive SystemProxyReplayOutcome where
  | restored (writeBacks deletes : Nat)
  | alreadyClean
  | skipForfeit
  | hardFailure
  deriving DecidableEq, Repr

/-- A replayed step: the result, the key after it and the number of registry operations. -/
structure Replayed where
  outcome : SystemProxyReplayOutcome
  key : SettingsKey
  ops : Nat

def replaySystemProxyStep (io : RestoreIo) (key : SettingsKey) (step : SystemProxyFamilyStep) : Replayed :=
  match io.captureOk, captureForUser step.originatingSid key with
  | true, .ok current =>
    match decideReplay (fingerprintPrestate step.prestate) step.writtenFingerprint (fingerprintPrestate current) with
    | .alreadyClean => ⟨.alreadyClean, key, 0⟩
    | .skipForfeit => ⟨.skipForfeit, key, 0⟩
    | .restore =>
      let run := executeRestoreOps io.fault step.prestate.fields key
      match run.done with
      | some (writeBacks, deletes) => ⟨.restored writeBacks deletes, run.key, run.ops⟩
      | none => ⟨.hardFailure, run.key, run.ops⟩
  | _, _ => ⟨.hardFailure, key, 0⟩

/-- The result of undoing a step at teardown. -/
inductive SystemProxyRestoreOutcome where
  | restored (writeBacks deletes : Nat)
  | typedSkip
  deriving DecidableEq, Repr

/-- Undo a step at teardown; no outcome is an error. -/
def restoreSystemProxyStep (io : RestoreIo) (key : SettingsKey) (step : SystemProxyFamilyStep) :
    Option SystemProxyRestoreOutcome × SettingsKey :=
  match io.captureOk, captureForUser step.originatingSid key with
  | true, .ok current =>
    match computeRestore step.prestate (fingerprintPrestate current) step.writtenFingerprint with
    | .typedSkip => (some .typedSkip, key)
    | .restore _ =>
      let run := executeRestoreOps io.fault step.prestate.fields key
      (run.done.map fun n => .restored n.1 n.2, run.key)
  | _, _ => (none, key)

end ExvVpn.SystemProxy
