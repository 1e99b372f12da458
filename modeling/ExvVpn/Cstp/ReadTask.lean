import ExvVpn.Cstp.Text
import ExvVpn.Tools.Incremental

/-! # The read task of a CSTP session

The task `spawn_data_tasks` starts for the TLS read half. It feeds what it reads to the codec and drains the codec after every
read: data payloads go to the consumer, control frames become control events, and the last event says why the task ended,
behind a sample of the counters. Operating system errors, `ε`, are only passed on. -/

namespace ExvVpn.Cstp

open Incremental RustStr Codec Verdict

/-- Packet type of a dead-peer-detection response. -/
def cstpPacketTypeDpdResponse : UInt8 := 0x04

/-- Why a session ended. -/
inductive SessionEndReason (ε : Type) where
  | serverDisconnect (kind : UInt8) (code : Option UInt8) (reason : Text) (bodyLen : Nat)
  | gatewayClosedStream
  | io (error : ε)
  | codec (error : CodecError)
  | consumerDropped
  deriving DecidableEq, Repr

inductive IoDirection where
  | read
  | write
  deriving DecidableEq, Repr

/-- `saturating_add` on a `u64`. -/
def saturatingAdd (a : UInt64) (b : Nat) : UInt64 := .ofNat (min (a.toNat + b) (UInt64.size - 1))

/-- The counters of one TLS task; its two instants are left out, since only the clock reads them. -/
structure SessionIoDiagnostics where
  direction : IoDirection
  bytes : UInt64
  operations : UInt64
  keepaliveFrames : UInt64
  dpdRequestFrames : UInt64
  dpdResponseFrames : UInt64
  deriving DecidableEq, Repr

def SessionIoDiagnostics.new (direction : IoDirection) : SessionIoDiagnostics := ⟨direction, 0, 0, 0, 0, 0⟩

def SessionIoDiagnostics.record (diagnostics : SessionIoDiagnostics) (bytes : Nat) : SessionIoDiagnostics :=
  { diagnostics with
    bytes := saturatingAdd diagnostics.bytes bytes
    operations := saturatingAdd diagnostics.operations 1 }

/-- What comes over the control channel of a session. -/
inductive CstpControlEvent (ε : Type) where
  | control (kind : UInt8) (body : Bytes)
  | dpdResponse
  | sessionEnded (reason : SessionEndReason ε)
  | writeFailed (error : ε)
  | ioDiagnostics (sample : SessionIoDiagnostics)
  deriving DecidableEq, Repr

inductive ReadOutcome (ε : Type) where
  /-- Bytes arrived; `due` says whether the last sample is fifteen seconds old. -/
  | bytes (chunk : Bytes) (due : Bool)
  /-- `Ok(0)`: the gateway closed the stream. -/
  | closed
  /-- The read failed. -/
  | failed (error : ε)
  deriving DecidableEq, Repr

variable {ε : Type}

/-- The control event of a decode outcome, if it has one. -/
def controlEventForDecode : DecodeOutcome → Option (CstpControlEvent ε)
  | .ok (some (.control kind body)) => some (.control kind body)
  | .error (.unknownControl kind) =>
    if kind = cstpPacketTypeDpdResponse then some .dpdResponse else some (.control kind [])
  | _ => none

/-- The end of the session a read outcome brings, if any. -/
def sessionEndReasonForRead : ReadOutcome ε → Option (SessionEndReason ε)
  | .closed => some .gatewayClosedStream
  | .failed error => some (.io error)
  | .bytes _ _ => none

/-- The reason a disconnect frame carries: the body behind the code byte, made safe and bounded. -/
def disconnectReason (body : Bytes) : Text :=
  ((redactIoDetail (fromUtf8Lossy (body.drop 1))).filter (fun c => !isControl c)).take 256

/-- The end of the session a decode outcome brings, if any. -/
def sessionEndReasonForDecode : DecodeOutcome → Option (SessionEndReason ε)
  | .ok (some (.control kind body)) =>
    if kind = 0x05 ∨ kind = 0x09 then some (.serverDisconnect kind body.head? (disconnectReason body) body.length)
    else none
  | .error (.unknownControl _) => none
  | .error error => some (.codec error)
  | _ => none

/-- The end of the session a delivery brings: the consumer is gone. -/
def sessionEndReasonForDataSend (sent : Bool) : Option (SessionEndReason ε) :=
  if sent then none else some .consumerDropped

/-- What the task has sent so far, on the data channel and on the control channel. -/
structure Sent (ε : Type) where
  payloads : List Bytes
  control : List (CstpControlEvent ε)
  deriving DecidableEq, Repr

def Sent.nothing : Sent ε := ⟨[], []⟩

def Sent.send (out : Sent ε) (event : CstpControlEvent ε) : Sent ε := { out with control := out.control ++ [event] }

/-- `publish`: a sample of the counters. -/
def Sent.publish (out : Sent ε) (diagnostics : SessionIoDiagnostics) : Sent ε := out.send (.ioDiagnostics diagnostics)

/-- The last two events of the task. -/
def Sent.finish (out : Sent ε) (diagnostics : SessionIoDiagnostics) (reason : SessionEndReason ε) : Sent ε :=
  (out.publish diagnostics).send (.sessionEnded reason)

variable (accepts : Nat → Bool) (diagnostics : SessionIoDiagnostics) (out : Sent ε)

/-- The body of the inner loop behind the decode: act on the outcome, with `rest` left in the codec. `accepts k` says whether
the consumer is still there when the payload number `k` is delivered. -/
def react (outcome : DecodeOutcome) (rest : Bytes) : Verdict (Sent ε) UInt8 :=
  match outcome with
  | .ok (some (.data payload)) =>
    match sessionEndReasonForDataSend (accepts out.payloads.length) with
    | some reason => .halt (out.finish diagnostics reason)
    | none => .advance { out with payloads := out.payloads ++ [payload] } rest
  | outcome =>
    let out := (controlEventForDecode outcome).elim out out.send
    match sessionEndReasonForDecode outcome with
    | some reason => .halt (out.finish diagnostics reason)
    | none => if outcome = .ok none then .starved else .advance out rest

/-- One pass of the inner loop: decode once and act on the outcome. -/
def drainPass (buf : Bytes) : Verdict (Sent ε) UInt8 :=
  react accepts diagnostics out (mk buf).decode.1 (mk buf).decode.2.buf

/-- The outer loop, from a drained codec: read, count, feed and drain, until a read or a drain ends the task. -/
def readLoop (accepts : Nat → Bool) :
    SessionIoDiagnostics → Drained (Sent ε) UInt8 → List (ReadOutcome ε) → Drained (Sent ε) UInt8
  | _, .halted out, _ => .halted out
  | _, .waiting out rest, [] => .waiting out rest
  | diagnostics, .waiting out rest, .bytes chunk due :: reads =>
    let diagnostics := diagnostics.record chunk.length
    let out := if due then out.publish diagnostics else out
    readLoop accepts diagnostics (settle (drainPass accepts diagnostics) out (rest ++ chunk)) reads
  | diagnostics, .waiting out rest, outcome :: _ =>
    match sessionEndReasonForRead outcome with
    | some reason => .halted (out.finish diagnostics reason)
    | none => .waiting out rest

/-- The read task: the bytes left over from the offer are drained before the first read. -/
def readTask (offerRemainder : Bytes) (reads : List (ReadOutcome ε)) : Drained (Sent ε) UInt8 :=
  let diagnostics := .new .read
  readLoop accepts diagnostics (settle (drainPass accepts diagnostics) .nothing (new.feed offerRemainder).buf) reads

/-! ## The inner loop drains -/

/-- The task waits for bytes exactly when the codec does, it goes on exactly behind a frame or an unknown control, and what it
sends does not depend on what is left in the codec. -/
theorem react_cases (outcome : DecodeOutcome) : (outcome = .ok none ∧ ∀ rest, react accepts diagnostics out outcome rest = .starved) ∨
    (∃ out', ((∃ f, outcome = .ok (some f)) ∨ ∃ k, outcome = .error (.unknownControl k)) ∧
      ∀ rest, react accepts diagnostics out outcome rest = .advance out' rest) ∨
    (outcome ≠ .ok none ∧ ∃ out', ∀ rest, react accepts diagnostics out outcome rest = .halt out') := by
  match outcome with
  | .ok none => exact .inl ⟨rfl, fun _ => rfl⟩
  | .ok (some (.data payload)) =>
    cases ha : accepts out.payloads.length with
    | false => exact .inr (.inr ⟨by simp, _, fun _ => by simp [react, ha, sessionEndReasonForDataSend]; rfl⟩)
    | true => exact .inr (.inl ⟨_, .inl ⟨_, rfl⟩, fun _ => by simp [react, ha, sessionEndReasonForDataSend]; rfl⟩)
  | .ok (some (.control kind body)) =>
    by_cases hk : kind = 0x05 ∨ kind = 0x09
    · exact .inr (.inr ⟨by simp, _, fun _ => by simp only [react, sessionEndReasonForDecode, if_pos hk]; rfl⟩)
    · exact .inr (.inl ⟨_, .inl ⟨_, rfl⟩, fun _ => by simp [react, sessionEndReasonForDecode, if_neg hk]; rfl⟩)
  | .error (.unknownControl kind) =>
    exact .inr (.inl ⟨_, .inr ⟨_, rfl⟩, fun _ => by simp [react, sessionEndReasonForDecode]; rfl⟩)
  | .error .shortHeader | .error .badMagic | .error .badLength | .error (.oversizePayload _ _) | .error .truncated
  | .error .ipv6NotSupported => exact .inr (.inr ⟨by simp, _, fun _ => rfl⟩)

/-- The inner loop is a lawful consumer of the byte stream. -/
theorem drainPass_lawful : Lawful (drainPass (ε := ε) accepts diagnostics) where
  advance_append := by
    intro out out' b r c h
    obtain ⟨hn, hr⟩ | ⟨o, hk, hr⟩ | ⟨hn, o, hr⟩ := react_cases accepts diagnostics out (mk b).decode.1
    · simp [drainPass, hr] at h
    · have hn : (mk b).decode.1 ≠ .ok none := by
        obtain ⟨f, hf⟩ | ⟨k, hk⟩ := hk <;> simp [*]
      have hd := decode_feed ⟨b⟩ c hn
      simp only [feed] at hd
      simp only [drainPass, hr, advance.injEq] at h
      simp only [drainPass, hd, hr, advance.injEq]
      exact ⟨h.1, by rw [h.2]⟩
    · simp [drainPass, hr] at h
  halt_append := by
    intro out out' b c h
    obtain ⟨hn, hr⟩ | ⟨o, hk, hr⟩ | ⟨hn, o, hr⟩ := react_cases accepts diagnostics out (mk b).decode.1
    · simp [drainPass, hr] at h
    · simp [drainPass, hr] at h
    · have hd := decode_feed ⟨b⟩ c hn
      simp only [feed] at hd
      simpa [drainPass, hd, hr] using h
  advance_lt := by
    intro out out' b r h
    obtain ⟨hn, hr⟩ | ⟨o, hk, hr⟩ | ⟨hn, o, hr⟩ := react_cases accepts diagnostics out (mk b).decode.1
    · simp [drainPass, hr] at h
    · have hc := decode_consumes hk
      simp only [drainPass, hr, advance.injEq] at h
      rw [← h.2]
      simp only [cstpHeaderLen] at hc
      omega
    · simp [drainPass, hr] at h

end ExvVpn.Cstp
