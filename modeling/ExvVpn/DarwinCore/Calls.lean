import ExvVpn.DarwinCore.State

/-!
# Connect and Stop calls of the macOS core

`connect_in_generation` and `stop_in_generation`. Each wait, each reply and each atomic access that another task can see is
one step; so are accesses with no decision in between. What the engine, the system and the configuration answer is in the
label.
-/

namespace ExvVpn.DarwinCore

/-! ## Connect -/

/-- A step of a Connect call. -/
inductive ConnectLabel where
  /-- The request is malformed, or there are no credentials to send. -/
  | refuse
  | takeLock
  | checkGeneration (config : SessionReconnectPolicy)
  | reuse (alive : Bool)
  | launch (kind : Option SessionKind)
  | attach (attached : Bool)
  | recheck
  | apply
  | reply (pending : Bool)

/-- A Connect call that holds the session lock fails. -/
def CoreState.failConnect (s : CoreState) (c : Nat) (call : ConnectCall) : CoreState :=
  s.unlock.setConnect c { call with pc := .returned false }

/-- The engine has taken the operation: the snapshot `Connecting` is published, the statistics of the operation before
are overwritten in place, and the status projection starts with the generation of the moment. -/
def CoreState.accept (s : CoreState) (c : Nat) (call : ConnectCall) (session : EngineSession) : CoreState :=
  let s := (s.record (.accepted c)).publish (.connect c) ⟨.connecting, some (.connect c)⟩
  ({ s with stats := LiveStatsState.new.beginOperation c }.setProjection c
    (some ⟨s.generation, session, .waiting⟩)).unlock.setConnect c { call with pc := .returned true }

/-- One step of `connect_in_generation`. -/
def connectStep (s : CoreState) (c : Nat) (call : ConnectCall) (label : ConnectLabel) : CoreState :=
  match call.pc, label with
  | .requested, .refuse => s.setConnect c { call with pc := .returned false }
  | .requested, .takeLock =>
    if s.lock.isSome then s
    else (s.takeLock (.connect c) call.generation).setConnect c { call with pc := .locked }
  | .locked, .checkGeneration config =>
    if call.generation ≠ s.generation then s.failConnect c call
    else if call.newSession then
      { s with policy := some config, attempts := 0, active := false }.setConnect c { call with pc := .admitted }
    else s.setConnect c { call with pc := .admitted }
  | .admitted, .reuse alive =>
    match s.session with
    | some session =>
      if alive then s.setConnect c { call with pc := .attaching session }
      else { s with session := none, ticker := none }.setConnect c { call with pc := .launching }
    | none => s.setConnect c { call with pc := .launching }
  | .launching, .launch none => s.failConnect c call
  | .launching, .launch (some kind) =>
    let session : EngineSession := ⟨s.nextSession, kind⟩
    { s with session := some session, nextSession := s.nextSession + 1, oneshot := session.isOneshot,
             ticker := some session.id }.setConnect c { call with pc := .attaching session }
  | .attaching session, .attach attached =>
    if attached then s.setConnect c { call with pc := .attached session } else s.failConnect c call
  | .attached session, .recheck =>
    if call.generation ≠ s.generation then s.failConnect c call
    else s.setConnect c { call with pc := .checked session }
  | .checked session, .apply =>
    (s.record (.applyTunnel c call.generation call.trigger)).setConnect c { call with pc := .applying session }
  | .applying session, .reply pending => if pending then s.accept c call session else s.failConnect c call
  | _, _ => s

/-! ## Stop -/

/-- A step of a Stop call. -/
inductive StopLabel where
  | refuse
  | takeLock
  | checkGeneration (alive : Bool)
  | attach (attached : Bool)
  | send
  | reply (stopped : Bool)
  | publishIdle
  | finish

/-- A Stop call ends and releases the session lock. -/
def CoreState.endStop (s : CoreState) (k : Nat) (call : StopCall) (result : StopResult) : CoreState :=
  s.unlock.setStop k { call with pc := .returned result }

/-- A Stop that finds no live session: the slot and the ticker are dropped and `FailedClean` is published. -/
def CoreState.stopLost (s : CoreState) (k : Nat) (call : StopCall) : CoreState :=
  let s := { s with session := none, ticker := none, active := false }
  ((s.finishOperation (.stop k)).publish (.stop k) ⟨.failedClean, some (.stop k)⟩).endStop k call .lost

/-- One step of `stop_in_generation`. -/
def stopStep (s : CoreState) (k : Nat) (call : StopCall) (label : StopLabel) : CoreState :=
  match call.pc, label with
  | .requested, .refuse => s.setStop k { call with pc := .returned .failed }
  | .requested, .takeLock =>
    if s.lock.isSome then s
    else (s.takeLock (.stop k) call.generation).setStop k { call with pc := .locked }
  | .locked, .checkGeneration alive =>
    if call.generation ≠ s.generation then s.endStop k call .failed
    else
      let s := { s with policy := if call.preserve then s.policy else none }
      if s.session.isSome && alive then
        (s.publish (.stop k) ⟨.stopping, some (.stop k)⟩).setStop k { call with pc := .stopping }
      else s.stopLost k call
  | .stopping, .attach attached =>
    if attached then s.setStop k { call with pc := .ready } else s.endStop k call .failed
  | .ready, .send => (s.record (.stopTunnel (.stop k))).setStop k { call with pc := .sent }
  | .sent, .reply stopped =>
    if stopped then s.setStop k { call with pc := .stopped } else s.endStop k call .failed
  | .stopped, .publishIdle =>
    ({ s with active := false, everConnected := false }.publish (.stop k) ⟨.idle, none⟩).setStop k
      { call with pc := .idle }
  | .idle, .finish => ((s.finishOperation (.stop k)).record (.stopReturned k)).endStop k call .idle
  | _, _ => s

end ExvVpn.DarwinCore
