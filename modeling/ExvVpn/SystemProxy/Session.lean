import ExvVpn.Journal.SystemProxyJournal
import ExvVpn.SystemProxy.FamilyExec
import ExvVpn.Tools.Transition

/-! # The system proxy across connections and crashes

The engine's use of the family: `replay_pending` of `system_proxy_journal.rs`, and the system proxy part of
`RouteOwner::apply` and `RouteOwner::clear` in `platform_tunnel.rs`. The process may die between any two calls; a call cut
short by a death is that call with a failure at the same point. Only the engine changes the registry. -/

namespace ExvVpn.SystemProxy

open Journal SystemProxyJournal Function

/-- The key of every user, by SID. -/
abbrev Registry := Text → SettingsKey

/-! ## Replay -/

/-- What the machine does during one `replay_pending`: the file system, and the registry for the record of each number. -/
structure ReplayPendingIo where
  file : ReplayIo
  restore : Nat → RestoreIo

/-- A replayed record: its step, the user's key before it, the result and the number of registry operations. -/
structure ReplayEntry where
  step : SystemProxyFamilyStep
  before : SettingsKey
  outcome : SystemProxyReplayOutcome
  ops : Nat

/-- How far a pass over the records came: how many records stay, the registry and what was replayed. -/
structure ReplayPass where
  keepLen : Nat
  registry : Registry
  entries : List ReplayEntry

/-- Replay records, newest first, until one is not a step or fails. -/
def replayRecords (io : Nat → RestoreIo) : List JournalRecord → Registry → ReplayPass
  | [], registry => ⟨0, registry, []⟩
  | record :: older, registry =>
    match SystemProxyFamilyStep.fromPayload record.payload with
    | .error _ => ⟨older.length + 1, registry, []⟩
    | .ok step =>
      let before := registry step.originatingSid
      let replayed := replaySystemProxyStep (io older.length) before step
      let registry := update registry step.originatingSid replayed.key
      let entry := ⟨step, before, replayed.outcome, replayed.ops⟩
      if replayed.outcome = .hardFailure then ⟨older.length + 1, registry, [entry]⟩
      else
        let pass := replayRecords io older registry
        { pass with entries := entry :: pass.entries }

/-- Replay the pending steps and drop the records that are done. -/
def replayPending (H : Hash) (io : ReplayPendingIo) (journal : SystemProxyJournal) (registry : Registry) :
    SystemProxyJournal × Registry × List ReplayEntry :=
  match openForReplay H io.file journal with
  | (none, journal) => (journal, registry, [])
  | (some records, journal) =>
    let pass := replayRecords io.restore records.reverse registry
    let journal :=
      if records.length ≤ pass.keepLen then journal else (compact io.file.compact journal (records.take pass.keepLen)).2
    (journal, pass.registry, pass.entries)

/-! ## Connections -/

/-- The step of a live connection, and how many records the journal had before it. -/
structure SystemProxyApplied where
  step : SystemProxyFamilyStep
  journalLenBefore : Nat
  deriving DecidableEq

/-- The system proxy side of the engine. -/
structure ProxyState where
  registry : Registry
  journal : SystemProxyJournal
  /-- A step that is in the journal and is about to be committed. -/
  recorded : Option (SystemProxyApplyPlan × Nat)
  /-- The step of the live connection. -/
  applied : Option SystemProxyApplied

/-- What the machine does during the first half of an apply. -/
structure ApplyIo where
  replay : ReplayPendingIo
  countOk : Bool
  captureOk : Bool
  /-- The port of the PAC endpoint, when it can be served. -/
  pac : Option Nat
  append : AppendIo

/-- What the machine does during a clear. -/
structure ClearIo where
  restore : RestoreIo
  recoverOk : Bool
  compact : CompactIo

/-- What happens to the system proxy side of the engine. -/
inductive ProxyLabel where
  /-- A connection is applied for a user with some campus routes, up to the record in the journal. -/
  | apply (sid : Text) (campusRoutes : List Text) (io : ApplyIo)
  /-- The recorded step takes effect. -/
  | commit (io : WriteIo)
  /-- The connection is cleared. -/
  | clear (io : ClearIo)
  /-- The process dies and starts again; `openOk` tells whether the journal opens. -/
  | restart (openOk : Bool)
  /-- The pending steps are replayed at startup. -/
  | replay (io : ReplayPendingIo)

/-- The bypass entries of the campus routes. -/
def desiredEntries (campusRoutes : List Text) : List Text :=
  campusRoutes.filterMap fun route => (cidrToWildcardOpt route).map WildcardEntry.asStr

/-- The plan of an apply, made from the registry that the inline replay left; only a plan with an effect counts. -/
def applyPlan (sid : Text) (campusRoutes : List Text) (io : ApplyIo) (registry : Registry) : Option SystemProxyApplyPlan :=
  match io.captureOk, captureForUser sid (registry sid) with
  | true, .ok prestate =>
    match planFromPrestate sid (desiredEntries campusRoutes) prestate io.pac with
    | .ok plan => if plan.registryEffect then some plan else none
    | .error _ => none
  | _, _ => none

/-- The first half of an apply: replay, count, plan, record. -/
def applyRecord (H : Hash) (s : ProxyState) (sid : Text) (campusRoutes : List Text) (io : ApplyIo) : ProxyState :=
  let (journal, registry, _) := replayPending H io.replay s.journal s.registry
  match applyPlan sid campusRoutes io registry with
  | none => { s with registry, journal }
  | some plan =>
    let (recorded, journal') := appendStep H io.append journal plan.step.toPayload
    { s with
      registry
      journal := journal'
      recorded := if recorded then some (plan, recordCount H io.countOk journal) else none }

/-- The second half of an apply: the recorded step takes effect. -/
def applyCommit (s : ProxyState) (plan : SystemProxyApplyPlan) (journalLenBefore : Nat) (io : WriteIo) : ProxyState :=
  let sid := plan.step.originatingSid
  let (ok, key) := commitSystemProxyApply io (s.registry sid) plan
  { s with
    registry := update s.registry sid key
    recorded := none
    applied := if ok then some ⟨plan.step, journalLenBefore⟩ else none }

/-- The system proxy part of a clear; a failure leaves the step with the connection. -/
def clearApplied (H : Hash) (s : ProxyState) (applied : SystemProxyApplied) (io : ClearIo) : ProxyState :=
  let sid := applied.step.originatingSid
  match restoreSystemProxyStep io.restore (s.registry sid) applied.step with
  | (none, key) => { s with registry := update s.registry sid key }
  | (some _, key) =>
    { s with
      registry := update s.registry sid key
      journal := clearTail H io.recoverOk io.compact s.journal applied.journalLenBefore
      applied := none }

/-- One step. A new connection is applied, and the journal replayed, only when no step is recorded or applied. -/
def proxyStep (H : Hash) (s : ProxyState) : ProxyLabel → ProxyState
  | .apply sid campusRoutes io =>
    if s.recorded.isSome || s.applied.isSome then s else applyRecord H s sid campusRoutes io
  | .commit io =>
    match s.recorded with
    | none => s
    | some (plan, journalLenBefore) => applyCommit s plan journalLenBefore io
  | .clear io =>
    match s.applied with
    | none => s
    | some applied => clearApplied H s applied io
  | .restart openOk =>
    { s with journal := { s.journal with enabled := openOk }, recorded := none, applied := none }
  | .replay io =>
    if s.recorded.isSome || s.applied.isSome then s
    else
      let (journal, registry, _) := replayPending H io s.journal s.registry
      { s with registry, journal }

/-- An engine that starts for the first time, over any registry. -/
def ProxyState.initial (registry : Registry) : ProxyState := ⟨registry, ⟨true, ⟨[], []⟩⟩, none, none⟩

end ExvVpn.SystemProxy
