import ExvVpn.Tools.Ipv4
import ExvVpn.Win32Engine.Routes
import Mathlib.Logic.Function.Basic

/-!
# The engine's tunnel runtime

`RealTunnelRuntime` of `tunnel_runtime.rs`: the apply that is accepted or refused, the assembly thread it spawns, the calls
`cancel`, `disconnect` and `teardown`, and the sweeper that clears a tunnel whose data plane was lost. Before them stands
`network_base`, which is a function of the offer alone.

Each region under the commit lock, the live lock, the NIC lock or the pending routes lock is one step. The resources lock is
held over several of those regions, so its critical section is a value of its own: `Critical` says who is inside, how far it
has come and what it holds in local variables. What the outside answers (a login, an adapter, a route removal, whether the
worker threads are alive) is data of the label.
-/

/-! ## The target of the probes -/

namespace ExvVpn

/-- `u32::MAX`, shifted to the left. A shift by the whole width or more panics with overflow checks, and is by the bits that are
left of its count without. -/
def maxShl (overflowChecks : Bool) (bits : Nat) : Option Nat :=
  if bits < 32 then some ((2 ^ 32 - 1) <<< bits % 2 ^ 32)
  else if overflowChecks then none else some ((2 ^ 32 - 1) <<< (bits % 32) % 2 ^ 32)

/-- `network_base` of the Windows engine. -/
def TunnelRuntime.networkBase (overflowChecks : Bool) (addr : Ipv4.Addr) (prefixLen : Nat) : Option Ipv4.Addr := do
  let mask ← if 32 ≤ prefixLen then some (2 ^ 32 - 1) else maxShl overflowChecks (32 - prefixLen)
  return .ofNat (addr.toNat &&& mask)

end ExvVpn

namespace ExvVpn.Win32Engine

open Function

/-! ## Values -/

/-- `ConnectionMode` of the configuration. -/
inductive ConnectionMode where
  | standard
  | compatibility
  deriving DecidableEq, Repr

/-- `LiveTunnel`: the assembly that built it, its data plane (threads, session and CSTP channel), its route owner and
the generation in its diagnostics. -/
structure LiveTunnel where
  assembly : Nat
  connectionMode : ConnectionMode
  dataPlane : Bool
  route : Option RouteOwner
  generation : Option Nat
  deriving DecidableEq, Repr

/-- `LiveTunnel::cleanup_only`: what is left when there is nothing but routes to clear. -/
def LiveTunnel.cleanupOnly (assembly : Nat) (connectionMode : ConnectionMode) (route : RouteOwner) : LiveTunnel :=
  { assembly, connectionMode, dataPlane := false, route := some route, generation := none }

def LiveTunnel.rows (tunnel : LiveTunnel) : List OwnedRoute :=
  match tunnel.route with
  | some owner => owner.installedRoutes
  | none => []

/-- The rows whose removal a `disconnect_for` tries. -/
def LiveTunnel.tried (tunnel : LiveTunnel) (io : ClearIo) : List OwnedRoute :=
  match tunnel.route with
  | some owner => io.tried owner
  | none => []

/-- `LiveTunnel::disconnect_for`: the data plane stops first, and the route owner is dropped only when it is clear. -/
def LiveTunnel.disconnectFor (tunnel : LiveTunnel) (io : ClearIo) : LiveTunnel × Bool :=
  match tunnel.route with
  | none => ({ tunnel with dataPlane := false }, true)
  | some owner =>
    let (left, cleared) := owner.clear io
    if cleared then
      ({ tunnel with dataPlane := false, route := none }, true)
    else
      ({ tunnel with dataPlane := false, route := some left }, false)

/-! ## Places in the code -/

/-- How far a taker of the live tunnel has come inside the resources lock. -/
inductive CleanStage where
  | locked
  | taken (tunnel : Option LiveTunnel)
  | retrying
  deriving DecidableEq, Repr

/-- How far the assembly has come inside the resources lock, with `newNic` for `nic_newly_created`. -/
inductive AssembleStage where
  | locked
  | granted
  | taken (oldLive : Option LiveTunnel)
  | cleared
  | nicReady (newNic : Bool)
  | applyFailed (newNic : Bool) (pendingRoutes : RouteCleanupObligations)
  | applied (newNic : Bool) (route : RouteOwner)
  | starting (newNic : Bool) (route : RouteOwner)
  | abandoned (newNic : Bool) (route : RouteOwner)
  | closingNic
  | started (route : RouteOwner)
  | numbered (tunnel : LiveTunnel)
  | rejected (tunnel : LiveTunnel)
  deriving DecidableEq, Repr

/-- Who is inside the resources lock: `clear_previous_connection`, a `disconnect`, a sweeper or the second half of
an assembly. -/
inductive Critical where
  | previous (assembly : Nat) (stage : CleanStage)
  | caller (call : Nat) (stage : CleanStage)
  | sweeper (generation : Nat) (stage : CleanStage)
  | assemble (assembly : Nat) (prepared : Bool) (stage : AssembleStage)
  deriving DecidableEq, Repr

/-- Where the thread of an assembly is, as far as the resources lock does not say it. -/
inductive AssemblyPc where
  | entered
  | clearing
  | cleared
  | preflight
  | prepared (prepared : Bool)
  | connecting (prepared : Bool)
  | connected (prepared : Bool)
  | negotiated (prepared : Bool)
  | applying
  | ended
  deriving DecidableEq, Repr

/-- Where a `disconnect` is, with `teardown` for one that `teardown` called; `closing` is past the disconnect. -/
inductive CallerPc where
  | waiting (teardown : Bool)
  | inside (teardown : Bool)
  | closing
  deriving DecidableEq, Repr

/-! ## The state -/

/-- What happened so far, read by no step. An assembly is revoked when a cancel or a disconnect took the commit lock
while it was running and had not published Connected. -/
structure RuntimeHistory where
  connected : Nat → Bool
  revoked : Nat → Bool
  outstanding : List OwnedRoute

/-- The state of the runtime, of the threads it spawned and of the calls in progress. -/
structure RuntimeState where
  nic : Bool
  live : Option LiveTunnel
  pendingRoutes : List RouteCleanupObligations
  resources : Option Critical
  poisoned : Bool
  assembling : Bool
  cancelFlag : Bool
  paused : Bool
  generation : Nat
  accepted : Nat
  assemblies : Nat → Option AssemblyPc
  modes : Nat → ConnectionMode
  calls : Nat → Option CallerPc
  nextCall : Nat
  lost : Nat → Bool
  nextRow : Nat
  history : RuntimeHistory

/-- A runtime that has just been built. -/
def RuntimeState.initial : RuntimeState where
  nic := false
  live := none
  pendingRoutes := []
  resources := none
  poisoned := false
  assembling := false
  cancelFlag := false
  paused := false
  generation := 0
  accepted := 0
  assemblies := fun _ => none
  modes := fun _ => .standard
  calls := fun _ => none
  nextCall := 0
  lost := fun _ => false
  nextRow := 0
  history := { connected := fun _ => false, revoked := fun _ => false, outstanding := [] }

/-! ## Operations of the code -/

variable (s : RuntimeState)

namespace RuntimeState

/-- The record of rows not yet removed, after removals were tried on some of them. -/
def forget (tried : List OwnedRoute) (remove : OwnedRoute → RemoveResult) : RuntimeState :=
  { s with history :=
      { s.history with
        outstanding := s.history.outstanding.filter fun row => !decide (row ∈ tried ∧ remove row = .removed) } }

/-- Moves the thread of an assembly. -/
def setAssembly (n : Nat) (pc : Option AssemblyPc) : RuntimeState :=
  { s with assemblies := update s.assemblies n pc }

def setCall (k : Nat) (pc : Option CallerPc) : RuntimeState :=
  { s with calls := update s.calls k pc }

/-- Goes on inside the resources lock. -/
def inside (critical : Critical) : RuntimeState :=
  { s with resources := some critical }

/-- Gives the resources lock back. -/
def leave : RuntimeState :=
  { s with resources := none }

/-- `assemble` returns, which drops the guard of the resources lock. -/
def endAssembly (n : Nat) : RuntimeState :=
  s.leave.setAssembly n (some .ended)

/-- An `expect` fails inside the NIC and the resources lock: both are poisoned, and `catch_unwind` ends the assembly. -/
def panicAssembly (n : Nat) : RuntimeState :=
  { s.endAssembly n with poisoned := true }

/-- The region of the commit lock in `cancel` and `disconnect`. -/
def revoke : RuntimeState :=
  { s with
    cancelFlag := true
    history :=
      { s.history with
        revoked := fun n => s.history.revoked n || ((s.assemblies n).isSome && !s.history.connected n) } }

/-- `cleanup_or_retain`: a tunnel that could not be cleared goes into the live slot without its data plane. -/
def cleanupOrRetain (tunnel : LiveTunnel) (io : ClearIo) : RuntimeState × Bool :=
  let (left, cleared) := tunnel.disconnectFor io
  let s := s.forget (tunnel.tried io) io.remove
  if cleared then (s, true) else ({ s with live := some left }, false)

/-- The cleaning of a tunnel taken from the slot, if there was one: a failure puts it back. -/
def cleanTaken (taken : Option LiveTunnel) (io : ClearIo) : RuntimeState × Bool :=
  match taken with
  | none => (s, true)
  | some tunnel => s.cleanupOrRetain tunnel io

def retryPendingRoutes (remove : OwnedRoute → RemoveResult) : RuntimeState × Bool :=
  let left := (s.pendingRoutes.map (·.retryClear remove)).filter fun group => !group.routes.isEmpty
  let s := s.forget (s.pendingRoutes.flatMap (·.routes)) remove
  ({ s with pendingRoutes := left }, left.isEmpty)

/-- The old tunnel of an assembly is a local variable: when clearing it fails the error returns at once, and the drop
of the tunnel tries the clearing once more. -/
def replaceOld (old : Option LiveTunnel) (io again : ClearIo) : RuntimeState × Bool :=
  match old with
  | none => (s, true)
  | some tunnel =>
    let (left, cleared) := tunnel.disconnectFor io
    let s := s.forget (tunnel.tried io) io.remove
    if cleared then (s, true) else (s.forget (left.tried again) again.remove, false)

/-- `is_connected`, with what the worker threads report. -/
def isConnected (alive : Bool) : Bool :=
  alive && s.live.any (·.dataPlane)

end RuntimeState

inductive StartDecision where
  | refuseDuplicate
  | adopt
  | proceed
  deriving DecidableEq, Repr

def decideStartApply (assembling connected : Bool) : StartDecision :=
  if assembling then .refuseDuplicate else if connected then .adopt else .proceed

namespace RuntimeState

/-- The accepting end of `start_apply`: the flags are reset and the assembly thread is spawned. -/
def accept (mode : ConnectionMode) : RuntimeState :=
  { s with
    cancelFlag := false
    paused := false
    assembling := true
    accepted := s.accepted + 1
    assemblies := update s.assemblies (s.accepted + 1) (some .entered)
    modes := update s.modes (s.accepted + 1) mode }

/-- `start_apply`, in the commit lock: refused while an assembly runs, and satisfied by a tunnel it can rebind. -/
def startApply (mode : ConnectionMode) (alive rebindable : Bool) : RuntimeState :=
  match decideStartApply s.assembling (s.isConnected alive) with
  | .refuseDuplicate => s
  | .adopt =>
    let rebound := rebindable && s.live.any fun live => live.connectionMode = mode && live.dataPlane
    if rebound then s else s.accept mode
  | .proceed => s.accept mode

end RuntimeState

/-! ## Steps inside the resources lock -/

/-- A step of whoever holds the resources lock, with what the outside answered. -/
inductive CriticalLabel where
  | check
  | take
  | clean (io : ClearIo)
  | retry (remove : OwnedRoute → RemoveResult)
  | replace (io again : ClearIo)
  | ensureNic (created : Bool)
  | applyOffer (io : ApplyIo)
  | closeNic
  | recordPending
  | startPlane (started : Bool)
  | number
  | install (alive : Bool)

/-- `clear_previous_connection`, up to its return. -/
def previousStep (n : Nat) (stage : CleanStage) (label : CriticalLabel) : RuntimeState :=
  match stage, label with
  | .locked, .take => { s with live := none }.inside (.previous n (.taken s.live))
  | .taken tunnel, .clean io =>
    let (s, cleared) := s.cleanTaken tunnel io
    if cleared then s.inside (.previous n .retrying) else s.endAssembly n
  | .retrying, .retry remove =>
    let (s, cleared) := s.retryPendingRoutes remove
    if cleared then s.leave.setAssembly n (some .cleared) else s.endAssembly n
  | _, _ => s

/-- The place of a call that has returned from `disconnect`. -/
def CallerPc.returned : Option CallerPc → Option CallerPc
  | some (.inside true) => some .closing
  | _ => none

/-- `disconnect`, from the second commit region to its return. -/
def callerStep (k : Nat) (stage : CleanStage) (label : CriticalLabel) : RuntimeState :=
  match stage, label with
  | .locked, .take => { s.revoke with live := none }.inside (.caller k (.taken s.live))
  | .taken tunnel, .clean io =>
    let (s, cleared) := s.cleanTaken tunnel io
    if cleared then s.inside (.caller k .retrying) else s.leave.setCall k none
  | .retrying, .retry remove =>
    let (s, cleared) := s.retryPendingRoutes remove
    if cleared then { s with paused := true }.leave.setCall k (CallerPc.returned (s.calls k))
    else s.leave.setCall k none
  | _, _ => s

/-- `live_sweeper_step` inside the lock: the generation is read again before the tunnel is taken. -/
def sweeperStep (g : Nat) (stage : CleanStage) (label : CriticalLabel) : RuntimeState :=
  match stage, label with
  | .locked, .take =>
    if g = s.generation then { s with live := none }.inside (.sweeper g (.taken s.live)) else s.leave
  | .taken none, .clean _ => s.leave
  | .taken (some tunnel), .clean io => { (s.cleanupOrRetain tunnel io).1 with paused := true }.leave
  | _, _ => s

/-- The second half of `assemble`, from the resources lock to the return of `install_live`. -/
def assembleStep (n : Nat) (prepared : Bool) (stage : AssembleStage) (label : CriticalLabel) :
    RuntimeState :=
  match stage, label with
  | .locked, .check => if s.cancelFlag then s.endAssembly n else s.inside (.assemble n prepared .granted)
  | .granted, .take => { s with live := none }.inside (.assemble n prepared (.taken s.live))
  | .taken old, .replace io again =>
    let (s, cleared) := s.replaceOld old io again
    if cleared then s.inside (.assemble n prepared .cleared) else s.endAssembly n
  | .cleared, .ensureNic created =>
    if s.nic then s.inside (.assemble n prepared (.nicReady false))
    -- Without a preflight the missing adapter is an error: "preflight NIC changed unexpectedly".
    else if prepared && created then { s with nic := true }.inside (.assemble n prepared (.nicReady true))
    else s.endAssembly n
  | .nicReady newNic, .applyOffer io =>
    if s.nic then
      let applied := RouteOwner.apply s.nextRow io
      let s := { s with
        nextRow := applied.next
        history := { s.history with outstanding := s.history.outstanding ++ applied.created } }
      match applied.result with
      | .applied owner => s.inside (.assemble n prepared (.applied newNic owner))
      | .failed pendingRoutes =>
        (s.forget applied.created io.rollback).inside (.assemble n prepared (.applyFailed newNic pendingRoutes))
    else s.panicAssembly n
  | .applyFailed true pendingRoutes, .closeNic =>
    { s with nic := false }.inside (.assemble n prepared (.applyFailed false pendingRoutes))
  | .applyFailed false pendingRoutes, .recordPending =>
    if pendingRoutes.routes.isEmpty then s.endAssembly n
    else { s with pendingRoutes := s.pendingRoutes ++ [pendingRoutes] }.endAssembly n
  | .applied newNic route, .check =>
    s.inside (.assemble n prepared (if s.cancelFlag then .abandoned newNic route else .starting newNic route))
  | .starting newNic route, .startPlane started =>
    if s.nic then
      s.inside (.assemble n prepared (if started then .started route else .abandoned newNic route))
    -- The second `expect("nic ensured")`: the route owner is a local variable of the frame that unwinds.
    else s.panicAssembly n
  | .abandoned newNic route, .clean io =>
    let (s, cleared) := s.cleanupOrRetain (LiveTunnel.cleanupOnly n (s.modes n) route) io
    if newNic && cleared then s.inside (.assemble n prepared .closingNic) else s.endAssembly n
  | .closingNic, .closeNic => { s with nic := false }.endAssembly n
  | .started route, .number =>
    { s with generation := s.generation + 1 }.inside (.assemble n prepared (.numbered
      { assembly := n, connectionMode := s.modes n, dataPlane := true, route := some route,
        generation := some (s.generation + 1) }))
  | .numbered tunnel, .install alive =>
    if s.cancelFlag || !alive then s.inside (.assemble n prepared (.rejected tunnel))
    else
      { s with
        live := some tunnel
        paused := false
        history := { s.history with connected := update s.history.connected n true } }.endAssembly n
  | .rejected tunnel, .clean io => (s.cleanupOrRetain tunnel io).1.endAssembly n
  | _, _ => s

/-- A step of the holder of the resources lock. -/
def criticalStep (label : CriticalLabel) : RuntimeState :=
  match s.resources with
  | none => s
  | some (.previous n stage) => previousStep s n stage label
  | some (.caller k stage) => callerStep s k stage label
  | some (.sweeper g stage) => sweeperStep s g stage label
  | some (.assemble n prepared stage) => assembleStep s n prepared stage label

/-! ## Steps outside the resources lock -/

/-- A step of the assembly thread outside the resources lock. -/
inductive AssemblyLabel where
  | check
  | lockPrevious
  | preflight (loaded : Bool)
  | connect (negotiated : Bool)
  | lockResources
  | finish

/-- The assembly thread outside the resources lock: `run_assemble_with_reset` and the first half of `assemble`. -/
def assemblyStep (n : Nat) (label : AssemblyLabel) : RuntimeState :=
  match s.assemblies n, label with
  | some .entered, .check => s.setAssembly n (some (if s.cancelFlag then .ended else .clearing))
  | some .clearing, .lockPrevious =>
    match s.resources with
    | some _ => s
    | none => if s.poisoned then s.endAssembly n else s.inside (.previous n .locked)
  | some .cleared, .check => s.setAssembly n (some (if s.cancelFlag then .ended else .preflight))
  | some .preflight, .preflight loaded =>
    if s.nic then s.setAssembly n (some (.prepared false))
    else s.setAssembly n (some (if loaded then .prepared true else .ended))
  | some (.prepared prepared), .check =>
    s.setAssembly n (some (if s.cancelFlag then .ended else .connecting prepared))
  | some (.connecting prepared), .connect negotiated =>
    s.setAssembly n (some (if negotiated then .connected prepared else .ended))
  | some (.connected prepared), .check =>
    s.setAssembly n (some (if s.cancelFlag then .ended else .negotiated prepared))
  | some (.negotiated prepared), .lockResources =>
    match s.resources with
    | some _ => s
    | none =>
      if s.poisoned then s.endAssembly n
      else (s.setAssembly n (some .applying)).inside (.assemble n prepared .locked)
  | some .ended, .finish => { s.setAssembly n none with assembling := false }
  | _, _ => s

/-- A step of a call of `disconnect` or `teardown` outside the resources lock. -/
inductive CallLabel where
  | lock
  | closeNic

/-- The calls outside the resources lock: waiting for it, and the NIC that `teardown` takes after its disconnect. -/
def callStep (k : Nat) (label : CallLabel) : RuntimeState :=
  match s.calls k, label with
  | some (.waiting teardown), .lock =>
    match s.resources with
    | some _ => s
    | none =>
      if s.poisoned then s.setCall k none
      else (s.setCall k (some (.inside teardown))).inside (.caller k .locked)
  | some .closing, .closeNic => if s.poisoned then s.setCall k none else { s with nic := false }.setCall k none
  | _, _ => s

/-- The sweeper of a generation receives its signal and gets the resources lock; a poisoned lock ends its thread. -/
def sweepStep (g : Nat) : RuntimeState :=
  if s.lost g then
    match s.resources with
    | some _ => s
    | none =>
      let s := { s with lost := update s.lost g false }
      if !s.poisoned && g = s.generation then s.inside (.sweeper g .locked) else s
  else s

/-- One step of the runtime, its threads, its callers and its data planes. -/
inductive RuntimeLabel where
  | startApply (mode : ConnectionMode) (alive rebindable : Bool)
  | cancel
  | disconnect (teardown : Bool)
  | assembly (n : Nat) (label : AssemblyLabel)
  | call (k : Nat) (label : CallLabel)
  | dataPlaneLost (generation : Nat)
  | sweep (generation : Nat)
  | critical (label : CriticalLabel)

/-- The runtime takes one step; a label that is not enabled changes nothing. -/
def runtimeStep : RuntimeLabel → RuntimeState
  | .startApply mode alive rebindable => s.startApply mode alive rebindable
  | .cancel => s.revoke
  | .disconnect teardown =>
    { s.revoke.setCall s.nextCall (some (.waiting teardown)) with nextCall := s.nextCall + 1 }
  | .assembly n label => assemblyStep s n label
  | .call k label => callStep s k label
  -- The writer of a generation that was assigned reports the loss of its data plane.
  | .dataPlaneLost generation =>
    if 0 < generation ∧ generation ≤ s.generation then { s with lost := update s.lost generation true } else s
  | .sweep generation => sweepStep s generation
  | .critical label => criticalStep s label

end ExvVpn.Win32Engine
