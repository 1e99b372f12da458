import ExvVpn.Basic

/-!
# The resource ledger of the macOS engine

`ResourceLedger` of `bootstrap_runtime.rs`: what outlives a session on macOS. It holds the route to the VPN server, a utun
device kept for a reconnect, and routes whose removal failed. Every function runs under the ledger's lock; what the kernel
answers is data of the call.
-/

namespace ExvVpn.DarwinEngine

structure AppliedRoute where
  destination : Nat
  prefixLength : Nat
  gateway : Nat
  ifindex : Nat
  deriving DecidableEq, Repr

/-- What names a row of the route table. -/
abbrev Row := Nat × Nat

/-- Where a row of the route table leads; a gateway that is not an IPv4 address is `none`. -/
structure Hop where
  gateway : Option Nat
  ifindex : Nat
  deriving DecidableEq, Repr

namespace AppliedRoute

def row (route : AppliedRoute) : Row := (route.destination, route.prefixLength)

/-- Where the route leads. -/
def hop (route : AppliedRoute) : Hop := ⟨some route.gateway, route.ifindex⟩

/-- The route to the one host at its destination. -/
def host (route : AppliedRoute) : AppliedRoute := { route with prefixLength := 32 }

end AppliedRoute

/-- A route call that returned `Ok`: an `add` or a `change`, or a `delete`. -/
inductive RouteCall where
  | put (route : AppliedRoute)
  | delete (route : AppliedRoute)
  deriving DecidableEq, Repr

/-- `ResourceLedger`; of the device it matters only that one is kept. -/
structure ResourceLedger where
  controlRoute : Option AppliedRoute
  retainedDevice : Bool
  pendingRoutes : List AppliedRoute
  deriving DecidableEq, Repr

namespace ResourceLedger

/-- The ledger that holds nothing. -/
def empty : ResourceLedger :=
  ⟨none, false, []⟩

/-! ## The route to the server -/

/-- What `read_exact` finds where the wanted route should be. -/
inductive Observed where
  | unreadable
  | absent
  | same
  | different
  deriving DecidableEq, Repr

/-- What `add` answers; `present` is `EEXIST`. -/
inductive AddResult where
  | added
  | present
  | failed
  deriving DecidableEq, Repr

/-- The kernel's answers to one `ensure_control_route`. -/
structure ControlRouteIo where
  previousDeleted : Bool
  observed : Observed
  added : AddResult
  observedAgain : Observed
  changed : Bool
  confirmed : Bool

variable (ledger : ResourceLedger) (desired : AppliedRoute) (io : ControlRouteIo)

/-- The update for a route that is there with other values: it is recorded once the kernel has accepted the change. -/
def changeControlRoute :
    ResourceLedger × Bool :=
  if io.changed then ({ ledger with controlRoute := some desired }, io.confirmed) else (ledger, false)

/-- The update by what is observed; a route that somebody else has already put there is used and not recorded. -/
def updateControlRoute :
    ResourceLedger × Bool :=
  match io.observed with
  | .unreadable => (ledger, false)
  | .same => (ledger, io.confirmed)
  | .different => ledger.changeControlRoute desired io
  | .absent =>
    match io.added with
    | .added => ({ ledger with controlRoute := some desired }, io.confirmed)
    | .failed => (ledger, false)
    | .present =>
      match io.observedAgain with
      | .unreadable => (ledger, false)
      | .absent => (ledger, false)
      | .same => (ledger, io.confirmed)
      | .different => ledger.changeControlRoute desired io

/-- `ensure_control_route`: a recorded route to another server goes first. -/
def ensureControlRoute :
    ResourceLedger × Bool :=
  match ledger.controlRoute with
  | none => ledger.updateControlRoute desired io
  | some previous =>
    if previous.destination = desired.destination then ledger.updateControlRoute desired io
    else if io.previousDeleted then { ledger with controlRoute := none }.updateControlRoute desired io
    else (ledger, false)

/-- The successful route calls of `changeControlRoute`. -/
def changeCalls : List RouteCall :=
  if io.changed then [.put desired] else []

/-- The successful route calls of `updateControlRoute`. -/
def updateCalls : List RouteCall :=
  match io.observed with
  | .unreadable => []
  | .same => []
  | .different => changeCalls desired io
  | .absent =>
    match io.added with
    | .added => [.put desired]
    | .failed => []
    | .present =>
      match io.observedAgain with
      | .different => changeCalls desired io
      | _ => []

/-- The successful route calls of `ensureControlRoute`. -/
def controlRouteCalls : List RouteCall :=
  match ledger.controlRoute with
  | none => updateCalls desired io
  | some previous =>
    if previous.destination = desired.destination then updateCalls desired io
    else if io.previousDeleted then .delete previous :: updateCalls desired io
    else []

/-! ## Devices and routes left over -/

def rememberRouteCleanupFailure (route : AppliedRoute) : ResourceLedger :=
  if route ∈ ledger.pendingRoutes then ledger
  else { ledger with pendingRoutes := ledger.pendingRoutes ++ [route] }

/-- `complete_resource_cleanup`: each entry is tried, what fails stays, and the device goes in any case. -/
def completeResourceCleanup (deleted : AppliedRoute → Bool) : ResourceLedger × Bool :=
  let retry := ledger.pendingRoutes.filter fun route => !deleted route
  let controlRoute := ledger.controlRoute.filter fun route => !deleted route
  (⟨controlRoute, false, retry⟩, retry.isEmpty && controlRoute.isNone)

/-- The successful route calls of `completeResourceCleanup`. -/
def cleanupCalls (deleted : AppliedRoute → Bool) : List RouteCall :=
  ((ledger.pendingRoutes ++ ledger.controlRoute.toList).filter deleted).map .delete

/-- A cleanup that succeeds leaves nothing in the ledger. -/
theorem completeResourceCleanup_succeeded {ledger : ResourceLedger} {deleted : AppliedRoute → Bool}
    (h : (ledger.completeResourceCleanup deleted).2 = true) : (ledger.completeResourceCleanup deleted).1 = empty := by
  simp only [completeResourceCleanup, Bool.and_eq_true, List.isEmpty_iff, Option.isNone_iff_eq_none] at h
  simp [completeResourceCleanup, h.1, h.2, empty]

end ResourceLedger

end ExvVpn.DarwinEngine
