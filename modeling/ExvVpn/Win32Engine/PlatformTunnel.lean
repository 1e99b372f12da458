import ExvVpn.Win32Resource.Routes

/-!
# The route owner on the route table

`RouteOwner` of `platform_tunnel.rs` over the route table of Windows: the rows of a plan go in one after the other, the
created ones are recorded, and a failure, a `clear` or a retry takes them out in reverse order.

The address, MTU, DNS and proxy families enter by whether they failed, since they decide whether the rows are reached. Each
row that a cleanup takes out is noted with the table right before.
-/

namespace ExvVpn.PlatformTunnel

open RustStr
open SystemProxy (NativeError)
open Win32Resource

/-! ## The plan -/

def routeMetric : UInt32 := 5

/-- `parse_route_destination`: a bare address is a host route. -/
def parseRouteDestination (route : Text) : Option (Ipv4.Addr × Nat) := do
  let (net, prefixLen) ← match splitOnce '/' route with
    | some (net, length) => (parseUnsigned 255 length).map fun prefixLen => (net, prefixLen)
    | none => some (route, 32)
  let net ← Ipv4.Addr.parse net
  if 32 < prefixLen then none else some (net, prefixLen)

/-- What `RouteOwner::apply` is called with. A bypass row comes from `RouteRow::new`, in `gateway_bypass_row` or in
`gateway_egress_row_from_observation`. -/
structure TunnelPlan where
  luid : UInt64
  prefixLen : Nat
  routes : List Text
  campusRoutes : List Text
  bypass : Option RouteRow
  bypassManual : ∀ row, bypass = some row → row.protocol = protocolNetmgmt

/-- The rows of the offer and of the campus routes; `none` for a route that cannot be read. -/
def TunnelPlan.tunnelRows (plan : TunnelPlan) : Option (List RouteRow) :=
  (plan.routes ++ plan.campusRoutes).mapM fun route =>
    (parseRouteDestination route).map fun (net, prefixLen) =>
      RouteRow.new net prefixLen .unspecified plan.luid routeMetric

/-! ## Owned rows -/

inductive OwnedRoute where
  | effective (row : RouteRow)
  | pending (submitted : RouteRow)
  deriving DecidableEq, Repr

/-- The name of the owned row in the table. -/
def OwnedRoute.identity : OwnedRoute → RouteIdentity
  | .effective row => row.identity
  | .pending submitted => submitted.identity

structure RouteOwnershipFacts where
  created : Nat
  borrowed : Nat
  pending : Nat
  deriving DecidableEq, Repr

/-- The route table and the local variables of `RouteOwner::apply` while rows are installed. -/
structure Installing where
  table : RouteTable
  installedRoutes : List OwnedRoute
  ownership : RouteOwnershipFacts

def recordOwnedRoute (s : Installing) : RouteInstallOutcome → Installing
  | .created actual =>
    { s with
      installedRoutes := s.installedRoutes ++ [.effective actual]
      ownership := { s.ownership with created := s.ownership.created + 1 } }
  | .createdPending submitted _ _ =>
    { s with
      installedRoutes := s.installedRoutes ++ [.pending submitted]
      ownership := { s.ownership with pending := s.ownership.pending + 1 } }
  | .borrowed _ => { s with ownership := { s.ownership with borrowed := s.ownership.borrowed + 1 } }

/-- The install loop, from the install with the given number on: the first error ends it. -/
def installRoutes (io : Nat → InstallIo) (number : Nat) (s : Installing) :
    List RouteRow → Except NativeError Unit × Installing
  | [] => (.ok (), s)
  | row :: rest =>
    let (outcome, table) := installWithOutcome s.table row (io number)
    match outcome with
    | .error error => (.error error, { s with table })
    | .ok outcome => installRoutes io (number + 1) (recordOwnedRoute { s with table } outcome) rest

/-! ## Removing owned rows -/

def removeOwnedRoute (table : RouteTable) (route : OwnedRoute) (io : RemoveIo) :
    Except NativeError RemoveOutcome × RouteTable :=
  match route with
  | .effective row => remove table row io
  | .pending submitted => removeCreatedPending table submitted io

/-- A call of the closure `remove`: the row, the state it found, and its answer. -/
structure Attempt (σ : Type) where
  route : OwnedRoute
  before : σ
  answer : Except NativeError RemoveOutcome

/-- The error for which the row stays owned. Code 87 stands for a row that a third party has changed. -/
def Attempt.hardFailure {σ : Type} (attempt : Attempt σ) : Option NativeError :=
  match attempt.answer with
  | .ok _ => none
  | .error error => if error.code = 87 then none else some error

/-- The loop of `retry_owned_routes_with`, with the state that the closure works on. What failed last comes first, so it
stands in the order of installation; the attempts are a history, the last one first. -/
structure CleanupPass (σ : Type) where
  state : σ
  failed : List OwnedRoute
  firstError : Option NativeError
  attempts : List (Attempt σ)

/-- One pass of the loop. -/
def CleanupPass.visit {σ : Type} (remove : σ → OwnedRoute → Except NativeError RemoveOutcome × σ) (pass : CleanupPass σ)
    (route : OwnedRoute) : CleanupPass σ :=
  let (answer, state) := remove pass.state route
  let attempt : Attempt σ := ⟨route, pass.state, answer⟩
  let pass := { pass with state, attempts := attempt :: pass.attempts }
  match attempt.hardFailure with
  | none => pass
  | some error => { pass with failed := route :: pass.failed, firstError := pass.firstError.or (some error) }

/-- `retry_owned_routes_with`: the last row installed goes first. -/
def retryOwnedRoutesWith {σ : Type} (remove : σ → OwnedRoute → Except NativeError RemoveOutcome × σ) (state : σ)
    (owned : List OwnedRoute) : CleanupPass σ :=
  owned.reverse.foldl (CleanupPass.visit remove) ⟨state, [], none, []⟩

/-- What the call returns: the first error and the number of rows that are left. -/
def CleanupPass.result {σ : Type} (pass : CleanupPass σ) : Except (NativeError × Nat) Unit :=
  match pass.firstError with
  | some error => .error (error, pass.failed.length)
  | none => .ok ()

/-- The rows that were taken out, each with the state right before. -/
def CleanupPass.removals {σ : Type} (pass : CleanupPass σ) : List (Attempt σ) :=
  pass.attempts.filter fun attempt => match attempt.answer with
    | .ok .removed => true
    | _ => false

/-- `retry_owned_routes_with` with `remove_owned_route`, on the route table. -/
def retryOnTable (table : RouteTable) (owned : List OwnedRoute) (io : OwnedRoute → RemoveIo) : CleanupPass RouteTable :=
  retryOwnedRoutesWith (fun table route => removeOwnedRoute table route (io route)) table owned

structure RouteCleanupObligations where
  routes : List OwnedRoute
  deriving DecidableEq, Repr

/-! ## The owner -/

/-- `RouteOwner`, by the rows it has to remove. -/
structure RouteOwner where
  installedRoutes : List OwnedRoute
  deriving DecidableEq, Repr

/-- The step of `RouteOwner::apply` that failed. -/
inductive ApplyFailure where
  | invalidPrefix
  | routeShape
  | address
  | mtu
  | bypassInstall (error : NativeError)
  | routeInstall (error : NativeError)
  | dns
  deriving DecidableEq, Repr

structure RouteApplyError where
  detail : ApplyFailure
  pendingRoutes : RouteCleanupObligations
  routeNativeCode : Option UInt32
  deriving DecidableEq, Repr

/-- What `RouteOwner::apply` meets: the families before the rows, each install, the DNS family and the rollback. -/
structure ApplyIo where
  addressApplied : Bool
  mtuApplied : Bool
  install : Nat → InstallIo
  dnsApplied : Bool
  rollback : OwnedRoute → RemoveIo

/-- What an apply returns, the table after it and the rows its rollback took out. -/
structure Applied where
  result : Except RouteApplyError (RouteOwner × RouteOwnershipFacts)
  table : RouteTable
  removals : List (Attempt RouteTable)

/-- A plan that is refused before anything is done. -/
def refuse (table : RouteTable) (detail : ApplyFailure) : Applied :=
  ⟨.error ⟨detail, ⟨[]⟩, none⟩, table, []⟩

/-- The rollback: rows that cannot be removed go into the error. -/
def rollBack (s : Installing) (io : ApplyIo) (detail : ApplyFailure) (code : Option UInt32) : Applied :=
  let pass := retryOnTable s.table s.installedRoutes io.rollback
  ⟨.error ⟨detail, ⟨pass.failed⟩, code⟩, pass.state, pass.removals⟩

/-- `RouteOwner::apply`: the bypass row goes in before the rows of the tunnel. -/
def RouteOwner.apply (table : RouteTable) (plan : TunnelPlan) (io : ApplyIo) : Applied :=
  if 32 < plan.prefixLen then refuse table .invalidPrefix
  else
    match plan.tunnelRows with
    | none => refuse table .routeShape
    | some rows =>
      let s : Installing := ⟨table, [], ⟨0, 0, 0⟩⟩
      if !io.addressApplied then rollBack s io .address none
      else if !io.mtuApplied then rollBack s io .mtu none
      else
        match installRoutes io.install 0 s plan.bypass.toList with
        | (.error error, s) => rollBack s io (.bypassInstall error) (some error.code)
        | (.ok (), s) =>
          match installRoutes io.install plan.bypass.toList.length s rows with
          | (.error error, s) => rollBack s io (.routeInstall error) (some error.code)
          | (.ok (), s) =>
            if io.dnsApplied then ⟨.ok (⟨s.installedRoutes⟩, s.ownership), s.table, []⟩
            else rollBack s io .dns none

/-- What `RouteOwner::clear` meets in each family, in the order of the code. -/
structure ClearIo where
  dnsRestored : Bool
  proxyRestored : Bool
  remove : OwnedRoute → RemoveIo
  mtuRestored : Bool
  addressesRemoved : Bool

/-- What a clear leaves: the owner, the table, whether it succeeded, and the rows it took out. -/
structure Cleared where
  owner : RouteOwner
  table : RouteTable
  succeeded : Bool
  removals : List (Attempt RouteTable)

def RouteOwner.clear (owner : RouteOwner) (table : RouteTable) (io : ClearIo) : Cleared :=
  if io.dnsRestored && io.proxyRestored then
    let pass := retryOnTable table owner.installedRoutes io.remove
    ⟨⟨pass.failed⟩, pass.state, pass.firstError.isNone && io.mtuRestored && io.addressesRemoved, pass.removals⟩
  else ⟨owner, table, false, []⟩

/-- What a retry of pending rows leaves. -/
structure Retried where
  obligations : RouteCleanupObligations
  table : RouteTable
  removals : List (Attempt RouteTable)

def RouteCleanupObligations.retryClear (obligations : RouteCleanupObligations) (table : RouteTable)
    (io : OwnedRoute → RemoveIo) : Retried :=
  let pass := retryOnTable table obligations.routes io
  ⟨⟨pass.failed⟩, pass.state, pass.removals⟩

/-! ## Runs -/

/-- Who has rows to remove: nobody, the owner of a live tunnel, or the list of pending obligations. -/
inductive Holder where
  | nobody
  | live (owner : RouteOwner)
  | pending (obligations : RouteCleanupObligations)
  deriving DecidableEq, Repr

/-- The route table, who has rows to remove, the bypass row of the last plan, and what was taken out so far, each
removal with the bypass row of its plan. -/
structure RouteState where
  table : RouteTable
  holder : Holder
  bypass : Option RouteIdentity
  removals : List (Option RouteIdentity × Attempt RouteTable)

/-- A call of the runtime. -/
inductive RouteLabel where
  | apply (plan : TunnelPlan) (io : ApplyIo)
  | clear (io : ClearIo)
  | retry (io : OwnedRoute → RemoveIo)

/-- A runtime that has not applied a plan yet. -/
def RouteState.start (table : RouteTable) : RouteState := ⟨table, .nobody, none, []⟩

/-- The removals of a call, with the bypass row. -/
def noted (bypass : Option RouteIdentity) (removals : List (Attempt RouteTable)) : List (Option RouteIdentity × Attempt RouteTable) :=
  removals.map fun removal => (bypass, removal)

/-- Pending obligations are kept as long as there are any. -/
def Holder.ofPending (obligations : RouteCleanupObligations) : Holder :=
  if obligations.routes.isEmpty then .nobody else .pending obligations

/-- One call of the runtime. A plan is applied only when nothing is left to remove: `clear_previous_connection` has
cleared the live tunnel and the pending rows, and one assembly runs at a time. -/
def routeStep (s : RouteState) (label : RouteLabel) : RouteState :=
  match s.holder, label with
  | .nobody, .apply plan io =>
    let applied := RouteOwner.apply s.table plan io
    let bypass := plan.bypass.map RouteRow.identity
    { table := applied.table
      holder := match applied.result with
        | .ok (owner, _) => .live owner
        | .error error => .ofPending error.pendingRoutes
      bypass := bypass
      removals := noted bypass applied.removals ++ s.removals }
  | .live owner, .clear io =>
    let cleared := owner.clear s.table io
    { s with
      table := cleared.table
      holder := if cleared.succeeded then .nobody else .live cleared.owner
      removals := noted s.bypass cleared.removals ++ s.removals }
  | .pending obligations, .retry io =>
    let retried := obligations.retryClear s.table io
    { s with
      table := retried.table
      holder := .ofPending retried.obligations
      removals := noted s.bypass retried.removals ++ s.removals }
  | _, _ => s

end ExvVpn.PlatformTunnel
