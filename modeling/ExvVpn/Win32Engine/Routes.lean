import ExvVpn.Basic
import Mathlib.Data.List.Basic

/-!
# Routes owned by the engine

The part of `platform_tunnel.rs` that decides who owns a route row: what a successful `CreateIpForwardEntry2` hands to the
route owner, what a removal does to the list it is called on, and what `RouteOwner::apply` and `RouteOwner::clear` leave
behind when one of the network families fails.

A created row is known by its number in the order of creation, so two rows with the same destination stay apart. What Windows
answers is data of the call: the outcome of each install, and a `RemoveResult` for each removal. The address, MTU, DNS and
proxy families enter by whether they failed, since they decide whether the routes are reached.
-/

namespace ExvVpn.Win32Engine

/-! ## Rows and their owners -/

/-- `OwnedRoute`: a row this engine created, read back in full or still unconfirmed. -/
inductive OwnedRoute where
  | effective (number : Nat)
  | pending (number : Nat)
  deriving DecidableEq, Repr

/-- The number of the row in the order of creation. -/
def OwnedRoute.number : OwnedRoute → Nat
  | .effective number => number
  | .pending number => number

/-- `RouteInstallOutcome`, with `failed` for an install that returned an error and left no row. -/
inductive RouteInstallOutcome where
  | created
  | createdPending
  | borrowed
  | failed
  deriving DecidableEq, Repr

/-- What the removal of one row returned: success, the code 87 of a row a third party has changed, or another error. -/
inductive RemoveResult where
  | removed
  | changed
  | failed
  deriving DecidableEq, Repr

/-- `RouteOwner`, by the rows it has to remove. -/
structure RouteOwner where
  installedRoutes : List OwnedRoute
  deriving DecidableEq, Repr

/-- `RouteCleanupObligations`: rows whose removal failed and has to be tried again. -/
structure RouteCleanupObligations where
  routes : List OwnedRoute
  deriving DecidableEq, Repr

/-! ## Removing rows -/

/-- One pass of the loop in `retry_owned_routes_with`: only a hard failure keeps the row. -/
def keepFailed (remove : OwnedRoute → RemoveResult) (kept : List OwnedRoute) (route : OwnedRoute) : List OwnedRoute :=
  match remove route with
  | .removed => kept
  | .changed => kept
  | .failed => route :: kept

/-- `retry_owned_routes_with`: rows go last installed first, and those kept stay in the order of installation. -/
def retryOwnedRoutesWith (remove : OwnedRoute → RemoveResult) (owned : List OwnedRoute) : List OwnedRoute :=
  owned.reverse.foldl (keepFailed remove) []

def RouteCleanupObligations.retryClear (remove : OwnedRoute → RemoveResult) (obligations : RouteCleanupObligations) :
    RouteCleanupObligations :=
  ⟨retryOwnedRoutesWith remove obligations.routes⟩

/-- What `RouteOwner::clear` meets in each family, in the order of the code. -/
structure ClearIo where
  dnsRestored : Bool
  proxyRestored : Bool
  remove : OwnedRoute → RemoveResult
  mtuRestored : Bool
  addressesRemoved : Bool

/-- The rows whose removal is tried: none when an earlier family already failed. -/
def ClearIo.tried (io : ClearIo) (owner : RouteOwner) : List OwnedRoute :=
  if io.dnsRestored && io.proxyRestored then owner.installedRoutes else []

/-- `RouteOwner::clear`: the owner that is left, and whether the call succeeded. -/
def RouteOwner.clear (owner : RouteOwner) (io : ClearIo) : RouteOwner × Bool :=
  if io.dnsRestored && io.proxyRestored then
    let left : RouteOwner := ⟨retryOwnedRoutesWith io.remove owner.installedRoutes⟩
    -- MTU and addresses come only after every row is gone from the list.
    (left, left.installedRoutes.isEmpty && io.mtuRestored && io.addressesRemoved)
  else
    (owner, false)

/-! ## Applying an offer -/

/-- What `RouteOwner::apply` meets before the routes, at each install, after the routes, and in a rollback. -/
structure ApplyIo where
  admitted : Bool
  installs : List RouteInstallOutcome
  finished : Bool
  rollback : OwnedRoute → RemoveResult

/-- The install loop with `record_owned_route`: next free row number, rows recorded, whether all installs succeeded. -/
def installRoutes (next : Nat) : List RouteInstallOutcome → Nat × List OwnedRoute × Bool
  | [] => (next, [], true)
  | .created :: rest =>
    let (after, rows, ok) := installRoutes (next + 1) rest
    (after, .effective next :: rows, ok)
  | .createdPending :: rest =>
    let (after, rows, ok) := installRoutes (next + 1) rest
    (after, .pending next :: rows, ok)
  -- A row that was there before is only used, never recorded.
  | .borrowed :: rest => installRoutes next rest
  | .failed :: _ => (next, [], false)

/-- The result of `RouteOwner::apply`. -/
inductive ApplyResult where
  | applied (owner : RouteOwner)
  | failed (pendingRoutes : RouteCleanupObligations)
  deriving DecidableEq, Repr

/-- What one apply did: the next free row number, every row it created, and its result. -/
structure Applied where
  next : Nat
  created : List OwnedRoute
  result : ApplyResult

/-- `RouteOwner::apply`: a failure in any family rolls back, and rows the rollback could not remove go into the error. -/
def RouteOwner.apply (next : Nat) (io : ApplyIo) : Applied :=
  if io.admitted then
    let (after, rows, installed) := installRoutes next io.installs
    if installed && io.finished then
      ⟨after, rows, .applied ⟨rows⟩⟩
    else
      ⟨after, rows, .failed (RouteCleanupObligations.retryClear io.rollback ⟨rows⟩)⟩
  else
    ⟨next, [], .failed ⟨[]⟩⟩

/-! ## What a removal keeps -/

/-- A removal pass keeps the rows whose removal failed hard, in their order. -/
theorem retryOwnedRoutesWith_eq_filter (remove : OwnedRoute → RemoveResult) (owned : List OwnedRoute) :
    retryOwnedRoutesWith remove owned = owned.filter fun route => remove route = .failed := by
  rw [retryOwnedRoutesWith, List.foldl_reverse]
  induction owned with
  | nil => rfl
  | cons route rest ih =>
    rw [List.foldr_cons, ih]
    cases hroute : remove route with
    | removed | changed | failed => simp [keepFailed, hroute]

@[simp]
theorem mem_retryOwnedRoutesWith {remove : OwnedRoute → RemoveResult} {route : OwnedRoute} {owned : List OwnedRoute} :
    route ∈ retryOwnedRoutesWith remove owned ↔ route ∈ owned ∧ remove route = .failed := by
  simp [retryOwnedRoutesWith_eq_filter]

/-- A row of the owner stays with it unless its removal was tried and did not fail hard. -/
theorem mem_clear {owner : RouteOwner} {io : ClearIo} {route : OwnedRoute} :
    route ∈ (owner.clear io).1.installedRoutes ↔
      route ∈ owner.installedRoutes ∧ (route ∈ io.tried owner → io.remove route = .failed) := by
  unfold RouteOwner.clear ClearIo.tried
  split
  · rw [mem_retryOwnedRoutesWith]
    tauto
  · simp

/-- A clear that succeeds leaves the owner without rows. -/
theorem clear_succeeded {owner : RouteOwner} {io : ClearIo} (h : (owner.clear io).2 = true) :
    (owner.clear io).1.installedRoutes = [] := by
  unfold RouteOwner.clear at h ⊢
  split at h
  · rename_i hio
    rw [if_pos hio]
    simp only [Bool.and_eq_true, List.isEmpty_iff] at h
    exact h.1.1
  · cases h

end ExvVpn.Win32Engine
