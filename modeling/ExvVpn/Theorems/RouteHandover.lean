import ExvVpn.Lemmas.EngineRoutes
import ExvVpn.Lemmas.RouteCleanup

/-!
# The runtime's routes and the rows of the table

The runtime knows a row by its number and is told how a removal ended; the route table says what a removal does. A
cleanup of the table keeps, by number, the rows that a cleanup of the runtime keeps.
-/

namespace ExvVpn.PlatformTunnel

open Win32Resource List Win32Engine.RouteOwner

/-- The row as the runtime knows it, by the number its name was given. -/
def OwnedRoute.numbered (number : RouteIdentity → Nat) : OwnedRoute → Win32Engine.OwnedRoute
  | .effective row => .effective (number row.identity)
  | .pending submitted => .pending (number submitted.identity)

/-- A cleanup of rows that are in the table keeps what a cleanup of the runtime keeps that is told its results. -/
theorem retryOnTable_numbered {table : RouteTable} {owned : List OwnedRoute} {io : OwnedRoute → RemoveIo}
    (hpresent : Present table owned) (number : RouteIdentity → Nat)
    (remove : Win32Engine.OwnedRoute → Win32Engine.RemoveResult)
    (hremove : ∀ route ∈ owned, remove (route.numbered number) = route.result (io route)) :
    (retryOnTable table owned io).failed.map (·.numbered number) =
      Win32Engine.retryOwnedRoutesWith remove (owned.map (·.numbered number)) := by
  rw [failed_retryOnTable io hpresent, Win32Engine.retryOwnedRoutesWith_eq_filter, filter_map]
  congr 1
  refine filter_congr ?_
  intro route hroute
  simp [hremove route hroute]

/-- The families of a clear as the runtime is told them. -/
def ClearIo.numbered (io : ClearIo) (remove : Win32Engine.OwnedRoute → Win32Engine.RemoveResult) :
    Win32Engine.ClearIo :=
  ⟨io.dnsRestored, io.proxyRestored, remove, io.mtuRestored, io.addressesRemoved⟩

/-- A clear of the owner leaves what the clear of the runtime leaves, and they succeed together. -/
theorem clear_numbered {owner : RouteOwner} {table : RouteTable} {io : ClearIo}
    (hpresent : Present table owner.installedRoutes) (number : RouteIdentity → Nat)
    (remove : Win32Engine.OwnedRoute → Win32Engine.RemoveResult)
    (hremove : ∀ route ∈ owner.installedRoutes, remove (route.numbered number) = route.result (io.remove route)) :
    clear ⟨owner.installedRoutes.map (·.numbered number)⟩ (io.numbered remove) =
      (⟨(owner.clear table io).owner.installedRoutes.map (·.numbered number)⟩, (owner.clear table io).succeeded) := by
  have hkept := retryOnTable_numbered hpresent number remove hremove
  have herror : (retryOnTable table owner.installedRoutes io.remove).firstError.isNone =
      (retryOnTable table owner.installedRoutes io.remove).failed.isEmpty :=
    firstError_retryOwnedRoutesWith
  unfold clear RouteOwner.clear
  by_cases hreached : (io.dnsRestored && io.proxyRestored) = true
  · simp only [ClearIo.numbered, hreached, if_true]
    rw [← hkept, herror, isEmpty_map]
  · simp [ClearIo.numbered, hreached]

/-- Two rows, numbered by their prefix lengths: the delete of the second one is denied, so it is kept on both sides and both
clears fail. -/
theorem clear_numbered_two :
    let remove : Win32Engine.OwnedRoute → Win32Engine.RemoveResult :=
      fun route => if route.number = 12 then .failed else .removed
    clear ⟨[.effective 8, .effective 12]⟩ ⟨true, true, remove, true, true⟩ =
      (⟨[.effective 12]⟩, false) :=
  let first := RouteRow.new ⟨10, 0, 0, 0⟩ 8 .unspecified 1 5
  let second := RouteRow.new ⟨172, 16, 0, 0⟩ 12 .unspecified 1 5
  let denied : OwnedRoute → RemoveIo := fun route =>
    ⟨none, none, if route.identity = second.identity then some ⟨5, by decide⟩ else none⟩
  @clear_numbered ⟨[.effective first, .effective second]⟩ ((RouteTable.empty.insert first).insert second)
    ⟨true, true, denied, true, true⟩ ⟨by decide, by decide⟩ (·.key.prefixLen) _ (by decide)

end ExvVpn.PlatformTunnel
