import ExvVpn.Lemmas.RouteCleanup
import Mathlib.Data.List.Perm.Subperm

/-!
# Retrying the removal of owned rows

A call of `retry_owned_routes_with` attempts every row once, the last one installed first, and keeps the rows whose removal
fails, in their order. `remove` has a state of its own, so its answers may differ from attempt to attempt and from call to
call.
-/

namespace ExvVpn.PlatformTunnel

open Win32Resource List
open SystemProxy (NativeError)

variable {σ : Type} (remove : σ → OwnedRoute → Except NativeError RemoveOutcome × σ) (state : σ) (owned : List OwnedRoute)

/-- The state of `remove` after it was called for the rows, the last one first. -/
def afterRemoves (owned : List OwnedRoute) : σ := owned.foldr (fun route state => (remove state route).2) state

/-- The rows whose removal succeeded. -/
def CleanupPass.succeeded (pass : CleanupPass σ) : List OwnedRoute :=
  (pass.attempts.filter (·.answer.isOk)).map Attempt.route

/-- Calls one after the other, each on the rows that the one before has left. -/
def retryCall : Nat → CleanupPass σ
  | 0 => retryOwnedRoutesWith remove state owned
  | n + 1 => retryOwnedRoutesWith remove (retryCall n).state (retryCall n).failed

namespace RouteRetryAux

/-- A call leaves the state that its removes leave. -/
theorem state_retryOwnedRoutesWith :
    (retryOwnedRoutesWith remove state owned).state = afterRemoves remove state owned := by
  induction owned with
  | nil => rfl
  | cons route rest ih =>
    rw [retryOwnedRoutesWith_cons, CleanupPass.visit, afterRemoves, foldr_cons, ← afterRemoves, ← ih]
    dsimp only
    split <;> rfl

/-- The attempt at a row is made in the state that the removes of the later rows leave, and has the answer of `remove`. -/
theorem attempt_retryOwnedRoutesWith {earlier later : List OwnedRoute} {route : OwnedRoute}
    (h : owned = earlier ++ route :: later) :
    (retryOwnedRoutesWith remove state owned).attempts[earlier.length]? =
      some ⟨route, afterRemoves remove state later, (remove (afterRemoves remove state later) route).1⟩ := by
  subst h
  induction earlier with
  | nil =>
    rw [nil_append, retryOwnedRoutesWith_cons, CleanupPass.visit, ← state_retryOwnedRoutesWith]
    dsimp only
    split <;> rfl
  | cons first earlier ih =>
    rw [cons_append, retryOwnedRoutesWith_cons, CleanupPass.visit, ← ih]
    dsimp only
    split <;> rfl

/-- The rows that were removed and those that are left are owned rows, each taken once. -/
theorem subperm_retryOwnedRoutesWith :
    ((retryOwnedRoutesWith remove state owned).succeeded ++ (retryOwnedRoutesWith remove state owned).failed).Subperm
      owned := by
  have hattempted := @attempts_retryOwnedRoutesWith σ remove state owned
  have hfailed := @failed_eq_filter_attempts σ remove state owned
  generalize retryOwnedRoutesWith remove state owned = pass at hattempted hfailed
  have hother : (pass.attempts.filter (·.answer.isOk)).Sublist (pass.attempts.filter fun a => !a.hardFailure.isSome) := by
    refine monotone_filter_right _ fun attempt hok => ?_
    cases hanswer : attempt.answer <;> simp_all [Attempt.hardFailure, Except.isOk, Except.toBool]
  rw [hfailed, ← hattempted, CleanupPass.succeeded, ← map_append]
  exact ((hother.append_right _).map _).subperm.trans ((perm_append_comm.trans (filter_append_perm _ _)).map _).subperm

variable {remove state owned}

/-- Later calls leave no other rows. -/
theorem failed_retryCall_subset {m n : Nat} (h : m ≤ n) :
    (retryCall remove state owned n).failed ⊆ (retryCall remove state owned m).failed := by
  induction h with
  | refl => exact fun _ hroute => hroute
  | step _ ih => exact fun route hroute => ih (failed_retryOwnedRoutesWith_subset hroute)

end RouteRetryAux

open RouteRetryAux

/-- A call attempts every row once, the last one first, each attempt in the state that the removes before it have left, and
with the answer that `remove` gives there. What is left are the rows that failed hard, in their order, and the call returns
an error exactly if there are any. In repeated calls the rows that were removed and those that are left are owned rows,
each taken once, and if each row has a call in which it does not fail hard, none is left. -/
theorem retry_exact :
    let call := retryCall remove state owned
    (call 0).attempts.map Attempt.route = owned ∧
      (∀ earlier route later, owned = earlier ++ route :: later → (call 0).attempts[earlier.length]? =
        some ⟨route, afterRemoves remove state later, (remove (afterRemoves remove state later) route).1⟩) ∧
      (call 0).state = afterRemoves remove state owned ∧
      (call 0).failed = ((call 0).attempts.filter (·.hardFailure.isSome)).map Attempt.route ∧
      ((∃ error, (call 0).result = .error error) ↔ (call 0).failed ≠ []) ∧
      ∀ n, (((range (n + 1)).flatMap fun m => (call m).succeeded) ++ (call n).failed).Subperm owned ∧
        ((∀ route ∈ owned, ∃ m ≤ n, ∀ attempt ∈ (call m).attempts, attempt.route = route → attempt.hardFailure = none) →
          (call n).failed = []) := by
  intro call
  have htaken : ∀ n, (((range (n + 1)).flatMap fun m => (call m).succeeded) ++ (call n).failed).Subperm owned := by
    intro n
    induction n with
    | zero =>
      rw [range_one, flatMap_singleton]
      exact subperm_retryOwnedRoutesWith remove state owned
    | succ n ih =>
      rw [range_succ, flatMap_append, append_assoc, flatMap_singleton]
      exact ((subperm_append_left _).mpr (subperm_retryOwnedRoutesWith ..)).trans ih
  refine ⟨attempts_retryOwnedRoutesWith, fun earlier route later => attempt_retryOwnedRoutesWith remove state owned,
    state_retryOwnedRoutesWith remove state owned, failed_eq_filter_attempts, ?_,
    fun n => ⟨htaken n, fun hends => eq_nil_iff_forall_not_mem.mpr fun route hroute => ?_⟩⟩
  · have hnoted : (call 0).firstError.isNone = (call 0).failed.isEmpty := firstError_retryOwnedRoutesWith
    rw [ne_eq, ← List.isEmpty_iff, ← hnoted, CleanupPass.result]
    cases (call 0).firstError <;> simp
  · obtain ⟨m, hm, hnone⟩ := hends route ((htaken n).subset (mem_append_right _ hroute))
    have hleft := failed_retryCall_subset hm hroute
    have hhard : (call m).failed = ((call m).attempts.filter (·.hardFailure.isSome)).map Attempt.route := by
      cases m <;> exact failed_eq_filter_attempts
    rw [hhard] at hleft
    obtain ⟨attempt, hattempt, rfl⟩ := mem_map.mp hleft
    obtain ⟨hmem, hhard⟩ := mem_filter.mp hattempt
    rw [hnone attempt hmem rfl] at hhard
    cases hhard

end ExvVpn.PlatformTunnel
