import ExvVpn.DarwinIpc.ServiceListener
import ExvVpn.Tools.Transition

/-!
# When the service engine can bind its endpoint again

A leaf is taken away by the next `bind` only if it is a socket of the owner, and between `bind(2)` and `fchownat` the leaf is
one of the engine's own uid. So a run that ends in between, by its death or by a call that fails, leaves a leaf that no later
run takes away, unless the owner is the engine's own uid.
-/

namespace ExvVpn.DarwinIpc

open Syscall Transition List

/-- There is no leaf, or it is a socket of the owner with the fixed mode. -/
def reclaimable (owner : UInt32) (s : Leaf) : Bool :=
  s.all fun leaf => leaf.fileType == .socket && leaf.uid == owner && leaf.mode == serviceSocketMode

/-- A directory of the engine's uid that no one else writes to. -/
def Controlled (euid : UInt32) (parent : Option Metadata) : Bool :=
  parent.any fun p => p.fileType == .directory && p.uid == euid && !p.writableByOthers

/-- How many calls the removal of a stale leaf makes. -/
def staleCalls (s : Leaf) : Nat := if s.isSome then 2 else 1

/-- A run of `bind` for another owner that comes through `bind(2)` comes through `listen(2)`, the opening of the parent and
`fchownat` as well. -/
def Seals (euid owner : UInt32) (s : Leaf) : EndpointRun → Prop
  | .bind parent _ script =>
    euid = owner ∨ (Controlled euid parent → goes (staleCalls s + 2) script → goes (staleCalls s + 5) script)
  | .cleanup _ _ => True

instance (euid owner : UInt32) (s : Leaf) (run : EndpointRun) : Decidable (Seals euid owner s run) := by
  cases run <;> unfold Seals <;> infer_instance

variable (euid owner : UInt32) (parent : Option Metadata) (s : Leaf) (script : List Outcome)

theorem look_run {α : Type} (e : PreauthError) (f : Leaf → α) (s : Leaf) (script : List Outcome) :
    look e f s script = (if fails script 0 then .error e else .ok (f s), s, script.tail) := by
  rw [look, call_run]
  split <;> rfl

theorem validate_run : validateServiceParent euid parent s script =
      (if Controlled euid parent && goes 1 script then .ok () else .error .pathInvalid, s, script.tail) := by
  rw [validateServiceParent, bind_run, look_run]
  by_cases hf : fails script 0
  · simp [hf, goes]
  cases parent with
  | none => simp [hf, Controlled]
  | some p =>
    by_cases htype : p.fileType = .directory
    · by_cases huid : p.uid = euid <;> cases hmode : p.writableByOthers <;> simp [hf, goes, Controlled, htype, huid, hmode]
    · simp [hf, Controlled, htype]

/-- Reading the identity changes nothing, and only a leaf to be reclaimed has one. -/
theorem identity_reads : (serviceEndpointIdentity owner s script).2.1 = s ∧
      ∀ i, (serviceEndpointIdentity owner s script).1 = .ok i → reclaimable owner s := by
  rw [serviceEndpointIdentity, bind_run, look_run]
  by_cases hf : fails script 0
  · simp [hf]
  cases s with
  | none => simp [hf]
  | some leaf =>
    by_cases htype : leaf.fileType = .socket <;> by_cases huid : leaf.uid = owner <;>
      by_cases hmode : leaf.mode = serviceSocketMode <;> simp [hf, htype, huid, hmode, reclaimable]

/-- A leaf that may be reclaimed is gone if the calls go through; otherwise it stays. -/
theorem removeStale_run : if reclaimable owner s && goes (staleCalls s) script then
      removeSafeStaleServiceSocket owner s script = (.ok (), none, script.drop (staleCalls s))
    else ∃ e rest, removeSafeStaleServiceSocket owner s script = (.error e, s, rest) := by
  rw [removeSafeStaleServiceSocket, bind_run, look_run, staleCalls]
  by_cases hf : fails script 0
  · cases s <;> simp [hf, goes]
  cases s with
  | none => simp [hf, goes, reclaimable]
  | some leaf =>
    by_cases htype : leaf.fileType = .socket
    · by_cases huid : leaf.uid = owner <;> by_cases hmode : leaf.mode = serviceSocketMode <;>
        by_cases hf' : fails script 1 <;>
        simp [hf, hf', goes, reclaimable, htype, huid, hmode, removeFile, call_run, ← drop_tail]
    · simp [hf, reclaimable, htype]

/-- A stale socket was reclaimable before. -/
theorem reclaimable_removeStale :
    reclaimable owner (removeSafeStaleServiceSocket owner s script).2.1 = reclaimable owner s := by
  have hrun := removeStale_run owner s script
  split at hrun
  case isTrue h =>
    rw [hrun, (Bool.and_eq_true_iff.mp h).1]
    rfl
  case isFalse =>
    obtain ⟨e, rest, hrun⟩ := hrun
    rw [hrun]

variable {euid owner parent s script} {made leaf : Metadata}

/-- The leaf that `bind(2)` has made becomes the owner's by the second call of the sealing. -/
theorem reclaimable_seal (hparent : Controlled euid parent) (htype : leaf.fileType = .socket)
    (hmode : leaf.mode = serviceSocketMode) (script : List Outcome) :
    reclaimable owner (sealServiceSocket owner parent (some leaf) script).2.1 ↔ leaf.uid = owner ∨ goes 2 script := by
  have hsome : parent.isSome := by
    cases parent with
    | none => cases hparent
    | some _ => rfl
  by_cases hf : fails script 0
  · have hopen : openParent parent (some leaf) script = (.error .transport, some leaf, script.tail) := by
      simp [openParent, call_run, hf]
    rw [sealServiceSocket, bind_of_error hopen]
    simp [hf, goes, reclaimable, htype, hmode]
  have hopen : openParent parent (some leaf) script = (.ok (), some leaf, script.tail) := by
    simp [openParent, call_run, hf, hsome]
  rw [sealServiceSocket, bind_of_ok hopen]
  by_cases hf' : fails script 1
  · have hchown : fchownat owner (some leaf) script.tail = (.error .endpointOwnership, some leaf, script.tail.tail) := by
      simp [fchownat, call_run, hf']
    rw [bind_of_error hchown]
    simp [hf', goes, reclaimable, htype, hmode]
  · have hchown : fchownat owner (some leaf) script.tail = (.ok (), some { leaf with uid := owner }, script.tail.tail) := by
      simp [fchownat, call_run, hf']
    rw [bind_of_ok hchown, bind_pure_snd, (identity_reads _ _ _).1]
    simp [hf, hf', goes, reclaimable, htype, hmode]

/-- From `bind(2)` on: the leaf is left as the engine's own if one of the three calls that follow fails. -/
theorem reclaimable_publish (hparent : Controlled euid parent) (script : List Outcome) :
    reclaimable owner ((bindSocket euid made >>= fun _ => look .transport (fun _ => ()) >>= fun _ =>
      sealOrReclaim owner parent : Act EndpointIdentity) none script).2.1 ↔ euid = owner ∨ (goes 1 script → goes 4 script) := by
  by_cases hf : fails script 0
  · have hbind : bindSocket euid made none script = (.error .transport, none, script.tail) := by
      simp [bindSocket, call_run, hf]
    rw [bind_of_error hbind]
    simp [goes, hf, reclaimable]
  let bound : Metadata := { made with fileType := .socket, uid := euid, mode := serviceSocketMode }
  have hbind : bindSocket euid made none script = (.ok (), some bound, script.tail) := by
    simp [bindSocket, call_run, hf, bound, serviceSocketMode]
  rw [bind_of_ok hbind]
  have hlook := look_run .transport (fun _ => ()) (some bound) script.tail
  by_cases hf' : fails script 1
  · rw [fails_tail, if_pos hf'] at hlook
    rw [bind_of_error hlook]
    simp [goes, hf, hf', reclaimable, bound]
  · rw [fails_tail, if_neg hf'] at hlook
    have hsealed : reclaimable owner (sealOrReclaim owner parent (some bound) script.tail.tail).2.1 =
        reclaimable owner (sealServiceSocket owner parent (some bound) script.tail.tail).2.1 := by
      rw [sealOrReclaim, bind_run, attempt]
      cases (sealServiceSocket owner parent (some bound) script.tail.tail).1 with
      | ok _ => rw [(identity_reads _ _ _).1]
      | error e => exact reclaimable_removeStale owner _ _
    rw [bind_of_ok hlook, hsealed, reclaimable_seal hparent rfl rfl]
    simp [goes, hf, hf', bound]

/-- A run of `bind` leaves a leaf to be reclaimed exactly when it found one and seals its own. -/
theorem reclaimable_bind (s : Leaf) :
    reclaimable owner (bind euid owner parent made s script).2.1 ↔
      reclaimable owner s ∧ Seals euid owner s (.bind parent made script) := by
  have hgoes (n : Nat) : goes (staleCalls s + (n + 1)) script =
      (goes 1 script && (goes (staleCalls s) script.tail && goes n (script.tail.drop (staleCalls s)))) := by
    rw [← Nat.add_assoc, goes, goes_add]
    simp [goes]
  have hvalidate := validate_run euid parent s script
  rw [Seals, hgoes 1, hgoes 4, bind]
  split at hvalidate
  case isTrue hstart =>
    obtain ⟨hparent, hfirst⟩ := Bool.and_eq_true_iff.mp hstart
    rw [bind_of_ok hvalidate]
    have hremove := removeStale_run owner s script.tail
    split at hremove
    case isTrue hstale =>
      obtain ⟨hs, hstale⟩ := Bool.and_eq_true_iff.mp hstale
      rw [bind_of_ok hremove, reclaimable_publish hparent]
      simp [hs, hparent, hfirst, hstale]
    case isFalse hstale =>
      obtain ⟨e, rest, hremove⟩ := hremove
      rw [bind_of_error hremove]
      simp_all
  case isFalse hstart =>
    rw [bind_of_error hvalidate]
    simp_all

theorem reclaimable_cleanup (endpoint : EndpointIdentity) (s : Leaf) (script : List Outcome) :
    reclaimable owner (cleanup owner endpoint s script).2.1 ↔ reclaimable owner s := by
  obtain ⟨hstate, hidentity⟩ := identity_reads owner s script
  rw [cleanup, bind_run, mapError]
  rcases hrun : serviceEndpointIdentity owner s script with ⟨result, s', rest⟩
  rw [hrun] at hstate hidentity
  subst hstate
  cases result with
  | error e => rfl
  | ok i =>
    have hs := hidentity i rfl
    have hnone : reclaimable owner none := rfl
    refine iff_of_true ?_ hs
    by_cases hsame : i = endpoint <;> by_cases hf : fails rest 0 <;>
      simp [Except.mapError, hsame, hf, removeFile, call_run, hs, hnone]

/-- Where the leaf may be reclaimed an undisturbed `bind` succeeds, and otherwise it does not. -/
theorem bind_undisturbed (hparent : Controlled euid parent) :
    (∃ endpoint, (bind euid owner parent made s []).1 = .ok endpoint) ↔ reclaimable owner s := by
  have hvalidate := validate_run euid parent s []
  have hremove := removeStale_run owner s []
  simp only [hparent, goes_nil, Bool.and_self, Bool.and_true, drop_nil, if_true] at hvalidate hremove
  rw [bind, bind_of_ok hvalidate]
  split at hremove
  case isTrue hs =>
    refine iff_of_true ?_ hs
    rw [tail_nil, bind_of_ok hremove]
    cases parent with
    | none => cases hparent
    | some p => simp [bindSocket, sealOrReclaim, sealServiceSocket, serviceEndpointIdentity, openParent, fchownat, bind_run,
        call_run, look_run, attempt, serviceSocketMode]
  case isFalse hs =>
    obtain ⟨e, rest, hremove⟩ := hremove
    rw [tail_nil, bind_of_error hremove]
    simp [hs]

/-- After any history of runs, an undisturbed `bind` for the same owner succeeds exactly when every run of `bind` in it that
came through `bind(2)` for another uid than the engine's came through `fchownat`. -/
theorem bind_after_history_iff {euid owner : UInt32} {parent : Option Metadata} (hparent : Controlled euid parent)
    (made : Metadata) (history : List EndpointRun) :
    (∃ endpoint, (bind euid owner parent made (run (endpointStep euid owner) none history) []).1 = .ok endpoint) ↔
      Along (endpointStep euid owner) (Seals euid owner) none history := by
  have hstep (s : Leaf) (l : EndpointRun) :
      reclaimable owner (endpointStep euid owner s l) ↔ reclaimable owner s ∧ Seals euid owner s l := by
    cases l with
    | bind parent made script => exact reclaimable_bind s
    | cleanup endpoint script => exact (reclaimable_cleanup endpoint s script).trans (and_iff_left trivial).symm
  rw [bind_undisturbed hparent]
  exact (iff_along (I := fun s => reclaimable owner s) hstep none history).trans (and_iff_right rfl)

/-- `/Library/Application Support/EXV/ServiceAgent`, of root. -/
def rootParent : Option Metadata := some ⟨.directory, 0, 0, 0o755, 1, 2⟩

/-- The group, the device and the inode of a new leaf. -/
def newLeaf : Metadata := ⟨.socket, 0, 0, 0, 1, 70⟩

/-- A run that dies once the leaf is handed over. -/
theorem bind_after_death : ∃ endpoint, (bind 0 501 rootParent newLeaf (run (endpointStep 0 501) none
    [.bind rootParent newLeaf (.replicate 6 .done ++ .replicate 9 (.failed 0))]) []).1 = .ok endpoint :=
  (bind_after_history_iff rfl newLeaf _).mpr (by decide)

/-- A `fchownat` that fails leaves a socket of root, which the next `bind` refuses. -/
theorem unsealed_leaf_refused : (bind 0 501 rootParent newLeaf (run (endpointStep 0 501) none
    [.bind rootParent newLeaf (.replicate 5 .done ++ [.failed 0])]) []).1 = .error .endpointOwnership := by
  decide

end ExvVpn.DarwinIpc
