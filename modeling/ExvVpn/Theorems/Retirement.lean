import ExvVpn.Resource.Retirement
import ExvVpn.Tools.History
import ExvVpn.Tools.Transition

/-!
# What a retirement proves

The calls that a saga accepts come in the order of its phases, grants between the start and the observation. So there is one
proof and one retirement at most, and a proof follows the observation of everything that was expected. That the cleanup was
granted, and that the version goes up, is left to the caller.
-/

namespace ExvVpn.Resource

open Domain Transition History List RetirementSaga

/-! ## Calls and their record -/

inductive SagaCall where
  | begin (retirementOperationId : RetirementOperationId) (expectedObligations : List UInt8) (inventory : Digest)
  | grantCleanup (retirementOperationId : RetirementOperationId)
  | observeCleanup (observed : List InventoryPredicate)
  | proveClean (input : ProveCleanInput)
  | retireOwnership (next : OwnershipVersion)

/-- A call that was accepted. -/
inductive SagaEvent where
  | begun (retirementOperationId : RetirementOperationId) (expectedObligations : List UInt8)
  | granted (retirementOperationId : RetirementOperationId)
  | observed (observed : List InventoryPredicate)
  | proved (proof : CleanProof)
  | retired (version : OwnershipVersion)
  deriving DecidableEq

/-- A saga and the calls it accepted, the last one first. -/
structure SagaRun where
  saga : RetirementSaga
  history : List SagaEvent

/-- A saga before any call. -/
def SagaRun.start (authority : AuthorityFence) (prior : OwnershipVersion) : SagaRun := ⟨.new authority prior, []⟩

/-- A saga after a call; one that is refused changes nothing. -/
def sagaStep (r : SagaRun) : SagaCall → SagaRun
  | .begin id expected inventory =>
    match r.saga.begin id expected inventory with
    | .ok saga => ⟨saga, .begun id expected :: r.history⟩
    | .error _ => r
  | .grantCleanup id =>
    match r.saga.grantCleanup id with
    | .ok () => { r with history := .granted id :: r.history }
    | .error _ => r
  | .observeCleanup observed =>
    match r.saga.observeCleanup observed with
    | .ok saga => ⟨saga, .observed observed :: r.history⟩
    | .error _ => r
  | .proveClean input =>
    match r.saga.proveClean input with
    | .ok (saga, proof) => ⟨saga, .proved proof :: r.history⟩
    | .error _ => r
  | .retireOwnership next =>
    match r.saga.retireOwnership next with
    | .ok saga => ⟨saga, .retired next :: r.history⟩
    | .error _ => r

/-- The number of times a label was observed clean. -/
def cleanCount (observed : List InventoryPredicate) (label : UInt8) : Nat :=
  ((observed.filter (·.verified)).map (·.label)).count label

/-- The observation of all that was expected, each as often as expected; before it grants, and at first the start. -/
def Complete (earlier : List SagaEvent) : Prop :=
  ∃ (observed : List InventoryPredicate) (grants : List RetirementOperationId) (id : RetirementOperationId)
    (expected : List UInt8), earlier = .observed observed :: (grants.map .granted ++ [.begun id expected]) ∧
      ∀ label, expected.count label ≤ cleanCount observed label

/-- A proof has a grant before its observation, and a retirement raises the version. -/
def Justified (prior : OwnershipVersion) (before : List SagaEvent) : SagaEvent → Prop
  | .proved _ => ∃ later observed earlier id, before = later ++ .observed observed :: earlier ∧ .granted id ∈ earlier
  | .retired version => prior < version
  | _ => True

/-- What the caller has to see to: a proof is asked for only when the cleanup was granted, and a retirement names a higher
version. -/
def Careful (r : SagaRun) : SagaCall → Prop
  | .proveClean _ => r.saga.phase = .observed → ∃ id, .granted id ∈ r.history
  | .retireOwnership next => r.saga.phase = .proved → r.saga.priorOwnershipVersion < next
  | _ => True

/-! ## The order of what is accepted -/

variable {prior : OwnershipVersion} {r : SagaRun}

namespace RetirementAux

/-- What a saga has accepted in a phase, the last call first. -/
inductive Shape (expected : List UInt8) : RetirementPhase → List SagaEvent → Prop
  | pending : Shape expected .pending []
  | started (id : RetirementOperationId) (grants : List RetirementOperationId) :
      Shape expected .started (grants.map .granted ++ [.begun id expected])
  | observed {earlier : List SagaEvent} (observed : List InventoryPredicate) (h : Shape expected .started earlier)
      (hcovered : ∀ label, expected.count label ≤ cleanCount observed label) :
      Shape expected .observed (.observed observed :: earlier)
  | proved {earlier : List SagaEvent} (proof : CleanProof) (h : Shape expected .observed earlier) :
      Shape expected .proved (.proved proof :: earlier)
  | retired {earlier : List SagaEvent} (version : OwnershipVersion) (h : Shape expected .proved earlier) :
      Shape expected .retired (.retired version :: earlier)

/-- What holds of every saga in a run. -/
structure Sound (prior : OwnershipVersion) (r : SagaRun) : Prop where
  shape : Shape r.saga.expectedObligations r.saga.phase r.history
  identified : r.saga.retirementOperationId = none ↔ r.saga.phase = .pending
  unretired : r.saga.phase ≠ .retired → r.saga.nextOwnershipVersion = none
  prior_eq : r.saga.priorOwnershipVersion = prior

/-- What a call can lead to. -/
inductive Called (r : SagaRun) : SagaCall → SagaRun → Prop
  | refused (call : SagaCall)
      (hprove : ∀ input, call = .proveClean input → r.saga.phase = .observed → r.saga.retirementOperationId = none)
      (hretire : ∀ next, call = .retireOwnership next → r.saga.phase = .proved → r.saga.nextOwnershipVersion ≠ none) :
      Called r call r
  | begun (id : RetirementOperationId) (expected : List UInt8) (inventory : Digest)
      (h : r.saga.retirementOperationId = none) :
      Called r (.begin id expected inventory)
        ⟨{ r.saga with
            retirementOperationId := some id
            expectedObligations := expected
            canonicalInventoryDigest := inventory
            phase := .started }, .begun id expected :: r.history⟩
  | granted (id : RetirementOperationId) (h : r.saga.phase = .started) :
      Called r (.grantCleanup id) { r with history := .granted id :: r.history }
  | observed (observed : List InventoryPredicate) (h : r.saga.phase = .started)
      (hcovered : ∀ label, r.saga.expectedObligations.count label ≤ cleanCount observed label) :
      Called r (.observeCleanup observed) ⟨{ r.saga with phase := .observed }, .observed observed :: r.history⟩
  | proved (input : ProveCleanInput) (proof : CleanProof) (h : r.saga.phase = .observed) :
      Called r (.proveClean input) ⟨{ r.saga with phase := .proved }, .proved proof :: r.history⟩
  | retired (next : OwnershipVersion) (h : r.saga.phase = .proved) :
      Called r (.retireOwnership next)
        ⟨{ r.saga with nextOwnershipVersion := some next, phase := .retired }, .retired next :: r.history⟩

/-- Each call is one of these. -/
theorem called_sagaStep (r : SagaRun) (call : SagaCall) : Called r call (sagaStep r call) := by
  cases call with
  | begin id expected inventory =>
    simp only [sagaStep]
    cases hresult : r.saga.begin id expected inventory with
    | error message => refine .refused _ ?_ ?_ <;> simp
    | ok saga =>
      obtain ⟨hnone, rfl⟩ := begin_eq_ok_iff.mp hresult
      exact .begun id expected inventory hnone
  | grantCleanup id =>
    simp only [sagaStep]
    cases hresult : r.saga.grantCleanup id with
    | error message => refine .refused _ ?_ ?_ <;> simp
    | ok granted => exact .granted id (grantCleanup_eq_ok_iff.mp hresult).1
  | observeCleanup observed =>
    simp only [sagaStep]
    cases hresult : r.saga.observeCleanup observed with
    | error message => refine .refused _ ?_ ?_ <;> simp
    | ok saga =>
      obtain ⟨hphase, hgood, hnodup, hcovers, rfl⟩ := observeCleanup_eq_ok_iff.mp hresult
      refine .observed observed hphase fun label => ?_
      have hfilter : observed.filter (·.verified) = observed :=
        filter_eq_self.mpr fun predicate hpredicate => (hgood predicate hpredicate).1
      rw [cleanCount, hfilter]
      -- labels are expected once each, and all are seen
      by_cases hlabel : label ∈ r.saga.expectedObligations
      · rw [count_eq_one_of_mem hnodup hlabel]
        exact count_pos_iff.mpr (hcovers label hlabel)
      · rw [count_eq_zero_of_not_mem hlabel]
        exact Nat.zero_le _
  | proveClean input =>
    simp only [sagaStep]
    cases hresult : r.saga.proveClean input with
    | error message =>
      refine .refused _ ?_ (by simp)
      intro input' hinput hphase
      by_contra hsome
      obtain ⟨id, hid⟩ := Option.ne_none_iff_exists'.mp hsome
      have hok : r.saga.proveClean input = .ok ({ r.saga with phase := .proved }, r.saga.cleanProof id input) :=
        proveClean_eq_ok_iff.mpr ⟨hphase, id, hid, rfl, rfl⟩
      cases hresult.symm.trans hok
    | ok result =>
      obtain ⟨saga, proof⟩ := result
      obtain ⟨hphase, id, -, -, rfl⟩ := proveClean_eq_ok_iff.mp hresult
      exact .proved input proof hphase
  | retireOwnership next =>
    simp only [sagaStep]
    cases hresult : r.saga.retireOwnership next with
    | error message =>
      refine .refused _ (by simp) ?_
      intro next' hnext hphase hnone
      have hok : r.saga.retireOwnership next = .ok { r.saga with nextOwnershipVersion := some next, phase := .retired } :=
        retireOwnership_eq_ok_iff.mpr ⟨hphase, hnone, rfl⟩
      cases hresult.symm.trans hok
    | ok saga =>
      obtain ⟨hphase, -, rfl⟩ := retireOwnership_eq_ok_iff.mp hresult
      exact .retired next hphase

/-! ## Every run -/

theorem sound_start (authority : AuthorityFence) (prior : OwnershipVersion) : Sound prior (.start authority prior) where
  shape := .pending
  identified := by simp [SagaRun.start, new]
  unretired _ := rfl
  prior_eq := rfl

/-- One call keeps the order of the phases. -/
theorem sound_sagaStep (h : Sound prior r) (call : SagaCall) : Sound prior (sagaStep r call) := by
  have hcalled := called_sagaStep r call
  generalize sagaStep r call = after at hcalled ⊢
  have hshape := h.shape
  cases hcalled with
  | refused _ _ _ => exact h
  | begun id expected inventory hnone =>
    have hpending := h.identified.mp hnone
    rw [hpending] at hshape
    generalize hhistory : r.history = history at hshape ⊢
    cases hshape
    exact ⟨.started id [], by simp, fun _ => h.unretired (by simp [hpending]), h.prior_eq⟩
  | granted id hphase =>
    rw [hphase] at hshape
    refine { h with shape := ?_ }
    generalize hhistory : r.history = history at hshape ⊢
    cases hshape with
    | started first grants =>
      rw [hphase]
      exact .started first (id :: grants)
  | observed observed hphase hcovered =>
    rw [hphase] at hshape
    refine ⟨.observed observed hshape hcovered, ?_, fun _ => h.unretired (by simp [hphase]), h.prior_eq⟩
    simpa [hphase] using h.identified
  | proved input proof hphase =>
    rw [hphase] at hshape
    refine ⟨.proved proof hshape, ?_, fun _ => h.unretired (by simp [hphase]), h.prior_eq⟩
    simpa [hphase] using h.identified
  | retired next hphase =>
    rw [hphase] at hshape
    refine ⟨.retired next hshape, ?_, fun hne => absurd rfl hne, h.prior_eq⟩
    simpa [hphase] using h.identified

/-- A call leaves the phase or takes the next one. -/
theorem rank_le_sagaStep (h : Sound prior r) (call : SagaCall) :
    r.saga.phase.rank ≤ (sagaStep r call).saga.phase.rank := by
  have hcalled := called_sagaStep r call
  generalize sagaStep r call = after at hcalled ⊢
  cases hcalled with
  | refused | granted => exact le_rfl
  | begun id expected inventory hnone => simp [h.identified.mp hnone, RetirementPhase.rank]
  | observed observed hphase _ => simp [hphase, RetirementPhase.rank]
  | proved input proof hphase => simp [hphase, RetirementPhase.rank]
  | retired next hphase => simp [hphase, RetirementPhase.rank]

variable {expected : List UInt8} {phase : RetirementPhase} {history : List SagaEvent}

/-- There is a proof in the last two phases, a retirement in the last, and one of each. -/
theorem Shape.counts (h : Shape expected phase history) :
    history.countP (fun e => e matches .proved _) = (if 3 ≤ phase.rank then 1 else 0) ∧
      history.countP (fun e => e matches .retired _) = (if 4 ≤ phase.rank then 1 else 0) := by
  induction h with
  | pending => simp [RetirementPhase.rank]
  | started id grants => simp [RetirementPhase.rank, countP_map, Function.comp_def]
  | observed observed _ _ ih => simpa [RetirementPhase.rank] using ih
  | proved proof _ ih => simpa [RetirementPhase.rank] using ih
  | retired version _ ih => simpa [RetirementPhase.rank] using ih

theorem Shape.complete_of_observed (h : Shape expected .observed history) : Complete history := by
  cases h with
  | observed observed hstarted hcovered =>
    cases hstarted with
    | started id grants => exact ⟨observed, grants, id, expected, rfl, hcovered⟩

/-- What is before a proof is complete. -/
theorem Shape.complete (h : Shape expected phase history) {later earlier : List SagaEvent} {proof : CleanProof}
    (hhistory : history = later ++ .proved proof :: earlier) : Complete earlier := by
  induction h generalizing later with
  | pending => simp at hhistory
  | started id grants =>
    have hmem : SagaEvent.proved proof ∈ grants.map SagaEvent.granted ++ [.begun id expected] := by simp [hhistory]
    simp at hmem
  | observed observed hstarted _ _ =>
    cases hstarted with
    | started id grants =>
      have hmem : SagaEvent.proved proof ∈ .observed observed :: (grants.map .granted ++ [.begun id expected]) := by
        simp [hhistory]
      simp at hmem
  | proved last hobserved ih =>
    cases later with
    | nil =>
      obtain ⟨-, rfl⟩ := cons.inj hhistory
      exact hobserved.complete_of_observed
    | cons e later => exact ih (cons.inj hhistory).2
  | retired version _ ih =>
    cases later with
    | nil => nomatch (cons.inj hhistory).1
    | cons e later => exact ih (cons.inj hhistory).2

/-- A proof is justified exactly when there was a grant. -/
theorem justified_proved_iff (prior : OwnershipVersion) (h : Shape expected .observed history) (proof : CleanProof) :
    Justified prior history (.proved proof) ↔ ∃ id, .granted id ∈ history := by
  constructor
  · intro ⟨later, observed, earlier, id, hhistory, hmem⟩
    exact ⟨id, hhistory ▸ mem_append_right _ (mem_cons_of_mem _ hmem)⟩
  · intro ⟨id, hmem⟩
    cases h with
    | @observed earlier observed _ _ =>
      have hearlier : .granted id ∈ earlier := (mem_cons.mp hmem).resolve_left (by simp)
      exact ⟨[], observed, earlier, id, rfl, hearlier⟩

/-- A call keeps what was accepted justified exactly when it is made with care. -/
theorem each_justified_sagaStep (h : Sound prior r) (call : SagaCall) :
    Each (Justified prior) (sagaStep r call).history ↔ Each (Justified prior) r.history ∧ Careful r call := by
  have hcalled := called_sagaStep r call
  generalize sagaStep r call = after at hcalled ⊢
  cases hcalled with
  | refused _ hprove hretire =>
    have hcareful : Careful r call := by
      cases call with
      | proveClean input =>
        intro hphase
        have hpending := h.identified.mp (hprove input rfl hphase)
        exact absurd (hphase.symm.trans hpending) (by decide)
      | retireOwnership next =>
        intro hphase
        exact absurd (h.unretired (by simp [hphase])) (hretire next rfl hphase)
      | begin | grantCleanup | observeCleanup => trivial
    exact ⟨fun heach => ⟨heach, hcareful⟩, And.left⟩
  | begun | granted | observed => exact and_comm
  | proved input proof hphase =>
    have hshape := h.shape
    rw [hphase] at hshape
    have hjustified := justified_proved_iff prior hshape proof
    exact ⟨fun ⟨hlast, heach⟩ => ⟨heach, fun _ => hjustified.mp hlast⟩,
      fun ⟨heach, hcareful⟩ => ⟨hjustified.mpr (hcareful hphase), heach⟩⟩
  | retired next hphase =>
    have hprior := h.prior_eq
    exact ⟨fun ⟨hlast, heach⟩ => ⟨heach, fun _ => hprior ▸ hlast⟩,
      fun ⟨heach, hcareful⟩ => ⟨hprior ▸ hcareful hphase, heach⟩⟩

end RetirementAux

open RetirementAux

/-- In every run of a saga the phases never go back, there is one proof and one retirement at most, and a proof follows the
observation of every expected obligation, as often as it was expected. Each proof follows a grant and each retirement raises
the version exactly when the calls are made with care. -/
theorem retirement_saga_iff (authority : AuthorityFence) (prior : OwnershipVersion) (calls : List SagaCall) :
    let reached := run sagaStep (.start authority prior)
    let history := (reached calls).history
    (∀ before middle after, calls = before ++ middle ++ after →
        (reached before).saga.phase.rank ≤ (reached (before ++ middle)).saga.phase.rank) ∧
      history.countP (fun e => e matches .proved _) ≤ 1 ∧ history.countP (fun e => e matches .retired _) ≤ 1 ∧
      (∀ later proof earlier, history = later ++ .proved proof :: earlier → Complete earlier) ∧
      (Each (Justified prior) history ↔ Along sagaStep Careful (.start authority prior) calls) := by
  intro reached history
  have hstart := sound_start authority prior
  have hsound : ∀ calls, Sound prior (reached calls) := fun calls =>
    invariant_of_run (I := Sound prior) (fun _ call h => sound_sagaStep h call) hstart calls
  obtain ⟨hproofs, hretirements⟩ := (hsound calls).shape.counts
  refine ⟨?_, ?_, ?_, ?_, ?_⟩
  · intro before middle after _
    have hreached : reached (before ++ middle) = run sagaStep (reached before) middle := run_append ..
    rw [hreached]
    generalize hfrom : reached before = r
    have hr : Sound prior r := hfrom ▸ hsound before
    have hkept := invariant_of_run (I := fun s => Sound prior s ∧ r.saga.phase.rank ≤ s.saga.phase.rank)
      (fun s call hs => ⟨sound_sagaStep hs.1 call, hs.2.trans (rank_le_sagaStep hs.1 call)⟩) ⟨hr, le_rfl⟩ middle
    exact hkept.2
  · rw [hproofs]
    split <;> omega
  · rw [hretirements]
    split <;> omega
  · intro later proof earlier hhistory
    exact (hsound calls).shape.complete hhistory
  · have hiff := iff_along_of_invariant (J := Sound prior) (I := fun r => Each (Justified prior) r.history)
      (fun _ call h => sound_sagaStep h call) (fun _ call h => each_justified_sagaStep h call) hstart calls
    rw [hiff]
    exact and_iff_right trivial

/-! ## What is not checked -/

namespace RetirementAux

def sampleAuthority : AuthorityFence := ⟨1, .ending 7, 1, 1⟩

def sampleInput : ProveCleanInput := ⟨.ending 7, .filled 1, none, .filled 2, ⟨1, .filled 3⟩, none⟩

/-- No grant. -/
def ungranted : List SagaCall :=
  [.begin (.ending 7) [1] (.filled 4), .observeCleanup [⟨1, true⟩], .proveClean sampleInput]

theorem lowVersion_ne_zero : (1 : UInt64) ≠ 0 := by decide

def lowVersion : OwnershipVersion := ⟨1, lowVersion_ne_zero⟩

/-- A grant, and a retirement at a version below the prior one. -/
def lowered : List SagaCall :=
  [.begin (.ending 7) [1] (.filled 4), .grantCleanup (.ending 7), .observeCleanup [⟨1, true⟩],
    .proveClean sampleInput, .retireOwnership lowVersion]

end RetirementAux

/-- A proof is issued though no cleanup was granted, and ownership of version 5 is retired at version 1. -/
theorem proof_without_grant_and_lower_version :
    let start := SagaRun.start sampleAuthority ⟨5, by decide⟩
    (∃ proof, (run sagaStep start ungranted).history =
        [.proved proof, .observed [⟨1, true⟩], .begun (.ending 7) [1]]) ∧
      (run sagaStep start lowered).saga.phase = .retired ∧
      (run sagaStep start lowered).saga.nextOwnershipVersion = some lowVersion :=
  ⟨⟨_, rfl⟩, rfl, rfl⟩

end ExvVpn.Resource
