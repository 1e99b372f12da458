import ExvVpn.Lemmas.HelperOwner
import ExvVpn.Theorems.HelperOperations

/-!
# Ownership of the Windows helper

One peer owns the helper at a time, and only its mutations are admitted. In service mode the end of any lease stream of the
owner's connection releases it, whether or not that stream established the ownership. A mutation that the gate refuses has
already been filed in the index, so it is reported as pending, or as ended if an earlier one under its digest has.
-/

namespace ExvVpn.HelperControl

open Domain Resource Wire Option Transition

/-! ## Exclusivity -/

/-- The step releases this peer, who is the owner: by a ReleaseLease of its own, or by the end of a lease stream of its
connection. -/
def Releases (helper : Helper) (s : ServiceState) (label : Label) (peer : PeerContext) : Prop :=
  ∃ connection, s.core.owner = some ⟨peer, connection⟩ ∧ (serviceStep helper s label).core.owner = none ∧
    ((∃ request, label = .submit (.releaseLease request) ∧ request.peer = some peer) ∨
      ∃ number stream, EndsStream helper s label number stream ∧ stream.peer.connection = connection)

variable {helper : Helper} {s : ServiceState} {label : Label}

/-- A step after which an owner is not the owner any more releases it. -/
theorem releases_of_change {owner : OwnerSession} (howner : s.core.owner = some owner)
    (hafter : ¬ ∃ other, (serviceStep helper s label).core.owner = some other ∧ other.peer = owner.peer) :
    Releases helper s label owner.peer := by
  have hchange := ownerChange_serviceStep helper s label
  obtain ⟨peer, connection⟩ := owner
  generalize hresult : (serviceStep helper s label).core.owner = after at hchange hafter
  cases hchange with
  | kept => exact absurd ⟨_, howner, rfl⟩ hafter
  | taken htaken hstream =>
    obtain ⟨found, hfound, hmay, -⟩ := serviceStep_taken helper htaken
    obtain rfl := some.inj (hfound.symm.trans hstream)
    simp only [mayOwn, howner, decide_eq_true_eq] at hmay
    exact absurd ⟨_, rfl, hmay.symm⟩ hafter
  | released hlabel hpeer hreleased =>
    rw [howner, some.injEq] at hreleased
    cases hreleased
    exact ⟨connection, howner, hresult, .inl ⟨_, hlabel, hpeer⟩⟩
  | ended hmode hends hended hsame =>
    rw [howner, some.injEq] at hended
    subst hended
    exact ⟨connection, howner, hresult, .inr ⟨_, _, hends, hsame.symm⟩⟩

/-- Between two owners with different peers the first one is released. -/
theorem releases_between {owner other : OwnerSession} {later : List Label} (howner : s.core.owner = some owner)
    (hother : (run (serviceStep helper) s later).core.owner = some other) (hne : other.peer ≠ owner.peer) :
    ∃ before label after, later = before ++ label :: after ∧
      Releases helper (run (serviceStep helper) s before) label owner.peer := by
  let Held : ServiceState → Prop := fun t => ∃ now, t.core.owner = some now ∧ now.peer = owner.peer
  have hend : ¬ Held (run (serviceStep helper) s later) := by
    intro h
    obtain ⟨now, hnow, hpeer⟩ := h
    rw [hother, some.injEq] at hnow
    exact hne (hnow ▸ hpeer)
  obtain ⟨before, label, after, hlater, ⟨now, hnow, hpeer⟩, hexit⟩ := exists_exit (P := Held) ⟨owner, howner, rfl⟩ hend
  refine ⟨before, label, after, hlater, ?_⟩
  rw [← hpeer]
  refine releases_of_change hnow ?_
  rw [hpeer]
  exact hexit

/-- After every run: what a step admits is a mutation of the owner, and when another peer is the owner later, the owner was
released in between. -/
theorem owner_exclusive (helper : Helper) (labels : List Label) :
    (∀ label, Admits (serviceRun helper labels).core (serviceStep helper (serviceRun helper labels) label).core →
      ∃ mutation owner, label = .submit mutation ∧ (serviceRun helper labels).core.owner = some owner ∧
        mutation.request.peer = some owner.peer) ∧
    ∀ later owner other, (serviceRun helper labels).core.owner = some owner →
      (serviceRun helper (labels ++ later)).core.owner = some other → other.peer ≠ owner.peer →
      ∃ before label after, later = before ++ label :: after ∧
        Releases helper (serviceRun helper (labels ++ before)) label owner.peer := by
  refine ⟨fun label hadmits => owner_of_admits hadmits, ?_⟩
  intro later owner other howner hother hne
  rw [serviceRun, run_append] at hother
  obtain ⟨before, label, after, hlater, hreleases⟩ := releases_between howner hother hne
  refine ⟨before, label, after, hlater, ?_⟩
  rw [serviceRun, run_append]
  exact hreleases

/-- A second peer on a connection of its own. -/
def otherPeer : PeerContext := { principal := Digest.filled 11, connection := Digest.filled 21 }

/-- The stream of the first owner ends, and the second peer becomes the owner. -/
def handoverRun : List Label :=
  [.leaseEnd 0, .openLease (some otherPeer),
   .leaseMessage 1 [] (.handshake (Digest.filled 11).1 (Digest.filled 0).1 (Digest.filled 0).1)]

/-- The first owner was admitted as the owner, and released before the second peer became the owner. -/
theorem owner_exclusive_handover :
    (∃ mutation owner, Label.submit firstStop = .submit mutation ∧
        (serviceRun sampleHelper acquireRun).core.owner = some owner ∧ mutation.request.peer = some owner.peer) ∧
      ∃ before label after, handoverRun = before ++ label :: after ∧
        Releases sampleHelper (serviceRun sampleHelper (acquireRun ++ before)) label samplePeer := by
  obtain ⟨hadmitted, hreleased⟩ := owner_exclusive sampleHelper acquireRun
  refine ⟨hadmitted _ (.inr (by decide +kernel)), ?_⟩
  exact hreleased handoverRun ⟨samplePeer, samplePeer.connection⟩ ⟨otherPeer, otherPeer.connection⟩ (by decide +kernel)
    (by decide +kernel) (by decide)

/-! ## The end of a lease stream -/

/-- The end of the stream releases the owner only if this stream established the ownership, and the end of any other stream,
or of one that never became the owner, leaves the owner and the leases as they are. -/
def EndsOwn (helper : Helper) (s : ServiceState) (establisher : Option Nat) (label : Label) (number : Nat)
    (stream : LeaseStream) : Prop :=
  (s.core.owner ≠ none → (serviceStep helper s label).core.owner = none → establisher = some number) ∧
    (establisher ≠ some number ∨ stream.leaseEstablished = false →
      (serviceStep helper s label).core.owner = s.core.owner ∧ (serviceStep helper s label).core.leases = s.core.leases)

variable {helper : Helper} {s : ServiceState} {label : Label} {number : Nat} {stream : LeaseStream}

theorem core_of_ends (h : EndsStream helper s label number stream) :
    (serviceStep helper s label).core = releaseOnEof helper s.core stream.peer.connection := by
  obtain ⟨hstream, hopen, hlabel⟩ := h
  rcases hlabel with rfl | ⟨epoch, message, rfl, hrefused⟩
  · simp [serviceStep, hstream, hopen, endStream]
  · simp [serviceStep, hstream, hopen, hrefused, endStream]

/-- In service mode, after every run, the end of a lease stream releases only its own ownership exactly when no other
stream established an ownership on its connection. -/
theorem stream_end_releases_own_iff (helper : Helper) (hmode : helper.connectionMode = .service) (labels : List Label)
    (label : Label) (number : Nat) (stream : LeaseStream)
    (hends : EndsStream helper (serviceRun helper labels) label number stream) :
    EndsOwn helper (serviceRun helper labels) (observedRun helper labels).establisher label number stream ↔
      ∀ owner, (serviceRun helper labels).core.owner = some owner → owner.connection = stream.peer.connection →
        (observedRun helper labels).establisher = some number := by
  have hsound := (sound_observedRun helper labels).owner
  rw [service_observedRun] at hsound
  generalize serviceRun helper labels = s, (observedRun helper labels).establisher = establisher at *
  have hstream := hends.1
  unfold EndsOwn
  rw [core_of_ends hends]
  rcases releaseOnEof_cases helper s.core stream.peer.connection with
    ⟨hkept, hother⟩ | ⟨hreleased, -, owner, howner, hsame⟩
  · rw [hkept]
    refine iff_of_true ⟨fun hsome hnone => absurd hnone hsome, fun _ => ⟨rfl, rfl⟩⟩ ?_
    intro owner howner hsame
    exact absurd hsame (hother hmode owner howner)
  constructor
  · intro hown _ _ _
    exact hown.1 (by simp [howner]) (congrArg HelperControlCore.owner hreleased)
  · intro hestablisher
    have hestablished := hestablisher owner howner hsame
    refine ⟨fun _ _ => hestablished, ?_⟩
    intro hnot
    obtain ⟨found, hfound, other, hother, hopened, -⟩ := hsound owner howner
    rw [hestablished, some.injEq] at hfound
    subst hfound
    rw [hstream, some.injEq] at hother
    subst hother
    rcases hnot with hnot | hnot
    · exact absurd hestablished hnot
    · simp [hopened] at hnot

/-- The stream of the owner in the sample run. -/
def ownerStream : LeaseStream := { peer := samplePeer, leaseEstablished := true, ended := false }

/-- The stream that established the ownership ends. -/
theorem stream_end_releases_own_owner :
    EndsOwn sampleHelper (serviceRun sampleHelper acquireRun) (observedRun sampleHelper acquireRun).establisher
      (.leaseEnd 0) 0 ownerStream := by
  have hestablisher : (observedRun sampleHelper acquireRun).establisher = some 0 := by decide +kernel
  exact (stream_end_releases_own_iff sampleHelper rfl acquireRun (.leaseEnd 0) 0 ownerStream
    ⟨by decide +kernel, rfl, .inl rfl⟩).mpr fun _ _ _ => hestablisher

/-- The owner opens a second lease stream on its connection. -/
def secondStreamRun : List Label := acquireRun ++ [.openLease (some samplePeer)]

/-- A handshake that states another principal. -/
def wrongHandshake : HostLeaseMessage := .handshake (Digest.filled 12).1 (Digest.filled 0).1 (Digest.filled 0).1

/-- The handshake of the second stream is refused, and its end takes the ownership and the lease that the first stream
established. -/
theorem refused_stream_releases_owner :
    EndsStream sampleHelper (serviceRun sampleHelper secondStreamRun) (.leaseMessage 1 [] wrongHandshake) 1
        { peer := samplePeer, leaseEstablished := false, ended := false } ∧
      (observedRun sampleHelper secondStreamRun).establisher = some 0 ∧
      (serviceRun sampleHelper secondStreamRun).core.owner = some ⟨samplePeer, samplePeer.connection⟩ ∧
      ((serviceRun sampleHelper secondStreamRun).core.leases.lease samplePeer.connection).isSome ∧
      (serviceRun sampleHelper (secondStreamRun ++ [.leaseMessage 1 [] wrongHandshake])).core.owner = none ∧
      (serviceRun sampleHelper (secondStreamRun ++ [.leaseMessage 1 [] wrongHandshake])).core.leases.lease
        samplePeer.connection = none := by
  refine ⟨⟨by decide +kernel, rfl, .inr ⟨[], wrongHandshake, rfl, ?_⟩⟩, ?_⟩
  · simp [onLeaseMessage, wrongHandshake, handshakeOk, samplePeer, Digest.filled]
  · decide +kernel

/-! ## Refused mutations -/

/-- GetOperation reports the operation neither as pending nor as ended, and the watermark of the core is the number of
watermarks that the index has given out. -/
def LeavesNothing (helper : Helper) (core : HelperControlCore) (wireKey : WireKey) (key : OperationLookupKey) : Prop :=
  operationState helper core wireKey key ≠ .pending ∧
    (∀ terminal, operationState helper core wireKey key ≠ .terminal terminal) ∧
    core.watermark = core.admissions.nextWatermark

variable {helper : Helper} {core after : HelperControlCore} {mutation : Mutation} {bound : Bound}
  {input : MutationAdmissionInput} {record : MutationAdmitted} {status : Status}

/-- A refusal at the gate does not change the index. -/
theorem passGate_error (h : passGate core input record = (after, .error status)) : after.admissions = core.admissions := by
  unfold passGate at h
  split at h
  · cases h
    rfl
  split at h
  · cases h
    rfl
  split at h
  · cases h
    rfl
  · cases h

/-- After a refusal the key has an entry. -/
theorem entry_of_refusal (h : core.Recorded helper) (hgate : admitAndGate helper core input = (after, .error status)) :
    ∃ digest found, after.admissions.entries (helper.fileOf input.key) = some (.admitted digest found) := by
  cases hentry : core.admissions.entries (helper.fileOf input.key) with
  | none =>
    rw [admitAndGate_of_none hentry] at hgate
    rw [passGate_error hgate]
    exact ⟨_, _, AdmissionIndex.entries_insert_self ..⟩
  | some entry =>
    obtain ⟨key, wireKey, digest, found, rfl, hid, hfile, hmem⟩ := h.sealed _ entry hentry
    by_cases hsame : digest = input.requestDigest
    · subst hsame
      rw [admitAndGate_of_same hentry] at hgate
      rw [passGate_error hgate]
      exact ⟨_, found, hentry⟩
    · rw [admitAndGate_of_ne hentry hsame] at hgate
      cases hgate
      exact ⟨digest, found, hentry⟩

/-- After every run, a mutation that the admission refuses leaves something behind: its entry, or that of an earlier
operation under its digest, makes GetOperation report it as pending or as ended. -/
theorem refused_leaves_something (helper : Helper) (labels : List Label) (mutation : Mutation) (bound : Bound)
    (input : MutationAdmissionInput) (after : HelperControlCore) (status : Status)
    (hinput : Submits mutation bound input)
    (hgate : admitAndGate helper (prepared helper (serviceRun helper labels).core mutation bound) input =
      (after, .error status)) :
    ¬ LeavesNothing helper after bound.wireKey bound.key := by
  rintro ⟨hpending, hended, -⟩
  obtain ⟨digest, found, hentry⟩ := entry_of_refusal (sound_serviceRun helper labels).core.prepared hgate
  rw [hinput.1] at hentry
  unfold operationState at hpending hended
  cases hterminal : after.terminals (helper.fileOf bound.key) with
  | some terminal => exact hended terminal (by simp [hterminal])
  | none => exact hpending (by simp [hterminal, AdmissionIndex.getOperation, hentry])

/-- The second StopTunnel of the sample, bound to its operation. -/
def secondStopBound : Bound :=
  { peer := samplePeer, connection := samplePeer.connection, wireKey := sampleKey 7 43, key := boundKey .stopTunnel 43,
    digest := Digest.filled 51 }

/-- What it submits to the index. -/
def secondStopInput : MutationAdmissionInput :=
  admissionInput sampleHelper (serviceRun sampleHelper stopRun).core samplePeer (sampleHelper.encodeToVec (sampleKey 7 43))
    (Digest.filled 51).1 (boundKey .stopTunnel 43) (Digest.filled 51) .stopTunnel
    (ownedTokenSubject sampleHelper (serviceRun sampleHelper stopRun).core (Digest.filled 51).1) (Id.ending 62)

/-- The second StopTunnel is refused as not durable, and reported as ended with the receipt of the first. -/
theorem refused_leaves_something_second_stop :
    ¬ LeavesNothing sampleHelper
      (admitAndGate sampleHelper (prepared sampleHelper (serviceRun sampleHelper stopRun).core secondStop secondStopBound)
        secondStopInput).1 (sampleKey 7 43) (boundKey .stopTunnel 43) :=
  refused_leaves_something sampleHelper stopRun secondStop secondStopBound secondStopInput _
    ⟨.internal, "mutation ingress: mutation admission not durable"⟩ ⟨rfl, rfl, rfl⟩ (Prod.ext rfl (by decide +kernel))

/-- The owner has no lease yet. -/
def handshakeRun : List Label :=
  [.openLease (some samplePeer),
   .leaseMessage 0 [] (.handshake (Digest.filled 10).1 (Digest.filled 0).1 (Digest.filled 0).1)]

/-- A StopTunnel of an owner without a lease is refused; afterwards it is reported as pending, and the index has given out a
watermark that the core has not counted. -/
theorem refused_stop_reported_pending :
    let s := (submit sampleHelper (serviceRun sampleHelper handshakeRun) firstStop).1
    (submit sampleHelper (serviceRun sampleHelper handshakeRun) firstStop).2 =
        .error ⟨.failedPrecondition, "no owner lease for gate"⟩ ∧
      submittedKeys (serviceRun sampleHelper handshakeRun).core.trace = [] ∧
      getOperation sampleHelper s.core (some samplePeer) (some (sampleKey 7 42)) = .ok .pending ∧
      s.core.watermark = 0 ∧ s.core.admissions.nextWatermark = 1 := by
  decide +kernel

end ExvVpn.HelperControl
