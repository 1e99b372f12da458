import ExvVpn.Win32Engine.Status
import ExvVpn.Tools.History
import ExvVpn.Tools.Transition

/-!
# What the status hub says about an operation, and to whom

`publish` compares an event with the latest one only. It drops the live events of an operation that has ended until an event
of another operation comes; then they are delivered again. A stream receives what is accepted from its opening until it is
closed, whatever other receivers do.
-/

namespace ExvVpn.EngineStatus

open History Transition HubEntry StatusPublisher Wire

def StatusEvent.ends (event : StatusEvent) (operationId : Bytes) : Bool := event.operationId = operationId && event.isEnd

/-- The end of the operation was published. -/
def HubEntry.ends (operationId : Bytes) : HubEntry → Bool
  | .published event => event.ends operationId
  | .delivered _ _ => false

/-- A live event that goes into a channel is of an operation whose end was not published before. -/
def NoResurrection (before : List HubEntry) : HubEntry → Prop
  | .published _ => True
  | .delivered _ event => event.isLive = true → before.any (ends event.operationId) = false

/-- A live event of an operation that has ended is published only while an end of that operation is the latest event. -/
def endsStayLatest (hub : StatusPublisher) : HubLabel → Prop
  | .publish event =>
    event.isLive = true → hub.history.any (ends event.operationId) = true →
      hub.latest.any (·.ends event.operationId) = true
  | _ => True

instance (hub : StatusPublisher) (label : HubLabel) : Decidable (endsStayLatest hub label) :=
  match label with
  | .publish event => inferInstanceAs (Decidable (event.isLive = true →
      hub.history.any (ends event.operationId) = true → hub.latest.any (·.ends event.operationId) = true))
  | .openStream => .isTrue trivial
  | .receive _ => .isTrue trivial
  | .close _ => .isTrue trivial

/-- Nothing came back so far, and the operation of a live latest event has not ended. -/
structure StatusPublisher.Sound (hub : StatusPublisher) : Prop where
  each : Each NoResurrection hub.history
  latest : ∀ event, hub.latest = some event → event.isLive = true →
    hub.history.any (ends event.operationId) = false

variable {event : StatusEvent} {hub : StatusPublisher}

namespace StatusHubAux

theorem not_ends_of_isLive (h : event.isLive = true) (operationId : Bytes) : event.ends operationId = false := by
  simp only [StatusEvent.isLive, Bool.or_eq_true, decide_eq_true_eq] at h
  rcases h with h | h <;> simp [StatusEvent.ends, StatusEvent.isEnd, h]

/-- An event is stale if it is live and the latest event ends its operation. -/
theorem stale_eq (hub : StatusPublisher) (event : StatusEvent) :
    hub.stale event = (hub.latest.any (·.ends event.operationId) && event.isLive) := by
  unfold stale StatusEvent.ends
  cases hub.latest with
  | none | some => rfl

/-- A delivery of the latest event leaves the hub sound. -/
theorem sound_getD_trySend {other : StatusPublisher} (stream : Nat) (h : hub.Sound)
    (hother : other.Sound) (hlatest : hub.latest = some event) : ((hub.trySend stream event).getD other).Sound := by
  unfold trySend
  split
  · exact hother
  split
  · refine ⟨⟨h.latest event hlatest, h.each⟩, ?_⟩
    intro live hsome hlive
    simpa [ends] using h.latest live hsome hlive
  · exact hother

theorem sound_openStream (h : hub.Sound) : hub.openStream.Sound := by
  have hopened : StatusPublisher.Sound
      { hub with channels := Function.update hub.channels hub.nextStream (some []), nextStream := hub.nextStream + 1 } :=
    ⟨h.each, h.latest⟩
  unfold openStream
  split
  case h_1 latest hlatest =>
    have hsent := sound_getD_trySend hub.nextStream hopened hopened hlatest
    exact ⟨hsent.each, hsent.latest⟩
  case h_2 => exact ⟨h.each, h.latest⟩

/-- An accepted event leaves the hub sound, unless it is a live event of an operation that has ended. -/
theorem sound_accept (heach : Each NoResurrection hub.history)
    (hevent : event.isLive = true → hub.history.any (ends event.operationId) = false) :
    (hub.accept event).Sound := by
  have hnew : StatusPublisher.Sound { hub with latest := some event } := by
    refine ⟨heach, ?_⟩
    intro live hlive
    cases hlive
    exact hevent
  unfold accept
  dsimp only
  split
  case h_1 => exact hnew
  case h_2 stream _ => exact sound_getD_trySend stream hnew ⟨hnew.each, hnew.latest⟩ rfl

/-- A publication keeps the ends. -/
theorem sound_publish (h : hub.Sound) (hguard : endsStayLatest hub (.publish event)) : (hub.publish event).Sound := by
  have heach : Each NoResurrection (.published event :: hub.history) := ⟨trivial, h.each⟩
  unfold publish
  split
  case isTrue hstale =>
    -- The latest event is an end, so nothing is to be said about it.
    rw [stale_eq, Bool.and_eq_true] at hstale
    refine ⟨heach, ?_⟩
    intro live hlatest hlive
    have hends := hstale.1
    rw [hlatest, Option.any_some, not_ends_of_isLive hlive] at hends
    cases hends
  case isFalse hfresh =>
    refine sound_accept heach ?_
    intro hlive
    rw [List.any_cons, ends, not_ends_of_isLive hlive, Bool.false_or]
    cases hended : hub.history.any (ends event.operationId) with
    | false => rfl
    | true =>
      rw [stale_eq, hguard hlive hended, hlive] at hfresh
      exact absurd rfl hfresh

/-- A step of the hub keeps it sound. -/
theorem sound_hubStep (hub : StatusPublisher) (label : HubLabel) (h : hub.Sound) (hguard : endsStayLatest hub label) :
    (hubStep hub label).Sound := by
  cases label with
  | publish event => exact sound_publish h hguard
  | openStream => exact sound_openStream h
  | receive | close => exact ⟨h.each, h.latest⟩

end StatusHubAux

open StatusHubAux

/-- After the end of an operation was published no live event of it is delivered, in every run in which the live events
of an operation that has ended are published only while its end is the latest event. -/
theorem ended_operation_stays_ended (labels : List HubLabel) (hguard : Along hubStep endsStayLatest .new labels)
    (later before : List HubEntry) (stream : Nat) (event : StatusEvent)
    (hhistory : (run hubStep .new labels).history = later ++ .delivered stream event :: before)
    (hlive : event.isLive = true) : before.any (ends event.operationId) = false := by
  have hsound : (run hubStep .new labels).Sound :=
    invariant_of_along sound_hubStep ⟨trivial, fun _ h => nomatch h⟩ hguard
  have heach := hsound.each
  rw [hhistory] at heach
  exact heach.at_split hlive

/-- An operation that connects and fails, a late event of it, and another operation. -/
def failedRun : List HubLabel :=
  [.openStream, .publish (.connected [1] 5), .publish (.failed [1] none dataPlaneDropError),
    .publish (.connecting [1] .startingDataPlane), .publish (.connecting [2] .negotiatingTunnel)]

/-- The late event is dropped; the event of the other operation is delivered, and that operation has not ended. -/
theorem ended_operation_stays_ended_failed :
    Along hubStep endsStayLatest .new failedRun ∧
      published (.failed [1] none dataPlaneDropError) ∈ (run hubStep .new failedRun).history.tail ∧
      (run hubStep .new failedRun).history.tail.any (ends [2]) = false := by
  have hguard : Along hubStep endsStayLatest .new failedRun := by decide +kernel
  have hhead : (run hubStep .new failedRun).history =
      .delivered 0 (.connecting [2] .negotiatingTunnel) :: (run hubStep .new failedRun).history.tail := by decide +kernel
  exact ⟨hguard, by decide +kernel, ended_operation_stays_ended failedRun hguard [] _ 0 _ hhead rfl⟩

/-- An event of another operation comes between the failure and a late event of the failed operation. -/
def resurrectingRun : List HubLabel :=
  [.openStream, .publish (.failed [1] none dataPlaneDropError), .publish (.connecting [2] .negotiatingTunnel),
    .publish (.connected [1] 5)]

/-- The stream is told that the failed operation is connected. -/
theorem connected_after_failure :
    (run hubStep .new resurrectingRun).history =
      .delivered 0 (.connected [1] 5) ::
        [.published (.connected [1] 5), .delivered 0 (.connecting [2] .negotiatingTunnel),
          .published (.connecting [2] .negotiatingTunnel), .delivered 0 (.failed [1] none dataPlaneDropError),
          .published (.failed [1] none dataPlaneDropError)] := by
  decide +kernel

/-! ## What a stream receives -/

/-- What went into the channel of a stream, in order. -/
def received (stream : Nat) : List HubEntry → List StatusEvent
  | [] => []
  | .published _ :: before => received stream before
  | .delivered other event :: before =>
    if other = stream then received stream before ++ [event] else received stream before

/-- What a stream is to receive in a run: the latest event when it is opened, and then every accepted event until it is
closed. It is closed when its receiver goes away, when another stream takes its place and when an event finds its channel
full. The channel is `none` before the opening and after the close; `next` is the stream that is opened next. -/
def expected (stream : Nat) (latest : Option StatusEvent) (next : Nat) (channel : Option (List StatusEvent)) :
    List HubLabel → List StatusEvent
  | [] => []
  | .publish event :: rest =>
    if StatusPublisher.stale { StatusPublisher.new with latest } event then expected stream latest next channel rest
    else
      match channel with
      | none => expected stream (some event) next none rest
      | some queued =>
        if queued.length < streamCapacity then
          event :: expected stream (some event) next (some (queued ++ [event])) rest
        else expected stream (some event) next none rest
  | .openStream :: rest =>
    if next = stream then latest.toList ++ expected stream latest (next + 1) (some latest.toList) rest
    else expected stream latest (next + 1) none rest
  | .receive other :: rest => expected stream latest next (if other = stream then channel.map List.tail else channel) rest
  | .close other :: rest => expected stream latest next (if other = stream then none else channel) rest

/-- The step is not that of another receiver. -/
def HubLabel.concerns (stream : Nat) : HubLabel → Bool
  | .receive other => other = stream
  | .close other => other = stream
  | _ => true

namespace StatusHubAux

/-- The channel of a stream while it is attached. -/
def attached (hub : StatusPublisher) (stream : Nat) : Option (List StatusEvent) :=
  if hub.push = some stream then hub.channels stream else none

/-- From every state on a stream receives what it is to receive. -/
theorem received_run (hub : StatusPublisher) (stream : Nat) (labels : List HubLabel) :
    received stream (run hubStep hub labels).history =
      received stream hub.history ++ expected stream hub.latest hub.nextStream (attached hub stream) labels := by
  induction labels generalizing hub with
  | nil => exact (List.append_nil _).symm
  | cons label rest ih =>
    rw [run_cons, ih]
    cases label with
    | publish event =>
      have hsame : StatusPublisher.stale { StatusPublisher.new with latest := hub.latest } event = hub.stale event := rfl
      simp only [expected, hsame, hubStep, publish]
      cases hub.stale event with
      | true => rfl
      | false =>
        unfold accept trySend
        cases hpush : hub.push with
        | none => simp [attached, hpush, received]
        | some other =>
          by_cases hother : other = stream
          · subst hother
            cases hchannel : hub.channels other with
            | none => simp [attached, hpush, hchannel, received]
            | some queued =>
              by_cases hroom : queued.length < streamCapacity <;> simp [attached, hpush, hchannel, hroom, received]
          · cases hchannel : hub.channels other with
            | none => simp [attached, hpush, hother, hchannel, received]
            | some queued =>
              by_cases hroom : queued.length < streamCapacity <;>
                simp [attached, hpush, hother, hchannel, hroom, received]
    | openStream =>
      have hroom : 0 < streamCapacity := Nat.zero_lt_succ _
      by_cases hnext : hub.nextStream = stream
      · subst hnext
        cases hlatest : hub.latest <;> simp [hubStep, openStream, expected, attached, trySend, hlatest, hroom, received]
      · cases hlatest : hub.latest <;>
          simp [hubStep, openStream, expected, attached, trySend, hlatest, hroom, received, hnext]
    | receive other | close other =>
      by_cases hother : other = stream
      · subst hother
        by_cases hpush : hub.push = some other <;> simp [hubStep, expected, attached, hpush]
      · simp [hubStep, expected, attached, hother, Function.update_of_ne (Ne.symm hother)]

/-- The steps of other receivers do not count. -/
theorem expected_filter (stream : Nat) (labels : List HubLabel) (latest : Option StatusEvent) (next : Nat)
    (channel : Option (List StatusEvent)) :
    expected stream latest next channel (labels.filter (HubLabel.concerns stream)) =
      expected stream latest next channel labels := by
  induction labels generalizing latest next channel with
  | nil => rfl
  | cons label rest ih =>
    cases label with
    | publish | openStream => simp [List.filter_cons, HubLabel.concerns, expected, ih]
    | receive other | close other =>
      by_cases hother : other = stream <;> simp [HubLabel.concerns, expected, hother, ih]

end StatusHubAux

/-- In every run a stream receives the latest event at its opening and then every accepted event, in order and once, until it
is closed. What the other receivers do makes no difference. -/
theorem stream_coherent (labels : List HubLabel) (stream : Nat) :
    received stream (run hubStep .new labels).history = expected stream none 0 none labels ∧
      received stream (run hubStep .new labels).history =
        received stream (run hubStep .new (labels.filter (HubLabel.concerns stream))).history := by
  have hall := received_run .new stream
  refine ⟨hall labels, ?_⟩
  rw [hall, hall, expected_filter]

end ExvVpn.EngineStatus
